import IndicatorStrategy.Proofs.Store.Calls
import IndicatorStrategy.Proofs.Store.Database
import IndicatorStrategy.Proofs.Store.JsonFile
/-!
# IndicatorStrategy.Proofs.Store.Backends

**All backends are the same map.** What a store answers to calls that follow one another
depends on nothing but the map that it begins with (`Workspace.HoldsMap`): not on whether
that is kept in memory, in a file or in a database, and not on how it was written there.

A JSON file keeps a map if it is blank or an object of strings, or if it is not there and
can be made. There are two other cases (`JsonFile.holds_or_unfit_or_unmade`). Any other file
is `Unfit`: every call fails and the file is left alone. Where none is and none can be made,
every key is read as absent and every value is refused.
-/

namespace IndicatorStrategy

/-! ### JSON files -/

namespace Disk

variable {d : Disk} {path text : String}

theorem find_of_read (h : d.read path = .ok text) : d.find path = .ok (.file text) := by
  unfold read at h
  split at h
  · rename_i hfind
    cases h
    exact hfind
  all_goals cases h

/-- A text that is read may be written over. -/
theorem exists_places_of_read (h : d.read path = .ok text) : ∃ names, d.Places path names := by
  obtain ⟨names, hplaces, -⟩ := exists_places_of_find (find_of_read h) (by simp)
  exact ⟨names, hplaces⟩

theorem contains_of_read (h : d.read path = .ok text) : d.contains path = true := by
  rw [contains, find_of_read h]
  rfl

end Disk

namespace JsonFile

variable {d : Disk} {path : String} {pairs : Assoc String String} {contents : Contents}

/-- What a JSON file holds as a store, as the members of its object. -/
inductive Holds (d : Disk) (path : String) : Assoc String String → Prop
  /-- There is no file, but one can be made. -/
  | absent {names : List String} (hnone : d.contains path = false)
      (hplace : d.place path = .ok names) : Holds d path []
  | blank {text : String} (hread : d.read path = .ok text) (hblank : isBlank text = true) :
      Holds d path []
  | object {text : String} {pairs : Assoc String String} (hread : d.read path = .ok text)
      (hobject : IsObject text pairs) : Holds d path pairs

/-- There is something else than a blank text or an object of strings. -/
structure Unfit (d : Disk) (path : String) : Prop where
  there : d.contains path = true
  other : ∀ text, d.read path = .ok text →
    isBlank text = false ∧ ∀ pairs, ¬IsObject text pairs

/-- There is no file, and none can be made. -/
structure Unmade (d : Disk) (path : String) (fault : SystemFault) : Prop where
  none : d.contains path = false
  refused : d.place path = .error fault

/-- The file is an object of strings with its keys ascending. -/
def IsSorted (d : Disk) (path : String) : Prop :=
  ∃ text pairs, d.read path = .ok text ∧ IsObject text pairs ∧ Assoc.Ascending pairs

theorem load_of_read {text : String} (h : d.read path = .ok text) :
    load d path = parse path text := by
  rw [load, Disk.contains_of_read h, if_pos rfl, h]

/-- A file keeps what its members come to. -/
theorem keeps_iff :
    Keeps d path contents ↔ ∃ pairs, Holds d path pairs ∧ contents = contentsOf pairs := by
  constructor
  · intro ⟨⟨names, hplace⟩, hload⟩
    -- what is loaded is a text that parses, or nothing because there is no file
    rw [load] at hload
    split at hload
    · split at hload
      · rename_i text hread
        rcases parse_ok_iff.mp hload with ⟨hblank, rfl⟩ | ⟨pairs, hobject, rfl⟩
        · exact ⟨[], .blank hread hblank, rfl⟩
        · exact ⟨pairs, .object hread hobject, rfl⟩
      · cases hload
    · rename_i hnone
      cases hload
      exact ⟨[], .absent (eq_false_of_ne_true hnone) (Disk.place_eq_ok_iff.mpr hplace), rfl⟩
  · rintro ⟨pairs, hholds, rfl⟩
    cases hholds with
    | absent hnone hplace =>
      refine ⟨⟨_, Disk.place_eq_ok_iff.mp hplace⟩, ?_⟩
      rw [load, hnone]
      rfl
    | blank hread hblank =>
      refine ⟨Disk.exists_places_of_read hread, ?_⟩
      rw [load_of_read hread]
      exact parse_ok_iff.mpr (.inl ⟨hblank, rfl⟩)
    | object hread hobject =>
      refine ⟨Disk.exists_places_of_read hread, ?_⟩
      rw [load_of_read hread]
      exact parse_ok_iff.mpr (.inr ⟨pairs, hobject, rfl⟩)

/-- There are no other cases. -/
theorem holds_or_unfit_or_unmade (d : Disk) (path : String) :
    (∃ pairs, Holds d path pairs) ∨ Unfit d path ∨ ∃ fault, Unmade d path fault := by
  by_cases hthere : d.contains path = true
  · by_cases hfit : ∃ text, d.read path = .ok text ∧
      (isBlank text = true ∨ ∃ pairs, IsObject text pairs)
    · obtain ⟨text, hread, hblank | ⟨pairs, hobject⟩⟩ := hfit
      · exact .inl ⟨[], .blank hread hblank⟩
      · exact .inl ⟨pairs, .object hread hobject⟩
    · refine .inr (.inl ⟨hthere, fun text hread => ⟨?_, fun pairs hobject => ?_⟩⟩)
      · exact eq_false_of_ne_true fun hblank => hfit ⟨text, hread, .inl hblank⟩
      · exact hfit ⟨text, hread, .inr ⟨pairs, hobject⟩⟩
  · have hnone := eq_false_of_ne_true hthere
    cases hplace : d.place path with
    | ok names => exact .inl ⟨[], .absent hnone hplace⟩
    | error fault => exact .inr (.inr ⟨fault, hnone, hplace⟩)

/-- A file that is unfit cannot be loaded. -/
theorem Unfit.exists_load (h : Unfit d path) : ∃ e, load d path = .error e := by
  cases hload : load d path with
  | error e => exact ⟨e, rfl⟩
  | ok contents =>
    rw [load, h.there, if_pos rfl] at hload
    split at hload
    · rename_i text hread
      obtain ⟨hblank, hobject⟩ := h.other text hread
      rcases parse_ok_iff.mp hload with ⟨hblank', -⟩ | ⟨pairs, hobject', -⟩
      · rw [hblank] at hblank'
        cases hblank'
      · exact absurd hobject' (hobject pairs)
    · cases hload

end JsonFile

/-! ### Calls -/

namespace Call

/-- A call that fails. -/
def refusal (e : Failure) : Call → Answer
  | get _ => .value (.error e)
  | set _ _ => .stored (.error e)

/-- A call to a store without values that takes none. -/
def vacancy (e : Failure) : Call → Answer
  | get _ => .value (.ok none)
  | set _ _ => .stored (.error e)

end Call

namespace Workspace

variable {w : Workspace} {path : String} {m : String → Option String}

/-- **What a workspace holds**, as a map: its contents in memory, what the members of its
JSON file come to, or the rows of its database. -/
inductive HoldsMap (w : Workspace) : (String → Option String) → Prop
  | memory {contents : Contents} (hw : w.backend = .memory contents) :
      HoldsMap w (Assoc.get? contents)
  | jsonFile {path : String} {pairs : Assoc String String} (hw : w.backend = .jsonFile path)
      (hfile : JsonFile.Holds w.disk path pairs) : HoldsMap w (JsonFile.lastOf pairs)
  | database {t : Table} (ht : w.KeepsInTable t) : HoldsMap w t.get?

/-- A workspace that holds a map is a store that works, and the map is its contents. -/
theorem HoldsMap.exists_reliable (h : w.HoldsMap m) :
    ∃ R : KeyValue.Reliable Workspace, R.Works w ∧ R.contents w = m ∧
      ∀ v, R.Works v → v.HoldsMap (R.contents v) := by
  -- the contents are read off the workspace itself, since a later one may hold others
  cases h with
  | memory hw =>
    refine ⟨reliable, ⟨_, hw⟩, ?_, ?_⟩
    · simp [reliable, held, hw]
    · intro v ⟨contents, hv⟩
      have hheld : v.held = contents := by simp [held, hv]
      show v.HoldsMap (Assoc.get? v.held)
      rw [hheld]
      exact .memory hv
  | jsonFile hw hfile =>
    have hkeeps : w.KeepsInFile _ := ⟨_, hw, JsonFile.keeps_iff.mpr ⟨_, hfile, rfl⟩⟩
    refine ⟨reliableFile, ⟨_, hkeeps⟩, ?_, ?_⟩
    · show Assoc.get? w.heldInFile = _
      rw [hkeeps.heldInFile, JsonFile.get?_contentsOf]
    · intro v ⟨contents, hv⟩
      show v.HoldsMap (Assoc.get? v.heldInFile)
      obtain ⟨path, hpath, hkeeps⟩ := id hv
      obtain ⟨pairs, hholds, rfl⟩ := JsonFile.keeps_iff.mp hkeeps
      rw [hv.heldInFile, JsonFile.get?_contentsOf]
      exact .jsonFile hpath hholds
  | database ht =>
    refine ⟨reliableDatabase, ⟨_, ht⟩, ?_, ?_⟩
    · show w.table.get? = _
      rw [ht.table]
    · intro v ⟨t, hv⟩
      show v.HoldsMap v.table.get?
      rw [hv.table]
      exact .database hv

/-- A JSON file stays the backend, whatever is called. -/
theorem backend_after (hw : w.backend = .jsonFile path) (calls : List Call) :
    (Call.after w calls).backend = .jsonFile path := by
  induction calls generalizing w with
  | nil => exact hw
  | cons c calls ih =>
    refine ih ?_
    cases c with
    | get key => simp [Call.run, KeyValue.get, get, hw]
    | set key value =>
      simp only [Call.run, KeyValue.set, store, hw]
      split <;> simp [hw]

/-- After a value is stored, the file has its keys ascending. -/
theorem KeepsInFile.isSorted_set {contents : Contents} (h : w.KeepsInFile contents)
    (hw : w.backend = .jsonFile path) (key value : String) :
    JsonFile.IsSorted (KeyValue.set w key value).2.disk path := by
  obtain ⟨path', hw', hkeeps⟩ := h
  rw [hw] at hw'
  cases hw'
  obtain ⟨d', hstore, hread, -⟩ := hkeeps.store key value
  have hascending := (JsonFile.ascending_of_load hkeeps.load).putSorted key value
  simp only [KeyValue.set, store, hw, hstore]
  exact ⟨_, _, hread, JsonFile.isObject_render hascending.nodup_keys, hascending⟩

/-- A file that is unfit refuses every call and stays as it is. -/
theorem exists_run_of_unfit (hw : w.backend = .jsonFile path)
    (h : JsonFile.Unfit w.disk path) : ∃ e, ∀ c : Call, c.run w = (c.refusal e, w) := by
  obtain ⟨e, hload⟩ := h.exists_load
  refine ⟨e, fun c => ?_⟩
  cases c with
  | get key => simp [Call.run, Call.refusal, KeyValue.get, get, hw, hload, Except.map]
  | set key value =>
    simp [Call.run, Call.refusal, KeyValue.set, store, hw, JsonFile.store, hload]

/-- Where no file is and none can be made, there is no value and none is taken. -/
theorem run_of_unmade {fault : SystemFault} (hw : w.backend = .jsonFile path)
    (h : JsonFile.Unmade w.disk path fault) (c : Call) :
    c.run w = (c.vacancy (.system fault), w) := by
  have hload : JsonFile.load w.disk path = .ok [] := by
    rw [JsonFile.load, h.none]
    rfl
  cases c with
  | get key => simp [Call.run, Call.vacancy, KeyValue.get, get, hw, hload, Except.map]
  | set key value =>
    simp [Call.run, Call.vacancy, KeyValue.set, store, hw, JsonFile.store, hload, Disk.write,
      h.refused, Except.map]

/-- **All backends are the same map.** Calls are answered as the map answers them that the
workspace holds, and its file is in order after each value that is stored. Where a JSON file
holds no map, it stays as it is. -/
theorem answers_eq_mapAnswers (w : Workspace) (calls : List Call) :
    (∀ m, w.HoldsMap m → Call.answers w calls = Call.mapAnswers m calls ∧
      (Call.after w calls).HoldsMap (Call.lookUp m calls)) ∧
    ∀ path, w.backend = .jsonFile path →
      (∀ pairs key value, JsonFile.Holds w.disk path pairs →
        JsonFile.IsSorted (Call.after w (calls ++ [.set key value])).disk path) ∧
      (JsonFile.Unfit w.disk path → ∃ e,
        Call.answers w calls = calls.map (Call.refusal e) ∧ Call.after w calls = w) ∧
      ∀ fault, JsonFile.Unmade w.disk path fault →
        Call.answers w calls = calls.map (Call.vacancy (.system fault)) ∧
          Call.after w calls = w := by
  refine ⟨?_, ?_⟩
  · intro m h
    obtain ⟨R, hworks, hcontents, hmap⟩ := h.exists_reliable
    have hafter := hmap _ (Call.works_after R hworks calls)
    rw [Call.contents_after R hworks, hcontents] at hafter
    rw [Call.answers_of_reliable R hworks, hcontents]
    exact ⟨rfl, hafter⟩
  -- a JSON file may hold no map, so its parts do not go through a store that works
  · intro path hw
    refine ⟨?_, ?_, ?_⟩
    · intro pairs key value h
      have hkeeps : w.KeepsInFile _ := ⟨path, hw, JsonFile.keeps_iff.mpr ⟨_, h, rfl⟩⟩
      obtain ⟨contents, hafter⟩ := Call.works_after reliableFile ⟨_, hkeeps⟩ calls
      rw [Call.after_append]
      exact hafter.isSorted_set (backend_after hw calls) key value
    · intro h
      obtain ⟨e, hrun⟩ := exists_run_of_unfit hw h
      exact ⟨e, Call.answers_of_unchanged hrun calls⟩
    · intro fault h
      exact Call.answers_of_unchanged (run_of_unmade hw h) calls

/-- Three workspaces that hold one map, and two that hold none. -/
theorem answers_of_five_workspaces :
    let calls : List Call := [.set "k" "v", .get "k", .get "l", .get "m"]
    let answers : List Answer :=
      [.stored (.ok ()), .value (.ok (some "v")), .value (.ok (some "w")), .value (.ok none)]
    let memory : Workspace := ⟨.empty, .memory [("l", "w")]⟩
    let file : Workspace :=
      ⟨⟨[(["s.json"], .file (JsonFile.render [("l", "w")]))]⟩, .jsonFile "s.json"⟩
    let database : Workspace := ⟨.empty, .database
      (.fresh none (.plain "") (.memory none (some (Table.empty.store "l" "w"))))⟩
    let unfit : Workspace := ⟨⟨[(["s.json"], .file "[]")]⟩, .jsonFile "s.json"⟩
    let unmade : Workspace := ⟨.empty, .jsonFile "missing/s.json"⟩
    Call.answers memory calls = answers ∧ Call.answers file calls = answers ∧
      Call.answers database calls = answers ∧
      JsonFile.IsSorted (Call.after file (calls ++ [.set "a" "b"])).disk "s.json" ∧
      (∃ e, Call.answers unfit calls = calls.map (Call.refusal e) ∧
        Call.after unfit calls = unfit) ∧
      Call.answers unmade calls = calls.map (Call.vacancy (.system .notFound)) ∧
        Call.after unmade calls = unmade := by
  intro calls answers memory file database unfit unmade
  have hobject : JsonFile.IsObject (JsonFile.render [("l", "w")]) [("l", "w")] :=
    JsonFile.isObject_render (by decide)
  have hfile : JsonFile.Holds file.disk "s.json" [("l", "w")] := .object rfl hobject
  have hserves : Database.Connection.Serves
      (.fresh none (.plain "") (.memory none (some (Table.empty.store "l" "w")))) .empty
      (Table.empty.store "l" "w") :=
    ⟨.memory rfl rfl, rfl, by simp [Database.Connection.fresh]⟩
  have hunfit : JsonFile.Unfit unfit.disk "s.json" := by
    refine ⟨by decide, fun text htext => ?_⟩
    cases (show Except.ok "[]" = Except.ok text from htext)
    refine ⟨by decide, fun pairs hpairs => ?_⟩
    simp [JsonFile.IsObject, Json.Document.ofText, Json.tokens, Json.Tree.value,
      Json.Tree.after] at hpairs
  refine ⟨?_, ?_, ?_, ?_, ?_, ?_⟩
  · exact ((answers_eq_mapAnswers memory calls).1 _ (.memory rfl)).1.trans (by decide)
  · exact ((answers_eq_mapAnswers file calls).1 _ (.jsonFile rfl hfile)).1.trans (by decide)
  · exact ((answers_eq_mapAnswers database calls).1 _ (.database ⟨_, rfl, hserves⟩)).1.trans
      (by decide)
  · exact ((answers_eq_mapAnswers file calls).2 _ rfl).1 _ "a" "b" hfile
  · exact ((answers_eq_mapAnswers unfit calls).2 _ rfl).2.1 hunfit
  · exact ((answers_eq_mapAnswers unmade calls).2 _ rfl).2.2 _ ⟨by decide, by decide⟩

/-- A path into a directory that is not there: no value can be stored, while memory takes
every value. -/
theorem absent_file_unlike_memory :
    ¬∀ (d : Disk) (path : String) (calls : List Call), d.contains path = false →
      Call.answers (⟨d, .jsonFile path⟩ : Workspace) calls
        = Call.answers (⟨d, .memory []⟩ : Workspace) calls := by
  intro h
  exact absurd (h .empty "missing/s.json" [.set "k" "v"] (by decide)) (by decide)

end Workspace
end IndicatorStrategy

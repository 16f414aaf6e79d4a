import IndicatorStrategy.Proofs.CommandLine.Opening
import IndicatorStrategy.Proofs.Store.Backends
import IndicatorStrategy.Proofs.Store.Reopening
/-!
# IndicatorStrategy.Proofs.Store.Configured

**The configured store, from its opening to its closing.** A store that opens and of which no
call fails (`Workspace.NeverFails`) is one of three: a memory, a JSON file that keeps contents,
or a database that serves its table. Which one it is and which map it holds (`Configuration.Uses`)
is said once, when it is opened, and stays true from one call to the next.

What is there once it is closed depends on where it was. A memory is gone, and the files are
those that there were. Anything else is in its files (`Configuration.Uses.close`): wherever the
store opens again it holds the same map, and all files but its own are as before.
-/

namespace IndicatorStrategy

open Database (Connection Location)

/-! ### Stores that never fail -/

/-- Whether an answer is no failure. -/
def Answer.isOk : Answer → Bool
  | value result => result.isOk
  | stored result => result.isOk

namespace Workspace

/-- No call fails, whatever was called before. -/
def NeverFails (w : Workspace) : Prop :=
  ∀ calls : List Call, ∀ a ∈ Call.answers w calls, a.isOk = true

/-- What a store answers under each key. -/
def answered (w : Workspace) (key : String) : Option String :=
  (KeyValue.get w key).1.toOption.join

variable {w : Workspace}

/-- A store that works never fails. -/
theorem neverFails_of_works (R : KeyValue.Reliable Workspace) (h : R.Works w) : w.NeverFails := by
  intro calls a ha
  rw [Call.answers_of_reliable R h, Call.mapAnswers, List.mem_mapIdx] at ha
  obtain ⟨i, hi, rfl⟩ := ha
  cases calls[i] <;> rfl

theorem answered_of_works (R : KeyValue.Reliable Workspace) (h : R.Works w) :
    w.answered = R.contents w := by
  funext key
  rw [answered, R.get_result h]
  rfl

/-- One call to a store that never fails. -/
theorem NeverFails.isOk (h : w.NeverFails) (c : Call) : (c.run w).1.isOk = true :=
  h [c] _ (by simp [Call.answers])

theorem NeverFails.set (h : w.NeverFails) (key value : String) :
    (KeyValue.set w key value).1 = .ok () := by
  have hok := h.isOk (.set key value)
  rw [Call.run] at hok
  cases hset : (KeyValue.set w key value).1 with
  | ok u => rfl
  | error e =>
    rw [hset] at hok
    cases hok

end Workspace

namespace Configuration

variable {c : Configuration} {d : Disk} {w : Workspace} {m : String → Option String}

/-! ### The store in use -/

/-- What the configured store is after it was opened on files `d` and used: where it holds which
map, and that no other files were changed. -/
inductive Uses (c : Configuration) (d : Disk) : Workspace → (String → Option String) → Prop
  | memory {contents : Contents} (hbackend : c.usedBackend = "memory") :
    Uses c d ⟨d, .memory contents⟩ (Assoc.get? contents)
  | jsonFile {d' : Disk} {names : List String} {contents : Contents}
      (hbackend : c.usedBackend = "json") (hplaces : d.Places c.jsonPath names)
      (hkeeps : JsonFile.Keeps d' c.jsonPath contents)
      (hchange : Disk.Confined [names] [names] d d') :
    Uses c d ⟨d', .jsonFile c.jsonPath⟩ (Assoc.get? contents)
  | database {d' : Disk} {connection : Connection} {text : String} {l : Location} {t : Table}
      (hbackend : c.usedBackend = "sqlite") (htext : c.get? storeSection "path" = some text)
      (hl : Location.ofText text = .ok l) (hwritable : l.isReadOnly = false)
      (hlocation : connection.location = l) (hserves : connection.Serves d' t)
      (hreaches : Database.Reaches l connection d d') :
    Uses c d ⟨d', .database connection⟩ t.get?

theorem Uses.get (h : Uses c d w m) (key : String) :
    (KeyValue.get w key).1 = .ok (m key) ∧ Uses c d (KeyValue.get w key).2 m := by
  cases h with
  | memory hbackend => exact ⟨rfl, .memory hbackend⟩
  | @jsonFile d' _ _ hbackend hplaces hkeeps hchange =>
    have hfile : Workspace.KeepsInFile ⟨d', .jsonFile c.jsonPath⟩ _ := ⟨_, rfl, hkeeps⟩
    rw [hfile.get]
    exact ⟨rfl, .jsonFile hbackend hplaces hkeeps hchange⟩
  | database hbackend htext hl hwritable hlocation hserves hreaches =>
    obtain ⟨connection', hget, hserves', hcontinues⟩ := hserves.exists_get key
    simp only [KeyValue.get, Workspace.get, hget]
    refine ⟨trivial, .database hbackend htext hl hwritable ?_ hserves' ?_⟩
    · exact hcontinues.location.trans hlocation
    · exact hreaches.continues hcontinues (Connection.confines_refl _ _)

theorem Uses.set (h : Uses c d w m) (key value : String) :
    (KeyValue.set w key value).1 = .ok () ∧
      Uses c d (KeyValue.set w key value).2 (Function.update m key (some value)) := by
  cases h with
  | memory hbackend =>
    rw [← Assoc.get?_putSorted_eq_update]
    exact ⟨rfl, .memory hbackend⟩
  | @jsonFile d' names _ hbackend hplaces hkeeps hchange =>
    obtain ⟨d'', hstore, -, hkeeps'⟩ := hkeeps.store key value
    have hwritten := JsonFile.confined_store (hplaces.confined hchange) hstore
    simp only [KeyValue.set, Workspace.store, hstore]
    rw [← Assoc.get?_putSorted_eq_update]
    exact ⟨trivial, .jsonFile hbackend hplaces hkeeps' (hchange.trans hwritten)⟩
  | database hbackend htext hl hwritable hlocation hserves hreaches =>
    obtain ⟨connection', d'', hstore, hserves', hcontinues, hconfines⟩ :=
      hserves.exists_store key value
    simp only [KeyValue.set, Workspace.store, hstore]
    rw [← Table.get?_store_eq_update]
    refine ⟨trivial, .database hbackend htext hl hwritable ?_ hserves' ?_⟩
    · exact hcontinues.location.trans hlocation
    · exact hreaches.continues hcontinues hconfines

theorem Uses.answered (h : Uses c d w m) : w.answered = m := by
  funext key
  rw [Workspace.answered, (h.get key).1]
  rfl

/-- **The configured store** works as long as it is in use. -/
def reliableStore (c : Configuration) (d : Disk) : KeyValue.Reliable Workspace where
  Works w := ∃ m, Uses c d w m
  contents := Workspace.answered
  get_result := by
    intro w ⟨m, h⟩ key
    rw [(h.get key).1, h.answered]
  get_works := by
    intro w ⟨m, h⟩ key
    exact ⟨m, (h.get key).2⟩
  get_contents := by
    intro w ⟨m, h⟩ key
    rw [(h.get key).2.answered, h.answered]
  set_result := by
    intro w ⟨m, h⟩ key value
    exact (h.set key value).1
  set_works := by
    intro w ⟨m, h⟩ key value
    exact ⟨_, (h.set key value).2⟩
  set_contents := by
    intro w ⟨m, h⟩ key value
    rw [(h.set key value).2.answered, h.answered]

theorem Uses.neverFails (h : Uses c d w m) : w.NeverFails :=
  Workspace.neverFails_of_works (c.reliableStore d) ⟨m, h⟩

/-! ### Opening -/

/-- A JSON file that takes a value keeps contents. -/
theorem exists_keeps_of_neverFails {path : String}
    (h : Workspace.NeverFails ⟨d, .jsonFile path⟩) :
    ∃ contents, JsonFile.Keeps d path contents := by
  rcases JsonFile.holds_or_unfit_or_unmade d path with ⟨pairs, hholds⟩ | hunfit | ⟨fault, hunmade⟩
  · exact ⟨_, JsonFile.keeps_iff.mpr ⟨pairs, hholds, rfl⟩⟩
  · obtain ⟨e, hrun⟩ := Workspace.exists_run_of_unfit (w := ⟨d, .jsonFile path⟩) rfl hunfit
    have hok := h.isOk (.get "")
    rw [hrun] at hok
    cases hok
  · have hok := h.isOk (.set "" "")
    rw [Workspace.run_of_unmade rfl hunmade] at hok
    cases hok

/-- The configured store opens as a workspace, and never fails then. -/
structure Opens (c : Configuration) (d : Disk) (w : Workspace) : Prop where
  store : c.openStore none d = (.ok w.backend, w.disk)
  neverFails : w.NeverFails

/-- There is one way to open the store. -/
theorem Opens.eq {w' : Workspace} (h : c.Opens d w) (h' : c.Opens d w') : w = w' := by
  obtain ⟨d₁, backend⟩ := w
  obtain ⟨d₂, backend'⟩ := w'
  cases h.store.symm.trans h'.store
  rfl

/-- **A store that opens and never fails** is in use from then on. -/
theorem Opens.uses (h : c.Opens d w) : Uses c d w w.answered := by
  obtain ⟨d', backend⟩ := w
  obtain ⟨hopen, hnever⟩ := h
  suffices ∃ m, Uses c d ⟨d', backend⟩ m by
    obtain ⟨m, h⟩ := this
    rw [h.answered]
    exact h
  simp only [openStore, Option.elim_none] at hopen
  split at hopen
  · rename_i hbackend
    rw [openDatabase] at hopen
    split at hopen
    · cases hopen
    rename_i text htext
    cases hopened : Database.openAt none text d with
    | mk result d₁ =>
      rw [hopened] at hopen
      cases result with
      | error e => cases hopen
      | ok connection =>
        cases hopen
        have hset := hnever.set "" ""
        simp only [KeyValue.set, Workspace.store] at hset
        cases hstore : connection.store d' "" "" with
        | mk stored rest =>
          rw [hstore] at hset
          obtain ⟨connection', d''⟩ := rest
          obtain rfl : stored = .ok () := hset
          obtain ⟨l, t, hl, hwritable, hlocation, hserves, hreaches⟩ :=
            Database.exists_serves_of_openAt hopened hstore
          exact ⟨_, .database hbackend htext hl hwritable hlocation hserves hreaches⟩
  · rw [openPlain] at hopen
    split at hopen
    · rename_i hbackend
      cases hopen
      obtain ⟨contents, hkeeps⟩ := exists_keeps_of_neverFails hnever
      obtain ⟨names, hplaces⟩ := hkeeps.place
      exact ⟨_, .jsonFile hbackend hplaces hkeeps (.refl _ _ d)⟩
    · split at hopen
      · rename_i hbackend
        cases hopen
        exact ⟨_, .memory hbackend⟩
      · cases hopen

theorem openStore_of_openAt {d' : Disk} {text : String} {connection : Connection}
    (hbackend : c.usedBackend = "sqlite") (htext : c.get? storeSection "path" = some text)
    (h : Database.openAt none text d = (.ok connection, d')) :
    c.openStore none d = (.ok (.database connection), d') := by
  rw [openStore, ← usedBackend, if_pos hbackend, openDatabase, htext]
  simp only [h, Except.map]

/-! ### Closing -/

/-- The path of the file of the configured database, if there is one. -/
def databaseFile? (c : Configuration) : Option String :=
  if c.usedBackend = "sqlite" then
    (c.get? storeSection "path").bind fun text =>
      (Location.ofText text).toOption.bind Location.filePath?
  else none

/-- The places that the configured store may write to. -/
def storePlaces (c : Configuration) (d : Disk) : List (List String) :=
  if c.usedBackend = "json" then (d.place c.jsonPath).toOption.toList
  else (c.databaseFile?.bind fun path => (d.settle path).toOption).elim [] Database.files

/-- Whether a path leads to none of the files of the configured store. -/
def Spares (c : Configuration) (d : Disk) (path : String) : Prop :=
  ∀ names ∈ c.storePlaces d, d.place path ≠ .ok names

/-- Whether the file of the configured database can be opened again by its path, with room for
its journal. A path that takes back names may lead through its own file once there is one. -/
def Reopens (c : Configuration) (d : Disk) : Prop :=
  ∀ path ∈ c.databaseFile?, ∀ names ∈ (d.settle path).toOption,
    (d.put names (.file "")).settle path = .ok names ∧
      Disk.isTooLong ((Database.journalOf names).getLastD "") = false

instance (c : Configuration) (d : Disk) (path : String) : Decidable (c.Spares d path) :=
  inferInstanceAs (Decidable (∀ names ∈ c.storePlaces d, d.place path ≠ .ok names))

instance (c : Configuration) (d : Disk) : Decidable (c.Reopens d) :=
  inferInstanceAs (Decidable (∀ path ∈ c.databaseFile?, ∀ names ∈ (d.settle path).toOption,
    (d.put names (.file "")).settle path = .ok names ∧
      Disk.isTooLong ((Database.journalOf names).getLastD "") = false))

/-- What a store leaves that is kept in files. Its own files are changed at most. Wherever it
opens again it holds the same map, and it does open where its path still leads to its file. -/
structure Leaves (c : Configuration) (d d' : Disk) (m : String → Option String) : Prop where
  paths : c.storePaths ≠ []
  change : ∃ new, Disk.Confined (c.storePlaces d) new d d'
  again : ∀ w, c.Opens d' w → w.answered = m
  reopens : c.Reopens d → c.Reopens d' ∧ ∃ w, c.Opens d' w

/-- A memory leaves nothing. -/
theorem close_memory (hbackend : c.usedBackend = "memory") (d : Disk) (contents : Contents) :
    c.storePaths = [] ∧ Workspace.close ⟨d, .memory contents⟩ = d := by
  rw [storePaths, ← usedBackend, hbackend]
  exact ⟨rfl, rfl⟩

/-- A JSON file is left as it was written last. -/
theorem leaves_jsonFile {d' : Disk} {names : List String} {contents : Contents}
    (hbackend : c.usedBackend = "json") (hplaces : d.Places c.jsonPath names)
    (hkeeps : JsonFile.Keeps d' c.jsonPath contents)
    (hchange : Disk.Confined [names] [names] d d') :
    c.Leaves d (Workspace.close ⟨d', .jsonFile c.jsonPath⟩) (Assoc.get? contents) := by
  have hplace : c.storePlaces d = [names] := by
    rw [storePlaces, if_pos hbackend, Disk.place_eq_ok_iff.mpr hplaces]
    rfl
  have hopen : c.openStore none d' = (.ok (.jsonFile c.jsonPath), d') := by
    rw [openStore, ← usedBackend, hbackend]
    rfl
  have huses : Uses c d' ⟨d', .jsonFile c.jsonPath⟩ (Assoc.get? contents) :=
    .jsonFile hbackend (hplaces.confined hchange) hkeeps (.refl _ _ d')
  refine ⟨?_, ⟨[names], hplace ▸ hchange⟩, ?_,
    fun _ => ⟨?_, ⟨d', .jsonFile c.jsonPath⟩, hopen, huses.neverFails⟩⟩
  · rw [storePaths, ← usedBackend, hbackend]
    simp
  · rintro ⟨d₁, backend⟩ hopens
    cases hopens.store.symm.trans hopen
    exact huses.answered
  · intro path hpath
    rw [databaseFile?, hbackend] at hpath
    cases hpath

section Databases

variable {text path : String} {l : Location} {names : List String} {t : Table} {d' : Disk}

theorem storePaths_of_database (hbackend : c.usedBackend = "sqlite")
    (htext : c.get? storeSection "path" = some text) (hl : Location.ofText text = .ok l) :
    c.storePaths = l.filePath?.elim [] Database.paths := by
  rw [storePaths, ← usedBackend, hbackend, htext]
  simp [hl]

theorem databaseFile?_of_database (hbackend : c.usedBackend = "sqlite")
    (htext : c.get? storeSection "path" = some text) (hl : Location.ofText text = .ok l) :
    c.databaseFile? = l.filePath? := by
  simp [databaseFile?, hbackend, htext, hl, Except.toOption]

/-- **A database that is opened again** has the table of its file at rest. -/
theorem Uses.eq_of_rests {m : String → Option String} (h : Uses c d' w m)
    (hbackend : c.usedBackend = "sqlite") (htext : c.get? storeSection "path" = some text)
    (hl : Location.ofText text = .ok l) (hpath : l.filePath? = some path)
    (hsettle : d.settle path = .ok names) (hrests : Database.Rests l d' names t)
    (hopen : c.openStore none d' = (.ok w.backend, w.disk)) : m = t.get? := by
  cases h with
  | memory hmemory => exact absurd (hmemory.symm.trans hbackend) (by decide)
  | jsonFile hjson => exact absurd (hjson.symm.trans hbackend) (by decide)
  | @database d₁ connection text' l' t' _ htext' hl' hwritable _ hserves hreaches =>
    obtain rfl : text' = text := Option.some.inj (htext'.symm.trans htext)
    obtain rfl : l' = l := Except.ok.inj (hl'.symm.trans hl)
    cases hreaches with
    | memory hnone =>
      rw [hpath] at hnone
      cases hnone
    | @file path' names' hpath' hsettle' =>
      obtain rfl : path' = path := Option.some.inj (hpath'.symm.trans hpath)
      obtain rfl : names' = names := Disk.eq_of_settle hsettle' hsettle
      obtain ⟨again, hagain, -, hholds, -⟩ :=
        Database.exists_openAt hl hwritable hpath hsettle' hrests
      cases hopen.symm.trans (openStore_of_openAt hbackend htext hagain)
      rw [hserves.holds.eq hholds]

/-- **A database file** is left at rest, so it is opened as it is. -/
theorem leaves_database (hbackend : c.usedBackend = "sqlite")
    (htext : c.get? storeSection "path" = some text) (hl : Location.ofText text = .ok l)
    (hwritable : l.isReadOnly = false) (hpath : l.filePath? = some path)
    (hsettle : d.settle path = .ok names) (hrests : Database.Rests l d' names t)
    (hjournal : d'.nodeAt? (Database.journalOf names) ≠ some .directory)
    (hchange : Disk.Confined (Database.files names) [names] d d') :
    c.Leaves d d' t.get? := by
  have hfile : c.databaseFile? = some path :=
    (databaseFile?_of_database hbackend htext hl).trans hpath
  have hplaces : c.storePlaces d = Database.files names := by
    simp [storePlaces, hbackend, hfile, hsettle, Except.toOption]
  refine ⟨?_, ⟨[names], hplaces ▸ hchange⟩, fun w hopens => ?_, fun hreopens => ?_⟩
  · rw [storePaths_of_database hbackend htext hl, hpath]
    simp [Database.paths]
  · exact hopens.uses.eq_of_rests hbackend htext hl hpath hsettle hrests hopens.store
  -- the path leads to the file, now that there is one
  obtain ⟨hagain, hroom⟩ := hreopens path hfile names (by simp [hsettle, Except.toOption])
  have hfree : d.nodeAt? names ≠ some .directory := fun hdirectory =>
    hrests.free ((hchange.directories names).mpr hdirectory)
  have hsettle' : d'.settle path = .ok names :=
    (hchange.of_put (by simp [Database.files]) hfree (by simp)).settle hagain
  obtain ⟨connection, hopen, hlocation, -, hserves, hreaches⟩ :=
    Database.exists_openAt hl hwritable hpath hsettle' hrests
  have huses : Uses c d' ⟨d', .database connection⟩ t.get? :=
    .database hbackend htext hl hwritable hlocation
      (hserves (Database.canJournal_eq_true_iff.mpr ⟨hroom, hjournal⟩)) hreaches
  refine ⟨?_, ⟨d', .database connection⟩, openStore_of_openAt hbackend htext hopen,
    huses.neverFails⟩
  intro path' hpath' names' hnames'
  obtain rfl : path = path' := Option.some.inj (hfile.symm.trans hpath')
  obtain rfl : names = names' := by simpa [hsettle', Except.toOption] using hnames'
  exact ⟨(Disk.confined_put (List.mem_singleton_self names) (by simp [hrests.node]) hrests.free
    (by simp)).settle hsettle', hroom⟩

end Databases

/-- **What the configured store leaves** when it is closed: either nothing, because it was in
memory, or its files with the map that it held. -/
theorem Uses.close (h : Uses c d w m) :
    c.storePaths = [] ∧ w.close = d ∨ c.Leaves d w.close m := by
  cases h with
  | memory hbackend => exact .inl (close_memory hbackend d _)
  | jsonFile hbackend hplaces hkeeps hchange =>
    exact .inr (leaves_jsonFile hbackend hplaces hkeeps hchange)
  | database hbackend htext hl hwritable hlocation hserves hreaches =>
    rcases hreaches.close hserves hlocation with
      ⟨hpath, hclose⟩ | ⟨path, names, hpath, hsettle, hrests, hjournal, hchange⟩
    · refine .inl ⟨?_, hclose⟩
      rw [storePaths_of_database hbackend htext hl, hpath]
      rfl
    · exact .inr (leaves_database hbackend htext hl hwritable hpath hsettle hrests hjournal
        hchange)

end Configuration
end IndicatorStrategy

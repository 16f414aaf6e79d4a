import IndicatorStrategy.Proofs.CommandLine.Compile
import IndicatorStrategy.Proofs.Store.Configured
/-!
# IndicatorStrategy.Proofs.CommandLine.Runs

**Compiling from end to end**, once and again. A run of the command opens the configured store,
compiles into it and closes it. What it leaves is what the next command finds: where the store
is kept in files, these open again with what it held, so that a request is made of the same
artifacts and a second run changes nothing (`runCompile_accepted`). The file of the
configuration is left alone unless the store is told to write there.
-/

namespace IndicatorStrategy

open KeyValue (Held)

/-! ### Files that stay -/

/-- A configuration stays where it is not written over. -/
theorem Disk.Confined.readConfiguration {places new : List (List String)} {d d' : Disk}
    {config : String} {c : Configuration} (h : Disk.Confined places new d d')
    (hconfig : d.readConfiguration config = .ok c)
    (hapart : ∀ names ∈ places, d.place config ≠ .ok names) :
    d'.readConfiguration config = .ok c := by
  unfold Disk.readConfiguration at hconfig ⊢
  split at hconfig
  · cases hconfig
  rename_i text hread
  have hfind := Disk.find_of_read hread
  have hread' : d'.read config = .ok text := by
    rw [Disk.read, h.find hfind (by simp) hapart]
  rw [hread']
  exact hconfig

namespace Command

variable {config : String} {c : Configuration} {d d₀ : Disk} {w w' : Workspace}
  {m m' : Held} {side? : Option Side} {sides : List Side}

/-! ### One run -/

/-- A run of the command succeeds. It compiles into the workspace that was opened, and
closes it as it then is. -/
structure Compiles (config : String) (c : Configuration) (side? : Option Side) (d : Disk)
    (w w' : Workspace) : Prop where
  result : ∃ text, ((runCompile config side?).run d).result = .ok text
  workspace : ((compileAll c side?).run w).store = w'
  disk : ((runCompile config side?).run d).store = w'.close

/-- A request has the artifacts of the configured drafts. -/
def Requests {σ : Type} (c : Configuration) (sides : List Side) (x : Action σ Request)
    (s : σ) : Prop :=
  ∃ q, (x.run s).result = .ok q ∧
    ∀ side ∈ sides, ∃ draft, c.draft side = .ok draft ∧ q.artifact side = draft.compile

/-- An action that succeeds on the opened workspace succeeds with the configured store. -/
theorem run_withStore {α : Type} (h : c.openStore none d = (.ok w.backend, w.disk))
    {x : Action Workspace α} {a : α} (hx : (x.run w).result = .ok a) :
    (c.withStore x).run d = ⟨.ok a, (x.run w).store.close, (x.run w).log⟩ := by
  rw [← hx]
  simp only [Action.run, Configuration.withStore, h]

theorem compiles_of_openStore (hconfig : d.readConfiguration config = .ok c)
    (hvalid : c.validate = .ok ()) (hstore : c.openStore none d = (.ok w.backend, w.disk))
    {artifacts : List (Side × Artifact)}
    (hrun : ((compileAll c side?).run w).result = .ok artifacts) :
    Compiles config c side? d w ((compileAll c side?).run w).store := by
  obtain ⟨log, hvalidated⟩ : ∃ log,
      (Configuration.loadValidated config).run d = ⟨.ok c, d, log⟩ := by
    rw [run_loadValidated_of_read hconfig, hvalid]
    exact ⟨_, rfl⟩
  have hcommand : (runCompile config side?).run d
      = ⟨.ok (printed (.object (artifacts.map fun p => (p.1.wire, p.2.toJson)))),
          ((compileAll c side?).run w).store.close,
          log ++ (((compileAll c side?).run w).log ++ [])⟩ := by
    rw [runCompile, Action.run_bind_of_ok hvalidated,
      Action.run_bind_of_ok (run_withStore hstore hrun)]
    rfl
  exact ⟨⟨_, by rw [hcommand]⟩, rfl, by rw [hcommand]⟩

/-- **One run** compiles into the store that opens, and leaves it in use. -/
theorem exists_compiles (hconfig : d.readConfiguration config = .ok c)
    (hvalid : c.validate = .ok ()) (hopens : c.Opens d w) (side? : Option Side) :
    ∃ w', Compiles config c side? d w w' ∧ c.Uses d w' w'.answered ∧
      Compiled c (sidesOf side?) w.answered w'.answered := by
  obtain ⟨artifacts, effect, hcomputes, hcompiled⟩ := exists_computes_compileAll
    (c.reliableStore d) (Configuration.validate_eq_ok_iff.mp hvalid) side?
  have hworks : (c.reliableStore d).Works w := ⟨_, hopens.uses⟩
  have hcontents : ((compileAll c side?).run w).store.answered = effect w.answered :=
    hcomputes.contents hworks
  obtain ⟨m', huses'⟩ := hcomputes.works hworks
  obtain rfl := huses'.answered
  exact ⟨_, compiles_of_openStore hconfig hvalid hopens.store (hcomputes.result hworks), huses',
    hcontents ▸ hcompiled w.answered⟩

/-- What was compiled is what is requested. -/
theorem requests_assemble (huses : c.Uses d₀ w m') (hcompiled : Compiled c sides m m') :
    Requests c sides (Request.assemble ⟨none, none⟩) w := by
  have hworks : (c.reliableStore d₀).Works w := ⟨m', huses⟩
  refine ⟨_, (Request.computes_assemble _).result hworks, ?_⟩
  rw [show (c.reliableStore d₀).contents w = m' from huses.answered]
  exact artifact_of_compiled hcompiled _

theorem Requests.withStore {x : Action Workspace Request} (h : Requests c sides x w)
    (hstore : c.openStore none d = (.ok w.backend, w.disk)) :
    Requests c sides (c.withStore x) d := by
  obtain ⟨q, hq, hartifacts⟩ := h
  exact ⟨q, by rw [run_withStore hstore hq], hartifacts⟩

/-! ### One run after the other -/

/-- A run of the command leaves the store with what compiling left there before, also where it
is opened again. A request that is then made has the artifacts of the configured drafts. -/
structure Repeats (config : String) (c : Configuration) (side? : Option Side) (d : Disk)
    (w : Workspace) (m : Held) (w' : Workspace) : Prop where
  compiles : Compiles config c side? d w w'
  answered : w'.answered = m
  requests : Requests c (sidesOf side?) (Request.assemble ⟨none, none⟩) w'
  again : c.storePaths ≠ [] → ∀ w₂, c.Opens w'.close w₂ → w₂.answered = m

/-- Compiling into a store that has what compiling leaves changes nothing. -/
theorem exists_repeats (hconfig : d.readConfiguration config = .ok c)
    (hvalid : c.validate = .ok ()) (hopens : c.Opens d w)
    (hcompiled : Compiled c (sidesOf side?) m w.answered) :
    ∃ w', Repeats config c side? d w w.answered w' := by
  obtain ⟨w', hcompiles, huses, hcompiled'⟩ := exists_compiles hconfig hvalid hopens side?
  have hsame : w'.answered = w.answered := hcompiled.eq_of_compiled hcompiled'
  refine ⟨w', hcompiles, hsame, requests_assemble huses hcompiled', fun hpaths w₂ hopens₂ => ?_⟩
  rcases huses.close with ⟨hnone, -⟩ | hleaves
  · exact absurd hnone hpaths
  · exact (hleaves.again w₂ hopens₂).trans hsame

/-- **Compiling from end to end.** Let a configuration be accepted, and let the store that it
names open and never fail. Then the command succeeds, for either side and for both. What the
store holds when it is closed is what compiling should leave, and a request made from it has the
artifacts of the configured drafts.

A store in memory is gone then, and the files are those that there were. Any other store has all
that it held wherever it opens again, and so a request can be made from it later. It does open
again if its path still leads to its file, and the configuration is still there if the store was
not told to write to its file. Running the command again changes nothing. -/
theorem runCompile_accepted (hconfig : d.readConfiguration config = .ok c)
    (hvalid : c.validate = .ok ()) (hopens : c.Opens d w) (side? : Option Side) :
    ∃ w', Compiles config c side? d w w' ∧
      Compiled c (sidesOf side?) w.answered w'.answered ∧
      Requests c (sidesOf side?) (Request.assemble ⟨none, none⟩) w' ∧
      (c.storePaths = [] → w'.close = d) ∧
      (c.Reopens d → c.Reopens w'.close ∧ ∃ w₂, c.Opens w'.close w₂) ∧
      (c.Spares d config → w'.close.readConfiguration config = .ok c) ∧
      ∀ w₂, c.Opens w'.close w₂ →
        (c.storePaths ≠ [] → w₂.answered = w'.answered ∧
          Requests c (sidesOf side?) (c.withStore (Request.assemble ⟨none, none⟩)) w'.close) ∧
        (w'.close.readConfiguration config = .ok c →
          ∃ w₃, Repeats config c side? w'.close w₂ w'.answered w₃) := by
  obtain ⟨w', hcompiles, huses, hcompiled⟩ := exists_compiles hconfig hvalid hopens side?
  have hrequests := requests_assemble huses hcompiled
  refine ⟨w', hcompiles, hcompiled, hrequests, ?_⟩
  rcases huses.close with ⟨hpaths, hclose⟩ | hleaves
  -- a memory left nothing behind, so everything happens once more
  · rw [hclose]
    refine ⟨fun _ => rfl, fun hreopens => ⟨hreopens, w, hopens⟩, fun _ => hconfig,
      fun w₂ hopens₂ => ⟨fun hfiles => absurd hpaths hfiles, fun _ => ⟨w', ?_⟩⟩⟩
    obtain rfl := hopens.eq hopens₂
    exact ⟨hcompiles, rfl, hrequests, fun hfiles => absurd hpaths hfiles⟩
  · refine ⟨fun hpaths => absurd hpaths hleaves.paths, hleaves.reopens, fun hspares => ?_,
      fun w₂ hopens₂ => ?_⟩
    · obtain ⟨new, hchange⟩ := hleaves.change
      exact hchange.readConfiguration hconfig hspares
    · have hanswered := hleaves.again w₂ hopens₂
      rw [← hanswered] at hcompiled ⊢
      exact ⟨fun _ => ⟨rfl, (requests_assemble hopens₂.uses hcompiled).withStore hopens₂.store⟩,
        fun hconfig' => exists_repeats hconfig' hvalid hopens₂ hcompiled⟩

/-- Two conditions to buy, with a gap between them, and a ticker without a window, for a store
at a path. -/
def gappedConfiguration (backend path : String) : Configuration :=
  ⟨[("backtest", [("ticker", some "ACME")]),
    ("buy.0.0", [("compare_to", some "constant"), ("compare_value", some "1.5"),
      ("kind", some "Rsi"), ("timeperiod", some "14"), ("trend", some "crossed_above")]),
    ("buy.0.4", [("kind", some "Sma"), ("timeperiod", some "20")]),
    ("store", [("backend", some backend), ("path", some path)])]⟩

/-- The text of that configuration. -/
def gappedText (backend path : String) : String :=
  "[store]\nbackend = " ++ backend ++ "\npath = " ++ path ++ "\n[backtest]\nticker = ACME\n"
    ++ "[buy.0.0]\nkind = Rsi\ntimeperiod = 14\ntrend = crossed_above\n"
    ++ "compare_to = constant\ncompare_value = 1.5\n"
    ++ "[buy.0.4]\nkind = Sma\ntimeperiod = 20\n"

/-- A JSON file with a note, beside the configuration that names it. -/
def notedStore : Workspace :=
  ⟨⟨[(["store.json"], .file (JsonFile.render [("note", "kept")])),
    (["strategy.ini"], .file (gappedText "json" "store.json"))]⟩, .jsonFile "store.json"⟩

theorem keepsInFile_notedStore : notedStore.KeepsInFile [("note", "kept")] := by
  have hplace : notedStore.disk.place "store.json" = .ok ["store.json"] := by decide +kernel
  have hload : JsonFile.load notedStore.disk "store.json" = .ok [("note", "kept")] := by
    decide +kernel
  exact ⟨"store.json", rfl, ⟨_, Disk.place_eq_ok_iff.mp hplace⟩, hload⟩

theorem opens_notedStore :
    (gappedConfiguration "json" "store.json").Opens notedStore.disk notedStore where
  store := by decide +kernel
  neverFails := Workspace.neverFails_of_works Workspace.reliableFile ⟨_, keepsInFile_notedStore⟩

/-- The configuration of a database that is not there yet. -/
def newFiles : Disk := ⟨[(["strategy.ini"], .file (gappedText "sqlite" "data/../store.db"))]⟩

/-- That database, opened. -/
def newStore : Workspace :=
  ⟨newFiles.put ["store.db"] (.database .empty),
    .database (Database.Connection.fresh none (.plain "data/../store.db")
      (.file ["store.db"])).found⟩

theorem keepsInTable_newStore : newStore.KeepsInTable .empty := by
  have hjournal : newStore.disk.nodeAt? (Database.journalOf ["store.db"]) = none := by
    decide +kernel
  have hlog : newStore.disk.nodeAt? (Database.logOf ["store.db"]) = none := by decide +kernel
  refine ⟨_, rfl, .file rfl rfl rfl ⟨⟨by decide +kernel, ?_⟩, by decide +kernel, ?_⟩, rfl, ?_⟩
  · simp [hjournal]
  · simp [hlog]
  · rintro _ ⟨⟩ -
    decide +kernel

theorem opens_newStore :
    (gappedConfiguration "sqlite" "data/../store.db").Opens newFiles newStore where
  store := by decide +kernel
  neverFails := Workspace.neverFails_of_works Workspace.reliableDatabase ⟨_, keepsInTable_newStore⟩

/-- A run into a store in files, from what that held before. It leaves what it should, where
the store opens with it and a request is made of it, the configuration is still there, and a
second run changes nothing. -/
def Persists (config : String) (c : Configuration) (side? : Option Side) (d : Disk)
    (w : Workspace) (before : Held) : Prop :=
  ∃ w' w₂ w₃, Compiles config c side? d w w' ∧ Compiled c (sidesOf side?) before w'.answered ∧
    c.Opens w'.close w₂ ∧ w₂.answered = w'.answered ∧
    Requests c (sidesOf side?) (c.withStore (Request.assemble ⟨none, none⟩)) w'.close ∧
    w'.close.readConfiguration config = .ok c ∧
    Repeats config c side? w'.close w₂ w'.answered w₃

/-- A JSON file that holds a note, and a database that has to be made. -/
theorem runCompile_gappedStore :
    let json := gappedConfiguration "json" "store.json"
    let sqlite := gappedConfiguration "sqlite" "data/../store.db"
    (notedStore.disk.readConfiguration "strategy.ini" = .ok json ∧ json.validate = .ok () ∧
      json.Opens notedStore.disk notedStore ∧ json.storePaths ≠ [] ∧
      json.Reopens notedStore.disk ∧ json.Spares notedStore.disk "strategy.ini") ∧
    Persists "strategy.ini" json none notedStore.disk notedStore (Assoc.get? [("note", "kept")]) ∧
    (newFiles.readConfiguration "strategy.ini" = .ok sqlite ∧ sqlite.validate = .ok () ∧
      sqlite.Opens newFiles newStore ∧ sqlite.storePaths ≠ [] ∧
      sqlite.Reopens newFiles ∧ sqlite.Spares newFiles "strategy.ini") ∧
    Persists "strategy.ini" sqlite (some .buy) newFiles newStore fun _ => none := by
  intro json sqlite
  have hpersists {c : Configuration} {d : Disk} {w : Workspace} (side? : Option Side)
      (h : d.readConfiguration "strategy.ini" = .ok c ∧ c.validate = .ok () ∧ c.Opens d w ∧
        c.storePaths ≠ [] ∧ c.Reopens d ∧ c.Spares d "strategy.ini") :
      Persists "strategy.ini" c side? d w w.answered := by
    obtain ⟨hconfig, hvalid, hopens, hpaths, hreopens, hspares⟩ := h
    obtain ⟨w', hcompiles, hcompiled, -, -, hagain, hkept, hleft⟩ :=
      runCompile_accepted hconfig hvalid hopens side?
    obtain ⟨-, w₂, hopens₂⟩ := hagain hreopens
    obtain ⟨hsame, hrequests⟩ := (hleft w₂ hopens₂).1 hpaths
    obtain ⟨w₃, hrepeats⟩ := (hleft w₂ hopens₂).2 (hkept hspares)
    exact ⟨w', w₂, w₃, hcompiles, hcompiled, hopens₂, hsame, hrequests, hkept hspares, hrepeats⟩
  have hjson : notedStore.disk.readConfiguration "strategy.ini" = .ok json ∧
      json.validate = .ok () ∧ json.Opens notedStore.disk notedStore ∧ json.storePaths ≠ [] ∧
      json.Reopens notedStore.disk ∧ json.Spares notedStore.disk "strategy.ini" :=
    ⟨by decide +kernel, by decide +kernel, opens_notedStore, by decide +kernel⟩
  have hsqlite : newFiles.readConfiguration "strategy.ini" = .ok sqlite ∧
      sqlite.validate = .ok () ∧ sqlite.Opens newFiles newStore ∧ sqlite.storePaths ≠ [] ∧
      sqlite.Reopens newFiles ∧ sqlite.Spares newFiles "strategy.ini" :=
    ⟨by decide +kernel, by decide +kernel, opens_newStore, by decide +kernel⟩
  have hnote : notedStore.answered = Assoc.get? [("note", "kept")] := by
    rw [Workspace.answered_of_works Workspace.reliableFile ⟨_, keepsInFile_notedStore⟩]
    exact congrArg Assoc.get? keepsInFile_notedStore.heldInFile
  have hnothing : newStore.answered = fun _ => none := by
    rw [Workspace.answered_of_works Workspace.reliableDatabase ⟨_, keepsInTable_newStore⟩]
    exact congrArg Table.get? keepsInTable_newStore.table
  exact ⟨hjson, hnote ▸ hpersists none hjson, hsqlite, hnothing ▸ hpersists (some .buy) hsqlite⟩

end Command
end IndicatorStrategy

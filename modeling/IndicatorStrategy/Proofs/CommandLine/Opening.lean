import Mathlib
import IndicatorStrategy.Proofs.CommandLine.Refusal
/-!
# IndicatorStrategy.Proofs.CommandLine.Opening

**Which configurations no store is opened for.** The validation of the store section and
the opening of the store read the same two keys. What the opening blames is the key without
which there is nothing to open (`Configuration.blamed?_openStore`), and the validation blames
the same key. It refuses one kind of configuration more (`Configuration.validateStore_cases`):
a database whose path is blank. That is opened all the same, so a command that does not
validate runs on it.
-/

namespace IndicatorStrategy

/-! ### Blame -/

/-- The section and the key of the configured value that a failure blames, if it does. -/
def Failure.place? : Failure → Option (String × String)
  | missing name key => some (name, key)
  | invalid name key _ => some (name, key)
  | _ => none

/-- The section and the key that a result blames. -/
def blamed? {α : Type} : Except Failure α → Option (String × String)
  | .ok _ => none
  | .error e => e.place?

section

variable {α : Type} {r : Except Failure α}

/-- Where the configuration is not to blame, none of its keys is. -/
theorem Blameless.blamed?_eq_none (h : Blameless r) : blamed? r = none := by
  cases r with
  | ok a => rfl
  | error e =>
    have he := h e rfl
    cases e with
    | unreadable | missing | invalid => cases he
    | store | query | expression | system => rfl

end

/-- An action blames what its beginning blames, if nothing that may follow is to blame. -/
theorem Action.blamed?_result_bind {σ α β : Type} {x : Action σ α} {f : α → Action σ β}
    (hf : ∀ a, (f a).Blameless) (s : σ) :
    blamed? ((x >>= f).run s).result = blamed? (x.run s).result := by
  cases hrun : x.run s with
  | mk result s' log =>
    cases result with
    | ok a =>
      rw [Action.run_bind_of_ok hrun]
      exact (hf a s').blamed?_eq_none
    | error e =>
      rw [Action.run_bind_of_error hrun]
      rfl

namespace Configuration

variable {c : Configuration}

/-! ### The store section -/

/-- The backend that is opened. -/
def usedBackend (c : Configuration) : String := c.backend?.getD defaultBackend

/-- Whether the path of a database is there and blank. -/
def hasBlankPath (c : Configuration) : Bool :=
  c.usedBackend == "sqlite" && (c.get? storeSection "path").any isBlank

/-- The key without which nothing can be opened: a backend that does not exist, or the
path that a database lacks. -/
def unusable? (c : Configuration) : Option (String × String) :=
  if c.usedBackend ∉ backends then some (storeSection, "backend")
  else if c.usedBackend = "sqlite" ∧ c.get? storeSection "path" = none then
    some (storeSection, "path")
  else none

/-- Where no backend is named there is nothing to refuse, for the default one exists and
needs no path. -/
theorem validateStore_eq (c : Configuration) :
    c.validateStore = if c.usedBackend ∉ backends then
        .error (.invalid storeSection "backend" (.unlistedBackend c.usedBackend))
      else if c.usedBackend = "sqlite" then c.validateDatabasePath else .ok () := by
  rw [validateStore, usedBackend]
  cases c.backend? with
  | none => rfl
  | some backend => simp only [Option.getD_some, List.contains_iff_mem, ite_not]

/-- **What the validation says of a store section**: it is in order, or the path of its
database is blank, or the key without which it is unusable is to blame. -/
theorem validateStore_cases (c : Configuration) :
    (c.validateStore = .ok () ∧ c.unusable? = none ∧ c.hasBlankPath = false) ∨
    (c.validateStore = .error (.missing storeSection "path") ∧ c.unusable? = none ∧
      c.hasBlankPath = true) ∨
    ∃ e place, c.validateStore = .error e ∧ e.place? = some place ∧
      c.unusable? = some place ∧ c.hasBlankPath = false := by
  rw [validateStore_eq, unusable?, hasBlankPath]
  by_cases hbackend : c.usedBackend ∈ backends
  · rw [if_neg (not_not_intro hbackend), if_neg (not_not_intro hbackend)]
    by_cases hdatabase : c.usedBackend = "sqlite"
    · rw [if_pos hdatabase, hdatabase, validateDatabasePath]
      cases hpath : c.get? storeSection "path" with
      | none => exact .inr (.inr ⟨_, _, rfl, rfl, rfl, rfl⟩)
      | some path =>
        cases hblank : isBlank path with
        | true => exact .inr (.inl ⟨if_pos hblank, rfl, by simpa using hblank⟩)
        | false => exact .inl ⟨if_neg (Bool.eq_false_iff.mp hblank), rfl, by simpa using hblank⟩
    · rw [if_neg hdatabase, if_neg fun h => hdatabase h.1]
      exact .inl ⟨rfl, rfl, by simp [hdatabase]⟩
  -- an unknown backend is blamed before any path is looked at
  · rw [if_pos hbackend, if_pos hbackend]
    refine .inr (.inr ⟨_, _, rfl, rfl, rfl, ?_⟩)
    have hdatabase : c.usedBackend ≠ "sqlite" := by
      intro h
      exact hbackend (h ▸ by decide)
    simp [hdatabase]

theorem validateStore_eq_ok_iff :
    c.validateStore = .ok () ↔ c.unusable? = none ∧ c.hasBlankPath = false := by
  rcases c.validateStore_cases with ⟨hv, hu, hb⟩ | ⟨hv, hu, hb⟩ | ⟨e, place, hv, -, hu, hb⟩ <;>
    simp [hv, hu, hb]

/-- A blank path is refused, though there is something to open. -/
theorem validateStore_of_hasBlankPath (h : c.hasBlankPath = true) :
    c.validateStore = .error (.missing storeSection "path") ∧ c.unusable? = none := by
  rcases c.validateStore_cases with ⟨-, -, hb⟩ | ⟨hv, hu, -⟩ | ⟨e, place, -, -, -, hb⟩
  · rw [h] at hb
    cases hb
  · exact ⟨hv, hu⟩
  · rw [h] at hb
    cases hb

/-- Otherwise the validation blames the key without which nothing can be opened. -/
theorem blamed?_validateStore (h : c.hasBlankPath = false) :
    blamed? c.validateStore = c.unusable? := by
  rcases c.validateStore_cases with ⟨hv, hu, -⟩ | ⟨-, -, hb⟩ | ⟨e, place, hv, he, hu, -⟩
  · rw [hv, hu]
    rfl
  · rw [h] at hb
    cases hb
  · rw [hv, hu, blamed?, he]

/-- **What the opening of a store blames** is the key without which there is nothing to
open. Whatever else goes wrong with a database, its path is not to blame. -/
theorem blamed?_openStore (c : Configuration) (held? : Option Database.Connection) (d : Disk) :
    blamed? (c.openStore held? d).1 = c.unusable? := by
  rw [openStore, unusable?, ← usedBackend]
  by_cases hdatabase : c.usedBackend = "sqlite"
  · have hbackend : c.usedBackend ∈ backends := hdatabase ▸ by decide
    rw [if_pos hdatabase, if_neg (not_not_intro hbackend), openDatabase]
    cases hpath : c.get? storeSection "path" with
    | none => rw [if_pos ⟨hdatabase, rfl⟩]; rfl
    | some path =>
      rw [if_neg fun h => Option.some_ne_none path h.2]
      exact ((Database.blameless_openAt held? path d).map _).blamed?_eq_none
  · rw [if_neg hdatabase, openPlain]
    by_cases hjson : c.usedBackend = "json"
    · rw [hjson]
      rfl
    · by_cases hmemory : c.usedBackend = "memory"
      · rw [hmemory]
        rfl
      · have hbackend : c.usedBackend ∉ backends := by simp [backends, hdatabase, hjson, hmemory]
        rw [if_neg hjson, if_neg hmemory, if_pos hbackend]
        rfl

theorem blamed?_withStore {α : Type} {x : Action Workspace α} (hx : x.Blameless) (d : Disk) :
    blamed? ((c.withStore x).run d).result = c.unusable? := by
  rw [← c.blamed?_openStore none d]
  simp only [Action.run, withStore]
  split
  · rename_i he
    rw [he]
    rfl
  · rename_i ho
    rw [ho]
    exact (hx _).blamed?_eq_none

/-- Showing artifacts blames what opening their store blames: what is stored, and whether it
can be read, is no matter of the configuration. -/
theorem blamed?_runDisplay {config : String} {d : Disk} (h : d.readConfiguration config = .ok c)
    (side : Side) : blamed? ((Command.runDisplay config side).run d).result = c.unusable? := by
  have hload := Command.run_load config d
  rw [h] at hload
  rw [Command.runDisplay, Action.run_bind_of_ok hload]
  refine (Action.blamed?_result_bind (fun session => ?_) d).trans
    (blamed?_withStore (Session.blameless_open side) d)
  simp only
  split
  · exact .bind (.log _) fun _ => .pure _
  · exact .bind (.pure _) fun _ => .pure _

/-- An empty path is blank, and a database without a path is opened. -/
theorem exists_openStore_of_emptyPath (hdatabase : c.usedBackend = "sqlite")
    (hpath : c.get? storeSection "path" = some "") (d : Disk) :
    c.hasBlankPath = true ∧ ∃ b, c.openStore none d = (.ok b, d) := by
  constructor
  · rw [hasBlankPath, hdatabase, hpath]
    rfl
  · rw [openStore, ← usedBackend, if_pos hdatabase, openDatabase, hpath]
    exact ⟨_, rfl⟩

/-- **The validation and the opening of a store agree** unless there is a database with a
blank path: both succeed, or both blame the same key. A blank path is refused by the
validation and not blamed by the opening; the empty one, which is the only blank path that a
file can give, is always opened. And a command that shows artifacts without a validation
blames what the opening blames. -/
theorem validateStore_eq_ok_iff_openStore (c : Configuration)
    (held? : Option Database.Connection) (d : Disk) :
    ((c.validateStore = .ok () ↔ blamed? (c.openStore held? d).1 = none)
      ↔ c.hasBlankPath = false) ∧
    (c.hasBlankPath = false → blamed? (c.openStore held? d).1 = blamed? c.validateStore) ∧
    (c.hasBlankPath = true → c.validateStore = .error (.missing storeSection "path") ∧
      blamed? (c.openStore held? d).1 = none) ∧
    (c.usedBackend = "sqlite" → c.get? storeSection "path" = some "" →
      c.hasBlankPath = true ∧ ∃ b, c.openStore none d = (.ok b, d)) ∧
    ∀ config side, d.readConfiguration config = .ok c →
      blamed? ((Command.runDisplay config side).run d).result
        = blamed? (c.openStore held? d).1 := by
  rw [c.blamed?_openStore held? d]
  refine ⟨?_, fun h => (blamed?_validateStore h).symm, validateStore_of_hasBlankPath,
    fun hdatabase hpath => exists_openStore_of_emptyPath hdatabase hpath d,
    fun config side h => blamed?_runDisplay h side⟩
  rw [validateStore_eq_ok_iff]
  cases hpath : c.hasBlankPath with
  | false => simp
  | true => simp [(validateStore_of_hasBlankPath hpath).2]

/-- A database without a path to speak of. -/
def pathlessText : String := "[store]\nbackend = SQLite\npath =\n"

/-- Its configuration. -/
def pathlessConfiguration : Configuration :=
  ⟨[("store", [("backend", some "SQLite"), ("path", some "")])]⟩

/-- The validation refuses it, and a command that does not validate runs on it. -/
theorem openStore_pathlessConfiguration :
    Configuration.ofText pathlessText = .ok pathlessConfiguration ∧
      pathlessConfiguration.validateStore = .error (.missing "store" "path") ∧
      (pathlessConfiguration.openStore none Disk.empty).1.isOk = true ∧
      ((Command.runDisplay "strategy.ini" .buy).run
        ⟨[(["strategy.ini"], .file pathlessText)]⟩).result.isOk = true :=
  ⟨by decide +kernel, by decide +kernel, by decide +kernel, by decide +kernel⟩

end Configuration
end IndicatorStrategy

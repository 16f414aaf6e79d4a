import IndicatorStrategy.Event
/-!
# IndicatorStrategy.Store.Action

**Key-value stores and actions on them.** A `KeyValue` store is whatever answers
reads and takes writes of strings under string keys; either may fail. Reading changes
no contents, but a store may remember what it has read.

An `Action` runs on a store: it ends with a value or a failure, with the store as
it then is, and with the events logged on the way. The first failure ends it.
-/

namespace IndicatorStrategy

/-- Stores of strings under string keys. -/
class KeyValue (σ : Type) where
  /-- The value under a key, and the store after reading it. -/
  get : σ → String → Except Failure (Option String) × σ
  /-- Stores a value under a key; the store afterwards also if that fails. -/
  set : σ → String → String → Except Failure Unit × σ

/-- What an action comes to. -/
structure Outcome (σ α : Type) where
  result : Except Failure α
  store : σ
  log : List Event

/-- A computation on a store. -/
def Action (σ α : Type) : Type := σ → Outcome σ α

namespace Action

variable {σ α β : Type}

/-- What the action comes to on a store. -/
def run (x : Action σ α) (s : σ) : Outcome σ α := x s

/-- One action after the other; the second sees the value of the first. -/
def andThen (x : Action σ α) (f : α → Action σ β) : Action σ β := fun s =>
  match x.run s with
  | ⟨.ok a, s', log⟩ =>
    let o := (f a).run s'
    ⟨o.result, o.store, log ++ o.log⟩
  | ⟨.error e, s', log⟩ => ⟨.error e, s', log⟩

instance : Monad (Action σ) where
  pure a := fun s => ⟨.ok a, s, []⟩
  bind := andThen

/-- Ends with the given result and touches nothing. -/
def ofExcept (r : Except Failure α) : Action σ α := fun s => ⟨r, s, []⟩

/-- Logs an event. -/
def log (e : Event) : Action σ Unit := fun s => ⟨.ok (), s, [e]⟩

/-- Turns a failure into a value, so that the action goes on. -/
def attempt (x : Action σ α) : Action σ (Except Failure α) := fun s =>
  let o := x.run s
  ⟨.ok o.result, o.store, o.log⟩

/-- Reads a key. -/
def get [KeyValue σ] (key : String) : Action σ (Option String) := fun s =>
  let (result, s') := KeyValue.get s key
  ⟨result, s', []⟩

/-- Writes a key. -/
def set [KeyValue σ] (key value : String) : Action σ Unit := fun s =>
  let (result, s') := KeyValue.set s key value
  ⟨result, s', []⟩

/-! ### Running actions -/

@[simp] theorem run_pure (a : α) (s : σ) : run (pure a) s = ⟨.ok a, s, []⟩ := rfl

theorem run_bind (x : Action σ α) (f : α → Action σ β) (s : σ) :
    run (x >>= f) s = match run x s with
      | ⟨.ok a, s', log⟩ =>
        ⟨((f a).run s').result, ((f a).run s').store, log ++ ((f a).run s').log⟩
      | ⟨.error e, s', log⟩ => ⟨.error e, s', log⟩ := rfl

theorem run_bind_of_ok {x : Action σ α} {f : α → Action σ β} {s s' : σ} {a : α}
    {log : List Event} (h : run x s = ⟨.ok a, s', log⟩) :
    run (x >>= f) s
      = ⟨((f a).run s').result, ((f a).run s').store, log ++ ((f a).run s').log⟩ := by
  rw [run_bind, h]

theorem run_bind_of_error {x : Action σ α} {f : α → Action σ β} {s s' : σ} {e : Failure}
    {log : List Event} (h : run x s = ⟨.error e, s', log⟩) :
    run (x >>= f) s = ⟨.error e, s', log⟩ := by
  rw [run_bind, h]

/-- An action after another one succeeds just where both succeed. -/
theorem result_bind_eq_ok_iff {x : Action σ α} {f : α → Action σ β} {s : σ} {b : β} :
    (run (x >>= f) s).result = .ok b ↔
      ∃ a, (run x s).result = .ok a ∧ (run (f a) (run x s).store).result = .ok b := by
  rw [run_bind]
  rcases run x s with ⟨_ | a, s', log⟩ <;> simp

@[simp] theorem run_ofExcept (r : Except Failure α) (s : σ) :
    run (ofExcept r) s = ⟨r, s, []⟩ := rfl

@[simp] theorem run_log (e : Event) (s : σ) : run (log e) s = ⟨.ok (), s, [e]⟩ := rfl

@[simp] theorem run_attempt (x : Action σ α) (s : σ) :
    run (attempt x) s = ⟨.ok (run x s).result, (run x s).store, (run x s).log⟩ := rfl

@[simp] theorem run_get [KeyValue σ] (key : String) (s : σ) :
    run (get key) s = ⟨(KeyValue.get s key).1, (KeyValue.get s key).2, []⟩ := rfl

@[simp] theorem run_set [KeyValue σ] (key value : String) (s : σ) :
    run (set key value) s
      = ⟨(KeyValue.set s key value).1, (KeyValue.set s key value).2, []⟩ := rfl

end Action
end IndicatorStrategy

import Mathlib
import IndicatorStrategy.Proofs.Store.Reliable
/-!
# IndicatorStrategy.Proofs.Store.Calls

**What stores answer** to calls that follow one another. A map answers a look-up with the
value that was last stored under the key, or else with the one that it began with; where a
store keeps such a map, nothing else about it can be seen from its answers. So two stores
that keep equal maps are told apart by no calls, however they keep them.

That a store works stays true from one call to the next (`Call.run_of_reliable`), and what
it answers to a list of calls follows by induction.
-/

namespace IndicatorStrategy

/-- One use of a store. -/
inductive Call
  | get (key : String)
  | set (key value : String)

/-- What a store answers: the value under a key, or that it took a value. -/
inductive Answer
  | value (result : Except Failure (Option String))
  | stored (result : Except Failure Unit)
  deriving DecidableEq

namespace Call

/-! ### Stores -/

section Stores

variable {σ : Type} [KeyValue σ]

/-- The answer to a call, and the store after it. -/
def run (s : σ) : Call → Answer × σ
  | get key => (.value (KeyValue.get s key).1, (KeyValue.get s key).2)
  | set key value => (.stored (KeyValue.set s key value).1, (KeyValue.set s key value).2)

/-- The answers to calls, one after the other. -/
def answers (s : σ) : List Call → List Answer
  | [] => []
  | c :: calls => (c.run s).1 :: answers (c.run s).2 calls

/-- The store after calls. -/
def after (s : σ) (calls : List Call) : σ := calls.foldl (fun s c => (c.run s).2) s

theorem after_cons (s : σ) (c : Call) (calls : List Call) :
    after s (c :: calls) = after (c.run s).2 calls := rfl

theorem after_append (s : σ) (calls later : List Call) :
    after s (calls ++ later) = after (after s calls) later := List.foldl_append

end Stores

/-! ### Maps -/

/-- What a call stores under a key. -/
def stores? (key : String) : Call → Option String
  | get _ => none
  | set other value => if other = key then some value else none

/-- The value under a key after calls: the one last stored there, or the one there was. -/
def lookUp (m : String → Option String) (calls : List Call) (key : String) : Option String :=
  (calls.reverse.findSome? (stores? key)).or (m key)

/-- What a map answers to a call after others. -/
def mapAnswer (m : String → Option String) (before : List Call) : Call → Answer
  | get key => .value (.ok (lookUp m before key))
  | set _ _ => .stored (.ok ())

/-- What a map answers to calls, one after the other. -/
def mapAnswers (m : String → Option String) (calls : List Call) : List Answer :=
  calls.mapIdx fun i c => c.mapAnswer m (calls.take i)

variable {m : String → Option String}

theorem lookUp_cons (c : Call) (calls : List Call) :
    lookUp m (c :: calls) = lookUp (lookUp m [c]) calls := by
  funext key
  simp [lookUp, List.findSome?_append, Option.or_assoc]

theorem lookUp_get (key : String) : lookUp m [get key] = m := rfl

theorem lookUp_set (key value : String) :
    lookUp m [set key value] = Function.update m key (some value) := by
  funext other
  by_cases h : other = key
  · simp [lookUp, stores?, h]
  · simp [lookUp, stores?, Ne.symm h, Function.update_of_ne h]

theorem mapAnswer_cons (c : Call) (before : List Call) (d : Call) :
    d.mapAnswer m (c :: before) = d.mapAnswer (lookUp m [c]) before := by
  cases d with
  | get key => rw [mapAnswer, lookUp_cons, mapAnswer]
  | set key value => rfl

theorem mapAnswers_cons (c : Call) (calls : List Call) :
    mapAnswers m (c :: calls) = c.mapAnswer m [] :: mapAnswers (lookUp m [c]) calls := by
  rw [mapAnswers, List.mapIdx_cons, mapAnswers]
  simp only [List.take_zero, List.take_succ_cons, mapAnswer_cons]

/-! ### Stores that keep a map -/

section Stores

variable {σ : Type} [KeyValue σ]

/-- One call to a store that works: it answers as its map, and goes on to work. -/
theorem run_of_reliable (R : KeyValue.Reliable σ) {s : σ} (h : R.Works s) (c : Call) :
    (c.run s).1 = c.mapAnswer (R.contents s) [] ∧ R.Works (c.run s).2 ∧
      R.contents (c.run s).2 = lookUp (R.contents s) [c] := by
  cases c with
  | get key =>
    refine ⟨?_, R.get_works h key, ?_⟩
    · rw [run, R.get_result h]
      rfl
    · rw [lookUp_get]
      exact R.get_contents h key
  | set key value =>
    refine ⟨?_, R.set_works h key value, ?_⟩
    · rw [run, R.set_result h]
      rfl
    · rw [lookUp_set]
      exact R.set_contents h key value

/-- **Calls to a store that works** are answered as its map answers them. -/
theorem answers_of_reliable (R : KeyValue.Reliable σ) {s : σ} (h : R.Works s)
    (calls : List Call) : answers s calls = mapAnswers (R.contents s) calls := by
  induction calls generalizing s with
  | nil => rfl
  | cons c calls ih =>
    obtain ⟨hanswer, hworks, hcontents⟩ := run_of_reliable R h c
    rw [answers, ih hworks, hcontents, hanswer, mapAnswers_cons]

theorem works_after (R : KeyValue.Reliable σ) {s : σ} (h : R.Works s) (calls : List Call) :
    R.Works (after s calls) := by
  induction calls generalizing s with
  | nil => exact h
  | cons c calls ih => exact ih (run_of_reliable R h c).2.1

theorem contents_after (R : KeyValue.Reliable σ) {s : σ} (h : R.Works s) (calls : List Call) :
    R.contents (after s calls) = lookUp (R.contents s) calls := by
  induction calls generalizing s with
  | nil => rfl
  | cons c calls ih =>
    obtain ⟨-, hworks, hcontents⟩ := run_of_reliable R h c
    rw [after_cons, ih hworks, hcontents, lookUp_cons c calls]

/-! ### Stores that stay as they are -/

/-- A store that no call changes gives every call the same answer each time. -/
theorem answers_of_unchanged {s : σ} {f : Call → Answer} (h : ∀ c : Call, c.run s = (f c, s))
    (calls : List Call) : answers s calls = calls.map f ∧ after s calls = s := by
  induction calls with
  | nil => exact ⟨rfl, rfl⟩
  | cons c calls ih =>
    rw [answers, after_cons, h c, List.map_cons]
    exact ⟨congrArg _ ih.1, ih.2⟩

end Stores

end Call
end IndicatorStrategy

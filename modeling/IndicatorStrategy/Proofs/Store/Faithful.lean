import Mathlib
import IndicatorStrategy.Proofs.Store.Reliable
/-!
# IndicatorStrategy.Proofs.Store.Faithful

**Stores that may refuse writes.** A faithful store reads what it holds. It may refuse
any write, but a write that it refuses leaves what it holds as it was, and one that it
accepts replaces what is there under one key.

* `Scripted` is a memory that is told in advance which of the writes to come it refuses,
  so runs on all of these see every choice of failing writes.
* `Refusing` is any store that is told so, besides what it refuses of its own accord.
* `Recorded` is any store together with the writes that were attempted on it. The record
  tells which of them were accepted; the store itself does not notice it.
-/

namespace IndicatorStrategy

/-- A store whose reads succeed wherever it works and whose writes do all or nothing. -/
structure KeyValue.Faithful (σ : Type) [KeyValue σ] where
  Works : σ → Prop
  contents : σ → String → Option String
  get_result {s : σ} (h : Works s) (key : String) : (KeyValue.get s key).1 = .ok (contents s key)
  get_works {s : σ} (h : Works s) (key : String) : Works (KeyValue.get s key).2
  get_contents {s : σ} (h : Works s) (key : String) :
    contents (KeyValue.get s key).2 = contents s
  set_works {s : σ} (h : Works s) (key value : String) : Works (KeyValue.set s key value).2
  set_accepted {s : σ} (h : Works s) (key value : String)
    (hset : (KeyValue.set s key value).1 = .ok ()) :
    contents (KeyValue.set s key value).2 = Function.update (contents s) key (some value)
  set_refused {s : σ} (h : Works s) (key value : String) {e : Failure}
    (hset : (KeyValue.set s key value).1 = .error e) :
    contents (KeyValue.set s key value).2 = contents s

/-- A store that does not fail is faithful. -/
def KeyValue.Reliable.faithful {σ : Type} [KeyValue σ] (r : Reliable σ) : Faithful σ where
  Works := r.Works
  contents := r.contents
  get_result := r.get_result
  get_works := r.get_works
  get_contents := r.get_contents
  set_works := r.set_works
  set_accepted h key value _ := r.set_contents h key value
  set_refused h key value _ hset := by
    rw [r.set_result h] at hset
    cases hset

/-! ### Writes that are refused as told -/

/-- A memory with the answers to the writes to come: whether each is refused. Writes
behind the last of them are accepted. -/
structure Scripted where
  contents : Contents
  refusals : List Bool
  deriving DecidableEq

namespace Scripted

instance : KeyValue Scripted where
  get s key := (.ok (Assoc.get? s.contents key), s)
  set s key value :=
    if s.refusals.headD false then
      (.error (.query ("set " ++ key)), ⟨s.contents, s.refusals.tail⟩)
    else (.ok (), ⟨Assoc.putSorted s.contents key value, s.refusals.tail⟩)

/-- Nothing stored yet. -/
def empty (refusals : List Bool) : Scripted := ⟨[], refusals⟩

def faithful : KeyValue.Faithful Scripted where
  Works _ := True
  contents s := Assoc.get? s.contents
  get_result _ _ := rfl
  get_works _ _ := trivial
  get_contents _ _ := rfl
  set_works _ _ _ := trivial
  set_accepted {s} _ key value hset := by
    simp only [KeyValue.set] at hset ⊢
    split at hset
    · cases hset
    · rename_i hhead
      rw [if_neg hhead]
      exact Assoc.get?_putSorted_eq_update s.contents key value
  set_refused {s} _ key value e hset := by
    simp only [KeyValue.set] at hset ⊢
    split at hset
    · rename_i hhead
      rw [if_pos hhead]
    · cases hset

end Scripted

/-- A store with the answers to the writes to come: whether each is refused. What is not
refused is passed on to the store. -/
structure Refusing (σ : Type) where
  store : σ
  refusals : List Bool
  deriving DecidableEq

namespace Refusing

variable {σ : Type} [KeyValue σ]

instance : KeyValue (Refusing σ) where
  get w key :=
    let (result, store) := KeyValue.get w.store key
    (result, { w with store })
  set w key value :=
    if w.refusals.headD false then
      (.error (.query ("set " ++ key)), { w with refusals := w.refusals.tail })
    else
      let (result, store) := KeyValue.set w.store key value
      (result, ⟨store, w.refusals.tail⟩)

end Refusing

/-! ### Writes on record -/

/-- A write that was attempted. -/
structure Attempt where
  key : String
  value : String
  accepted : Bool
  deriving DecidableEq

/-- A store and the writes that were attempted on it, the latest first. -/
structure Recorded (σ : Type) where
  store : σ
  attempts : List Attempt
  deriving DecidableEq

namespace Recorded

variable {σ : Type} [KeyValue σ]

instance : KeyValue (Recorded σ) where
  get w key :=
    let (result, store) := KeyValue.get w.store key
    (result, { w with store })
  set w key value :=
    let (result, store) := KeyValue.set w.store key value
    (result, ⟨store, ⟨key, value, result.isOk⟩ :: w.attempts⟩)

/-- A store whose record starts here. -/
def start (s : σ) : Recorded σ := ⟨s, []⟩

@[simp] theorem set_eq (w : Recorded σ) (key value : String) :
    KeyValue.set w key value
      = ((KeyValue.set w.store key value).1,
          ⟨(KeyValue.set w.store key value).2,
            ⟨key, value, (KeyValue.set w.store key value).1.isOk⟩ :: w.attempts⟩) := rfl

/-- The record takes nothing away from a store. -/
def faithful (f : KeyValue.Faithful σ) : KeyValue.Faithful (Recorded σ) where
  Works w := f.Works w.store
  contents w := f.contents w.store
  get_result h key := f.get_result h key
  get_works h key := f.get_works h key
  get_contents h key := f.get_contents h key
  set_works h key value := f.set_works h key value
  set_accepted h key value := f.set_accepted h key value
  set_refused h key value := f.set_refused h key value

/-- The latest write under one of some keys that was accepted. -/
def lastAccepted? (w : Recorded σ) (keys : List String) : Option Attempt :=
  w.attempts.find? fun a => a.accepted && keys.contains a.key

end Recorded
end IndicatorStrategy

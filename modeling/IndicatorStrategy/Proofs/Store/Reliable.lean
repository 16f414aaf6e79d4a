import Mathlib
import IndicatorStrategy.Store.Backend
/-!
# IndicatorStrategy.Proofs.Store.Reliable

**Stores that do not fail.** What such a store holds is a partial map from keys to
values. Reading a key yields what is there and changes nothing that can be read; writing
a key replaces what is there and nothing else.

A store need only be reliable in the states in which it `Works`: a workspace that holds
its contents in memory works, whatever files lie beside it.
-/

namespace IndicatorStrategy

/-- A store whose reads and writes succeed wherever it works. -/
structure KeyValue.Reliable (σ : Type) [KeyValue σ] where
  Works : σ → Prop
  contents : σ → String → Option String
  get_result {s : σ} (h : Works s) (key : String) : (KeyValue.get s key).1 = .ok (contents s key)
  get_works {s : σ} (h : Works s) (key : String) : Works (KeyValue.get s key).2
  get_contents {s : σ} (h : Works s) (key : String) :
    contents (KeyValue.get s key).2 = contents s
  set_result {s : σ} (h : Works s) (key value : String) : (KeyValue.set s key value).1 = .ok ()
  set_works {s : σ} (h : Works s) (key value : String) : Works (KeyValue.set s key value).2
  set_contents {s : σ} (h : Works s) (key value : String) :
    contents (KeyValue.set s key value).2 = Function.update (contents s) key (some value)

theorem Assoc.get?_putSorted_eq_update (contents : Contents) (key value : String) :
    Assoc.get? (Assoc.putSorted contents key value)
      = Function.update (Assoc.get? contents) key (some value) := by
  funext other
  by_cases h : other = key
  · rw [h, Assoc.get?_putSorted_self, Function.update_self]
  · rw [Assoc.get?_putSorted_of_ne _ _ (Ne.symm h), Function.update_of_ne h]

/-- Memory works always. -/
def Memory.reliable : KeyValue.Reliable Memory where
  Works _ := True
  contents s := Assoc.get? s.contents
  get_result _ _ := rfl
  get_works _ _ := trivial
  get_contents _ _ := rfl
  set_result _ _ _ := rfl
  set_works _ _ _ := trivial
  set_contents {s} _ key value := Assoc.get?_putSorted_eq_update s.contents key value

namespace Workspace

/-- The contents of a workspace that holds them in memory. -/
def held (w : Workspace) : Contents :=
  match w.backend with
  | .memory contents => contents
  | _ => []

/-- A workspace works as long as it holds its contents in memory. -/
def reliable : KeyValue.Reliable Workspace where
  Works w := ∃ contents, w.backend = .memory contents
  contents w := Assoc.get? w.held
  get_result := by
    rintro w ⟨contents, hw⟩ key
    simp [KeyValue.get, get, held, hw]
  get_works := by
    rintro w ⟨contents, hw⟩ key
    simp [KeyValue.get, get, hw]
  get_contents := by
    rintro w ⟨contents, hw⟩ key
    simp [KeyValue.get, get, hw]
  set_result := by
    rintro w ⟨contents, hw⟩ key value
    simp [KeyValue.set, store, hw]
  set_works := by
    rintro w ⟨contents, hw⟩ key value
    simp [KeyValue.set, store, hw]
  set_contents := by
    rintro w ⟨contents, hw⟩ key value
    simp [KeyValue.set, store, held, hw, Assoc.get?_putSorted_eq_update]

end Workspace
end IndicatorStrategy

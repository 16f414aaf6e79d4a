import Mathlib
import IndicatorStrategy.Proofs.Store.Effect
import IndicatorStrategy.Proofs.Store.Faithful
/-!
# IndicatorStrategy.Proofs.Store.Readable

**Stores that can be read.** Of such a store no more is known than that looking up a key
succeeds and changes nothing that can be looked up; its writes may do anything. An action
that only reads cannot see more of the store than what it holds, so it comes to a value
that is a function of that (`Readable.Yields`), and the store holds the same afterwards.
-/

namespace IndicatorStrategy
namespace KeyValue

/-- A store whose reads succeed wherever it works. -/
structure Readable (σ : Type) [KeyValue σ] where
  Works : σ → Prop
  contents : σ → Held
  get_result {s : σ} (h : Works s) (key : String) : (KeyValue.get s key).1 = .ok (contents s key)
  get_works {s : σ} (h : Works s) (key : String) : Works (KeyValue.get s key).2
  get_contents {s : σ} (h : Works s) (key : String) :
    contents (KeyValue.get s key).2 = contents s

variable {σ α β : Type} [KeyValue σ]

/-- What is read from a store does not depend on what it makes of writes. -/
def Faithful.readable (f : Faithful σ) : Readable σ where
  Works := f.Works
  contents := f.contents
  get_result := f.get_result
  get_works := f.get_works
  get_contents := f.get_contents

namespace Readable

/-- Wherever the store works, the action ends with a value that is the given function of
what the store holds, and leaves a store that works and holds the same. -/
structure Yields (r : Readable σ) (x : Action σ α) (value : Held → α) : Prop where
  run : ∀ s, r.Works s → ∃ s' log, x.run s = ⟨.ok (value (r.contents s)), s', log⟩ ∧
    r.Works s' ∧ r.contents s' = r.contents s

namespace Yields

variable {r : Readable σ} {x : Action σ α} {value : Held → α}

theorem pure (a : α) : r.Yields (Pure.pure a) (fun _ => a) :=
  ⟨fun s h => ⟨s, [], rfl, h, rfl⟩⟩

theorem log (e : Event) : r.Yields (Action.log e) (fun _ => ()) :=
  ⟨fun s h => ⟨s, [e], rfl, h, rfl⟩⟩

theorem get (key : String) : r.Yields (Action.get key) (fun held => held key) := by
  refine ⟨fun s h => ⟨_, [], ?_, r.get_works h key, r.get_contents h key⟩⟩
  rw [Action.run_get, r.get_result h]

theorem attempt (hx : r.Yields x value) :
    r.Yields (Action.attempt x) (fun held => .ok (value held)) := by
  refine ⟨fun s h => ?_⟩
  obtain ⟨s', log, hrun, hworks, hcontents⟩ := hx.run s h
  exact ⟨s', log, by rw [Action.run_attempt, hrun], hworks, hcontents⟩

/-- The second of two actions sees the value of the first and reads the same store. -/
theorem bind {f : α → Action σ β} {u : α → Held → β} (hx : r.Yields x value)
    (hf : ∀ a, r.Yields (f a) (u a)) : r.Yields (x >>= f) (fun held => u (value held) held) := by
  refine ⟨fun s h => ?_⟩
  obtain ⟨s', log, hrun, hworks, hcontents⟩ := hx.run s h
  obtain ⟨s'', log', hrun', hworks', hcontents'⟩ := (hf (value (r.contents s))).run s' hworks
  rw [hcontents] at hrun' hcontents'
  exact ⟨s'', log ++ log', by rw [Action.run_bind_of_ok hrun, hrun'], hworks', hcontents'⟩

theorem result (hx : r.Yields x value) {s : σ} (h : r.Works s) :
    (x.run s).result = .ok (value (r.contents s)) := by
  obtain ⟨s', log, hrun, -⟩ := hx.run s h
  rw [hrun]

/-- On a store that does not fail, an action that only reads has no effect. -/
theorem computes {r : Reliable σ} (hx : r.faithful.readable.Yields x value) :
    r.Computes x value id := ⟨hx.run⟩

end Yields
end Readable
end KeyValue
end IndicatorStrategy

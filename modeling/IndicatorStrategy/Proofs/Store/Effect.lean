import Mathlib
import IndicatorStrategy.Proofs.Store.Reliable
/-!
# IndicatorStrategy.Proofs.Store.Effect

**Actions as functions of what is held.** On a store that does not fail an action cannot
see more of the store than what it holds. So it comes to a value that is a function of
that, and leaves behind what is another one (`Reliable.Computes`). Both functions of a
compound action are put together from those of its parts.
-/

namespace IndicatorStrategy
namespace KeyValue

/-- What a store holds: the value under each key. -/
abbrev Held : Type := String → Option String

namespace Reliable

variable {σ α β : Type} [KeyValue σ]

/-- Wherever the store works, the action ends with a value, and leaves a store that
works; value and contents are the given functions of what the store held. -/
structure Computes (r : Reliable σ) (x : Action σ α) (value : Held → α)
    (effect : Held → Held) : Prop where
  run : ∀ s, r.Works s → ∃ s' log, x.run s = ⟨.ok (value (r.contents s)), s', log⟩ ∧
    r.Works s' ∧ r.contents s' = effect (r.contents s)

namespace Computes

variable {r : Reliable σ} {x : Action σ α} {f : α → Action σ β} {value : Held → α}
  {effect : Held → Held}

theorem pure (a : α) : r.Computes (Pure.pure a) (fun _ => a) id :=
  ⟨fun s h => ⟨s, [], rfl, h, rfl⟩⟩

theorem log (e : Event) : r.Computes (Action.log e) (fun _ => ()) id :=
  ⟨fun s h => ⟨s, [e], rfl, h, rfl⟩⟩

theorem set (key value : String) :
    r.Computes (Action.set key value) (fun _ => ())
      (fun held => Function.update held key (some value)) := by
  refine ⟨fun s h => ⟨_, [], ?_, r.set_works h key value, r.set_contents h key value⟩⟩
  rw [Action.run_set, r.set_result h]

/-- The second of two actions starts from what the first one comes to and leaves. It is
asked for about those values only that have a property of all that the first one comes to. -/
theorem bind_of {P : α → Prop} {u : α → Held → β} {g : α → Held → Held}
    (hx : r.Computes x value effect) (hvalue : ∀ held, P (value held))
    (hf : ∀ a, P a → r.Computes (f a) (u a) (g a)) :
    r.Computes (x >>= f) (fun held => u (value held) (effect held))
      (fun held => g (value held) (effect held)) := by
  refine ⟨fun s h => ?_⟩
  obtain ⟨s', log, hrun, hworks, hcontents⟩ := hx.run s h
  obtain ⟨s'', log', hrun', hworks', hcontents'⟩ := (hf _ (hvalue (r.contents s))).run s' hworks
  rw [hcontents] at hrun' hcontents'
  exact ⟨s'', log ++ log', by rw [Action.run_bind_of_ok hrun, hrun'], hworks', hcontents'⟩

theorem bind {u : α → Held → β} {g : α → Held → Held} (hx : r.Computes x value effect)
    (hf : ∀ a, r.Computes (f a) (u a) (g a)) :
    r.Computes (x >>= f) (fun held => u (value held) (effect held))
      (fun held => g (value held) (effect held)) :=
  hx.bind_of (P := fun _ => True) (fun _ => trivial) fun a _ => hf a

/-- Where the first of two actions comes to the same value whatever is held, the second
starts from that value. It is asked for about every value that is this one, so that it can
be given without being told apart first. -/
theorem bind_const {a : α} {u : Held → β} {g : Held → Held}
    (hx : r.Computes x (fun _ => a) effect) (hf : ∀ b, b = a → r.Computes (f b) u g) :
    r.Computes (x >>= f) (fun held => u (effect held)) (fun held => g (effect held)) :=
  hx.bind_of (P := (· = a)) (fun _ => rfl) hf

/-- A result that is known is passed on. -/
theorem ofExcept_bind {a : α} {u : Held → β} {g : Held → Held} (hf : r.Computes (f a) u g) :
    r.Computes (Action.ofExcept (.ok a) >>= f) u g := hf

/-- Both functions may be told in other words. -/
theorem congr {u : Held → α} {g : Held → Held} (hx : r.Computes x value effect)
    (hvalue : ∀ held, value held = u held) (heffect : ∀ held, effect held = g held) :
    r.Computes x u g :=
  (funext hvalue : value = u) ▸ (funext heffect : effect = g) ▸ hx

theorem result (hx : r.Computes x value effect) {s : σ} (h : r.Works s) :
    (x.run s).result = .ok (value (r.contents s)) := by
  obtain ⟨s', log, hrun, -⟩ := hx.run s h
  rw [hrun]

theorem works (hx : r.Computes x value effect) {s : σ} (h : r.Works s) :
    r.Works (x.run s).store := by
  obtain ⟨s', log, hrun, hworks, -⟩ := hx.run s h
  rwa [hrun]

theorem contents (hx : r.Computes x value effect) {s : σ} (h : r.Works s) :
    r.contents (x.run s).store = effect (r.contents s) := by
  obtain ⟨s', log, hrun, -, hcontents⟩ := hx.run s h
  rwa [hrun]

end Computes
end Reliable
end KeyValue
end IndicatorStrategy

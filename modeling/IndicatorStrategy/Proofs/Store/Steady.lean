import Mathlib
import IndicatorStrategy.Proofs.Store.Readable
/-!
# IndicatorStrategy.Proofs.Store.Steady

**Stores with keys that cannot be read.** A steady store answers each key always alike, with
what it holds there or with a failure. An action that only reads is told by the keys that it
asks for, one after the other, and by the value that it comes to (`Steady.Asks`): it ends with
the failure of the first key that cannot be read, or else with that value. Which keys are
asked for may depend on the answers to those before.
-/

namespace IndicatorStrategy
namespace KeyValue

/-- What a store answers to each key. -/
abbrev Answers : Type := String → Except Failure (Option String)

namespace Answers

/-- What is held under the keys that can be read. -/
def held (answers : Answers) : Held := fun key => (answers key).toOption.join

/-- The failure of a key that cannot be read. -/
def failure? (answers : Answers) (key : String) : Option Failure :=
  match answers key with
  | .ok _ => none
  | .error e => some e

/-- What asking for keys and then for a value comes to: the failure of the first key that
cannot be read, or else the value. -/
def outcome {α : Type} (answers : Answers) (keys : List String) (a : α) : Except Failure α :=
  (keys.findSome? answers.failure?).elim (.ok a) .error

variable {answers : Answers} {key : String} {keys : List String} {α : Type} {a b : α}

theorem held_of_ok {value? : Option String} (h : answers key = .ok value?) :
    answers.held key = value? := by
  rw [held, h]
  rfl

theorem failure?_eq_none_iff :
    answers.failure? key = none ↔ ∃ value?, answers key = .ok value? := by
  rw [failure?]
  cases answers key <;> simp

theorem failure?_eq_some_iff {e : Failure} :
    answers.failure? key = some e ↔ answers key = .error e := by
  rw [failure?]
  cases answers key <;> simp

theorem outcome_of_readable (h : ∀ key ∈ keys, ∃ value?, answers key = .ok value?) :
    answers.outcome keys a = .ok a := by
  have hnone : keys.findSome? answers.failure? = none :=
    List.findSome?_eq_none_iff.mpr fun key hkey => failure?_eq_none_iff.mpr (h key hkey)
  rw [outcome, hnone, Option.elim_none]

/-- Keys are asked for up to the first one that cannot be read. -/
theorem outcome_eq_error_iff {e : Failure} :
    answers.outcome keys a = .error e ↔ ∃ front key back, keys = front ++ key :: back ∧
      answers key = .error e ∧ ∀ before ∈ front, ∃ value?, answers before = .ok value? := by
  have hfind : answers.outcome keys a = .error e ↔ keys.findSome? answers.failure? = some e := by
    rw [outcome]
    cases keys.findSome? answers.failure? <;> simp
  simp only [hfind, List.findSome?_eq_some_iff, failure?_eq_some_iff, failure?_eq_none_iff]

theorem exists_outcome_eq_error_iff :
    (∃ e, answers.outcome keys a = .error e) ↔ ∃ key ∈ keys, ∃ e, answers key = .error e := by
  constructor
  · rintro ⟨e, he⟩
    obtain ⟨front, key, back, rfl, hkey, -⟩ := outcome_eq_error_iff.mp he
    exact ⟨key, List.mem_append_right _ List.mem_cons_self, e, hkey⟩
  · rintro ⟨key, hmem, e, hkey⟩
    cases hfind : keys.findSome? answers.failure? with
    | some e' => exact ⟨e', by rw [outcome, hfind, Option.elim_some]⟩
    | none =>
      have hfailure := List.findSome?_eq_none_iff.mp hfind key hmem
      rw [failure?_eq_some_iff.mpr hkey] at hfailure
      cases hfailure

theorem readable_of_outcome (h : answers.outcome keys a = .ok b) :
    ∀ key ∈ keys, ∃ value?, answers key = .ok value? := by
  intro key hmem
  cases hkey : answers key with
  | ok value? => exact ⟨value?, rfl⟩
  | error e =>
    obtain ⟨e', he'⟩ := exists_outcome_eq_error_iff (a := a).mpr ⟨key, hmem, e, hkey⟩
    rw [h] at he'
    cases he'

/-- What is asked for depends on the answers to the keys that are asked for, if the value
does. -/
theorem outcome_congr {other : Answers} (h : ∀ key ∈ keys, other key = answers key)
    (hvalue : (∀ key ∈ keys, ∃ value?, answers key = .ok value?) → b = a) :
    other.outcome keys b = answers.outcome keys a := by
  cases hresult : answers.outcome keys a with
  | ok c =>
    have hreadable := readable_of_outcome hresult
    rw [← hresult, hvalue hreadable, outcome_of_readable hreadable]
    exact outcome_of_readable fun key hmem => (h key hmem) ▸ hreadable key hmem
  | error e =>
    obtain ⟨front, key, back, rfl, hkey, hfront⟩ := outcome_eq_error_iff.mp hresult
    refine outcome_eq_error_iff.mpr ⟨front, key, back, rfl, ?_, fun before hbefore => ?_⟩
    · rw [h key (List.mem_append_right _ List.mem_cons_self), hkey]
    · rw [h before (List.mem_append_left _ hbefore)]
      exact hfront before hbefore

end Answers

/-- A store that answers each key always alike, wherever it works. -/
structure Steady (σ : Type) [KeyValue σ] where
  Works : σ → Prop
  answers : σ → Answers
  get_result {s : σ} (h : Works s) (key : String) : (KeyValue.get s key).1 = answers s key
  get_works {s : σ} (h : Works s) (key : String) : Works (KeyValue.get s key).2
  get_answers {s : σ} (h : Works s) (key : String) : answers (KeyValue.get s key).2 = answers s

variable {σ α β : Type} [KeyValue σ]

/-- All keys of a store that can be read are answered by what it holds. -/
def Readable.steady (r : Readable σ) : Steady σ where
  Works := r.Works
  answers s key := .ok (r.contents s key)
  get_result := r.get_result
  get_works := r.get_works
  get_answers h key := by simp only [r.get_contents h]

namespace Steady

/-- Wherever the store works, the action asks for the given keys and ends with the failure of
the first that cannot be read, or else with the given value of what is held; and it leaves a
store that works and answers as before. -/
structure Asks (r : Steady σ) (x : Action σ α) (keys : Answers → List String)
    (value : Held → α) : Prop where
  run : ∀ s, r.Works s → ∃ s' log,
    x.run s = ⟨(r.answers s).outcome (keys (r.answers s)) (value (r.answers s).held), s', log⟩ ∧
    r.Works s' ∧ r.answers s' = r.answers s

namespace Asks

variable {r : Steady σ} {x : Action σ α} {keys : Answers → List String} {value : Held → α}

theorem pure (a : α) : r.Asks (Pure.pure a) (fun _ => []) (fun _ => a) :=
  ⟨fun s h => ⟨s, [], rfl, h, rfl⟩⟩

theorem log (e : Event) : r.Asks (Action.log e) (fun _ => []) (fun _ => ()) :=
  ⟨fun s h => ⟨s, [e], rfl, h, rfl⟩⟩

theorem get (key : String) : r.Asks (Action.get key) (fun _ => [key]) (fun held => held key) := by
  refine ⟨fun s h => ⟨_, [], ?_, r.get_works h key, r.get_answers h key⟩⟩
  rw [Action.run_get, r.get_result h, Answers.outcome, Answers.held, List.findSome?_singleton,
    Answers.failure?]
  cases r.answers s key <;> rfl

/-- The second of two actions asks for its keys unless the first one failed. -/
theorem bind {f : α → Action σ β} {k : α → Answers → List String} {u : α → Held → β}
    (hx : r.Asks x keys value) (hf : ∀ a, r.Asks (f a) (k a) (u a)) :
    r.Asks (x >>= f) (fun answers => keys answers ++ k (value answers.held) answers)
      (fun held => u (value held) held) := by
  refine ⟨fun s h => ?_⟩
  obtain ⟨s', log, hrun, hworks, hanswers⟩ := hx.run s h
  cases hfailure : (keys (r.answers s)).findSome? (r.answers s).failure? with
  | some e =>
    have hfirst : x.run s = ⟨.error e, s', log⟩ := by
      rw [hrun, Answers.outcome, hfailure]
      rfl
    refine ⟨s', log, ?_, hworks, hanswers⟩
    rw [Action.run_bind_of_error hfirst, Answers.outcome, List.findSome?_append, hfailure]
    rfl
  | none =>
    have hfirst : x.run s = ⟨.ok (value (r.answers s).held), s', log⟩ := by
      rw [hrun, Answers.outcome, hfailure]
      rfl
    obtain ⟨s'', log', hrun', hworks', hanswers'⟩ := (hf (value (r.answers s).held)).run s' hworks
    rw [hanswers] at hrun' hanswers'
    refine ⟨s'', log ++ log', ?_, hworks', hanswers'⟩
    rw [Action.run_bind_of_ok hfirst, hrun', Answers.outcome, Answers.outcome,
      List.findSome?_append, hfailure, Option.none_or]

/-- Keys behind one that cannot be read do not matter. -/
theorem congr {keys' : Answers → List String} (hx : r.Asks x keys value)
    (h : ∀ answers : Answers, (keys answers).findSome? answers.failure?
      = (keys' answers).findSome? answers.failure?) : r.Asks x keys' value := by
  refine ⟨fun s hs => ?_⟩
  obtain ⟨s', log, hrun, hrest⟩ := hx.run s hs
  rw [Answers.outcome, h] at hrun
  exact ⟨s', log, hrun, hrest⟩

theorem result (hx : r.Asks x keys value) {s : σ} (h : r.Works s) :
    (x.run s).result = (r.answers s).outcome (keys (r.answers s)) (value (r.answers s).held) := by
  obtain ⟨s', log, hrun, -⟩ := hx.run s h
  rw [hrun]

/-- Where every key can be read, the action yields its value. -/
theorem yields {f : Readable σ} (hx : f.steady.Asks x keys value) : f.Yields x value := by
  refine ⟨fun s h => ?_⟩
  obtain ⟨s', log, hrun, hworks, hanswers⟩ := hx.run s h
  have hnone : (keys (f.steady.answers s)).findSome? (f.steady.answers s).failure? = none :=
    List.findSome?_eq_none_iff.mpr fun _ _ => rfl
  rw [Answers.outcome, hnone] at hrun
  refine ⟨s', log, hrun, hworks, ?_⟩
  funext key
  exact Except.ok.inj (congrFun hanswers key)

end Asks
end Steady
end KeyValue
end IndicatorStrategy

import IndicatorStrategy.Proofs.Assoc
import IndicatorStrategy.Proofs.Store.Archive
/-!
# IndicatorStrategy.Proofs.Store.Independent

**Actions that do not notice each other.** Two actions are independent if each comes to
the same in front of the other and behind it, and both orders leave the same store. An
action that is put together from actions independent of another one is independent of it
too, so it is enough to look at single keys: in a store whose keys stand apart, what is
done with one key is independent of what is done with another.

A store with failures stands apart as long as it fails for chosen keys and not for chosen
moments (`Faulty.keysApart`).
-/

namespace IndicatorStrategy
namespace Action

variable {σ α β γ : Type}

/-- Either action may come first: both come to the same, and so does the store. -/
structure Independent (x : Action σ α) (y : Action σ β) : Prop where
  left (s : σ) : (x.run (y.run s).store).result = (x.run s).result
  right (s : σ) : (y.run (x.run s).store).result = (y.run s).result
  store (s : σ) : (x.run (y.run s).store).store = (y.run (x.run s).store).store

/-- An action that only looks at the store. -/
def look (f : σ → α) : Action σ α := fun s => ⟨.ok (f s), s, []⟩

@[simp] theorem run_look (f : σ → α) (s : σ) : run (look f) s = ⟨.ok (f s), s, []⟩ := rfl

namespace Independent

variable {x : Action σ α} {y : Action σ γ}

theorem symm (h : x.Independent y) : y.Independent x where
  left := h.right
  right := h.left
  store s := (h.store s).symm

theorem pure (a : α) (y : Action σ γ) : (Pure.pure a : Action σ α).Independent y where
  left _ := rfl
  right _ := rfl
  store _ := rfl

theorem log (e : Event) (y : Action σ γ) : (Action.log e : Action σ Unit).Independent y where
  left _ := rfl
  right _ := rfl
  store _ := rfl

theorem attempt (h : x.Independent y) : (Action.attempt x).Independent y where
  left s := by rw [run_attempt, run_attempt, h.left]
  right s := h.right s
  store s := h.store s

/-- Behind an independent action, an action comes to the same, and leaves what the other
one makes of the store that it would have left. -/
theorem exists_run_behind (h : x.Independent y) {s s' : σ} {result : Except Failure α}
    {log : List Event} (hrun : x.run s = ⟨result, s', log⟩) :
    ∃ log', x.run (y.run s).store = ⟨result, (y.run s').store, log'⟩ := by
  have hresult := h.left s
  have hstore := h.store s
  rw [hrun] at hresult hstore
  cases hbehind : x.run (y.run s).store with
  | mk result' store' log' =>
    rw [hbehind] at hresult hstore
    cases hresult
    cases hstore
    exact ⟨log', rfl⟩

/-- One action after the other is independent of what both are independent of. The second
is asked for about the values only that the first can come to. -/
theorem bind {f : α → Action σ β} (hx : x.Independent y)
    (hf : ∀ s a, (x.run s).result = .ok a → (f a).Independent y) :
    (x >>= f).Independent y := by
  -- the three facts depend on the same runs, so they are shown together for each store
  have hcases : ∀ s, ((x >>= f).run (y.run s).store).result = ((x >>= f).run s).result ∧
      (y.run ((x >>= f).run s).store).result = (y.run s).result ∧
      ((x >>= f).run (y.run s).store).store = (y.run ((x >>= f).run s).store).store := by
    intro s
    have hright := hx.right s
    cases h : x.run s with
    | mk result s' log =>
      obtain ⟨log', hrun⟩ := hx.exists_run_behind h
      rw [h] at hright
      cases result with
      | error e =>
        rw [run_bind_of_error h, run_bind_of_error hrun]
        exact ⟨rfl, hright, rfl⟩
      | ok a =>
        have ha := hf s a (by rw [h])
        rw [run_bind_of_ok h, run_bind_of_ok hrun]
        exact ⟨ha.left s', (ha.right s').trans hright, ha.store s'⟩
  exact ⟨fun s => (hcases s).1, fun s => (hcases s).2.1, fun s => (hcases s).2.2⟩

end Independent

/-! ### Keys -/

variable [KeyValue σ]

/-- An action has nothing to do with a key. -/
structure Spares (y : Action σ γ) (key : String) : Prop where
  get : (Action.get key : Action σ (Option String)).Independent y
  set (value : String) : (Action.set key value : Action σ Unit).Independent y

end Action

/-- What is done with one key is independent of what is done with another one. -/
structure KeyValue.KeysApart (σ : Type) [KeyValue σ] : Prop where
  get {key other : String} (h : key ≠ other) :
    (Action.get other : Action σ (Option String)).Spares key
  set {key other : String} (h : key ≠ other) (value : String) :
    (Action.set other value : Action σ Unit).Spares key

namespace Faulty

/-- Reading leaves the store as it is. -/
theorem get_snd (s : Faulty) (key : String) : (KeyValue.get s key).2 = s := by
  simp only [KeyValue.get]
  split <;> rfl

theorem set_unreadable (s : Faulty) (key value : String) :
    (KeyValue.set s key value).2.unreadable = s.unreadable := by
  simp only [KeyValue.set]
  split <;> rfl

theorem set_unwritable (s : Faulty) (key value : String) :
    (KeyValue.set s key value).2.unwritable = s.unwritable := by
  simp only [KeyValue.set]
  split <;> rfl

/-- A write shows nowhere else. -/
theorem get?_set_of_ne (s : Faulty) {key other : String} (h : key ≠ other) (value : String) :
    Assoc.get? (KeyValue.set s other value).2.contents key = Assoc.get? s.contents key := by
  simp only [KeyValue.set]
  split
  · rfl
  · exact Assoc.get?_putSorted_of_ne _ _ h.symm

theorem independent_get_set {key other : String} (h : key ≠ other) (value : String) :
    (Action.get key : Action Faulty _).Independent (Action.set other value) where
  left s := by
    simp only [Action.run_get, Action.run_set]
    simp only [KeyValue.get, set_unreadable, get?_set_of_ne s h]
    split <;> rfl
  right s := by rw [Action.run_get, get_snd]
  store s := by simp only [Action.run_get, Action.run_set, get_snd]

theorem independent_set_set {key other : String} (h : key ≠ other) (value value' : String) :
    (Action.set key value : Action Faulty _).Independent (Action.set other value') := by
  have hresult : ∀ (s t : Faulty) (key value : String), t.unwritable = s.unwritable →
      (KeyValue.set t key value).1 = (KeyValue.set s key value).1 := by
    intro s t key value ht
    simp only [KeyValue.set, ht]
    split <;> rfl
  refine ⟨fun s => ?_, fun s => ?_, fun s => ?_⟩
  · exact hresult _ _ _ _ (set_unwritable s other value')
  · exact hresult _ _ _ _ (set_unwritable s key value)
  · simp only [Action.run_set, KeyValue.set]
    by_cases hkey : key ∈ s.unwritable <;> by_cases hother : other ∈ s.unwritable <;>
      simp [hkey, hother, Assoc.putSorted_comm s.contents h]

/-- **Failures for chosen keys** keep the keys apart. -/
theorem keysApart : KeyValue.KeysApart Faulty where
  get {key other} h := by
    refine ⟨⟨fun s => ?_, fun s => ?_, fun s => ?_⟩, fun value => ?_⟩
    · simp only [Action.run_get, get_snd]
    · simp only [Action.run_get, get_snd]
    · simp only [Action.run_get, get_snd]
    · exact (independent_get_set h.symm value).symm
  set h value := ⟨independent_get_set h value, fun value' => independent_set_set h value' value⟩

/-- Looking at a key has nothing to do with the others. -/
theorem spares_look {key other : String} (h : key ≠ other) :
    (Action.look fun s : Faulty => Assoc.get? s.contents other).Spares key where
  get := by
    refine ⟨fun s => rfl, fun s => ?_, fun s => rfl⟩
    rw [Action.run_look, Action.run_look, Action.run_get, get_snd]
  set value := by
    refine ⟨fun s => rfl, fun s => ?_, fun s => rfl⟩
    rw [Action.run_look, Action.run_look, Action.run_set, get?_set_of_ne s h.symm]

end Faulty

/-! ### Artifacts -/

namespace Archive

variable {σ γ : Type} [KeyValue σ] {y : Action σ γ} {side : Side}

theorem independent_lookUp {key : String} (h : y.Spares key) : (lookUp key).Independent y := by
  refine h.get.attempt.bind fun _ value _ => ?_
  cases value with
  | ok value? => exact .pure _ y
  | error e => exact (Action.Independent.log _ y).bind fun _ _ _ => .pure _ y

omit [KeyValue σ] in
theorem independent_restore (parameters expression : String) (y : Action σ γ) :
    (restore parameters expression : Action σ _).Independent y := by
  rw [restore]
  split
  · exact .pure _ y
  · exact (Action.Independent.log _ y).bind fun _ _ _ => .pure _ y

variable (h : ∀ key ∈ keys side, y.Spares key)
include h

/-- **Reading a side** is independent of what has nothing to do with its keys. -/
theorem independent_read : (read side).Independent y := by
  have hp := independent_lookUp (h side.parametersKey (by simp [keys]))
  have he := independent_lookUp (h side.expressionKey (by simp [keys]))
  refine hp.bind fun _ parameters? _ => ?_
  cases parameters? with
  | none => exact .pure _ y
  | some parameters =>
    refine he.bind fun _ expression? _ => ?_
    cases expression? with
    | none => exact .pure _ y
    | some expression => exact independent_restore parameters expression y

/-- **Writing a side** is independent of what has nothing to do with its keys. -/
theorem independent_write (a : Artifact) : (write side a).Independent y := by
  have hp := h side.parametersKey (by simp [keys])
  have he := h side.expressionKey (by simp [keys])
  exact (hp.set _).bind fun _ _ _ => (he.set _).bind fun _ _ _ => .log _ y

end Archive
end IndicatorStrategy

import Mathlib
import IndicatorStrategy.Proofs.Draft.Step
/-!
# IndicatorStrategy.Proofs.Draft.Numbers

**Numbers are never used again.** No two groups or entries of an edited draft have the same
number, and all numbers are below the next one (`Draft.Numbered`). An edit takes numbers
from the next one on and never gives one back (`Draft.Step.numbers_subperm`), so a number
that it brings in is above all that were handed out before, those of removed groups and
entries included.

What stays keeps its number. `Edit.origin` says where a group or entry stood before an
edit; what had no place there is new.

The counter has no bound. One of 64 bits hands out the same numbers as long as these are
fewer than 2^64.
-/

namespace IndicatorStrategy

/-! ### The numbers of a draft -/

/-- The number of a group and those of its entries. -/
def Group.numbers (g : Group) : List Nat := g.id :: g.entries.map (·.id)

namespace Draft

/-- The numbers of all groups and entries. -/
def numbers (d : Draft) : List Nat := d.groups.flatMap Group.numbers

/-- No number stands twice, and none is still to be handed out. -/
structure Numbered (d : Draft) : Prop where
  nodup : d.numbers.Nodup
  below : ∀ n ∈ d.numbers, n < d.nextId

theorem numbered_blank : blank.Numbered where
  nodup := by decide
  below := by decide

/-- Among the numbers of a draft, those of one group may go and new ones may come. -/
theorem numbers_subperm_of_group {gs hs : List Group} {g g' : Group} {m n : Nat} {new : List Nat}
    (h : g'.numbers.Subperm (g.numbers ++ new)) :
    (Draft.mk (gs ++ g' :: hs) m).numbers.Subperm
      ((Draft.mk (gs ++ g :: hs) n).numbers ++ new) := by
  have hsplit (g : Group) (n : Nat) : (Draft.mk (gs ++ g :: hs) n).numbers
      = gs.flatMap Group.numbers ++ (g.numbers ++ hs.flatMap Group.numbers) := by
    rw [numbers, List.flatMap_append, List.flatMap_cons]
  have hgroup : (g'.numbers ++ hs.flatMap Group.numbers).Subperm
      (g.numbers ++ hs.flatMap Group.numbers ++ new) := by
    refine ((List.subperm_append_right _).mpr h).trans (List.Perm.subperm ?_)
    rw [List.append_assoc, List.append_assoc]
    exact List.perm_append_comm.append_left _
  rw [hsplit g', hsplit g, List.append_assoc]
  exact (List.subperm_append_left _).mpr hgroup

/-- An edit keeps numbers, drops some, and takes new ones from the next number on. -/
theorem Step.numbers_subperm {d d' : Draft} {edit : Edit} (h : d.Step edit d') :
    ∃ k, d'.nextId = d.nextId + k ∧ d'.numbers.Subperm (d.numbers ++ List.range' d.nextId k) := by
  cases h with
  | @addGroup gs n =>
    -- one number for the group and one for its entry
    refine ⟨2, rfl, ?_⟩
    rw [numbers, List.flatMap_append]
    exact List.Subperm.refl _
  | @removeGroup gs hs g n hne =>
    refine ⟨0, rfl, ?_⟩
    rw [List.range'_zero, List.append_nil]
    exact (((List.sublist_cons_self g hs).append_left gs).flatMap _).subperm
  | @addEntry gs hs id es n =>
    refine ⟨1, rfl, numbers_subperm_of_group ?_⟩
    rw [Group.numbers, List.map_append]
    exact List.Subperm.refl _
  | @removeEntry gs hs id es fs e n hne =>
    refine ⟨0, rfl, numbers_subperm_of_group ?_⟩
    rw [List.range'_zero, List.append_nil]
    exact ((((List.sublist_cons_self e fs).append_left es).map _).cons_cons id).subperm
  | @change gs hs id es fs e e' n c hchange =>
    refine ⟨0, rfl, numbers_subperm_of_group ?_⟩
    have hsame : (Group.mk id (es ++ e' :: fs)).numbers = (Group.mk id (es ++ e :: fs)).numbers := by
      simp [Group.numbers, hchange.id_eq]
    rw [hsame, List.range'_zero, List.append_nil]

theorem Numbered.apply {d : Draft} (h : d.Numbered) (edit : Edit) : (d.apply edit).Numbered := by
  by_cases hidle : edit.Idle d
  · rw [apply_of_idle hidle]
    exact h
  · obtain ⟨k, hnext, hsub⟩ := (step_apply hidle).numbers_subperm
    have hnew : (d.numbers ++ List.range' d.nextId k).Nodup := by
      refine List.nodup_append.mpr ⟨h.nodup, List.nodup_range', ?_⟩
      intro n hn m hm hnm
      have hlt := h.below n hn
      have hle := (List.mem_range'_1.mp hm).1
      omega
    obtain ⟨kept, hperm, hkept⟩ := hsub
    refine ⟨hperm.nodup_iff.mp (hnew.sublist hkept), fun n hn => ?_⟩
    rw [hnext]
    rcases List.mem_append.mp (hkept.subset (hperm.mem_iff.mpr hn)) with hn | hn
    · exact (h.below n hn).trans_le (Nat.le_add_right ..)
    · exact (List.mem_range'_1.mp hn).2

theorem Numbered.applyAll {d : Draft} (h : d.Numbered) (es : List Edit) :
    (d.applyAll es).Numbered := by
  induction es generalizing d with
  | nil => exact h
  | cons e es ih => exact ih (h.apply e)

theorem nextId_le_apply (d : Draft) (edit : Edit) : d.nextId ≤ (d.apply edit).nextId := by
  by_cases hidle : edit.Idle d
  · rw [apply_of_idle hidle]
  · obtain ⟨k, hnext, -⟩ := (step_apply hidle).numbers_subperm
    omega

theorem nextId_le_applyAll (d : Draft) (es : List Edit) : d.nextId ≤ (d.applyAll es).nextId := by
  induction es generalizing d with
  | nil => exact Nat.le_refl _
  | cons e es ih => exact (d.nextId_le_apply e).trans (ih _)

end Draft

/-! ### Where something stood before an edit -/

/-- The place of a group, or of an entry in a group. -/
inductive Place
  | group (group : Nat)
  | entry (group entry : Nat)

/-- The position that an element had before another one was taken out. -/
def beforeErase (erased position : Nat) : Nat :=
  if position < erased then position else position + 1

theorem getElem?_append_eq_beforeErase {α : Type} (xs : List α) (x : α) (ys : List α) (k : Nat) :
    (xs ++ ys)[k]? = (xs ++ x :: ys)[beforeErase xs.length k]? := by
  rw [← eraseIdx_length_append_cons xs x ys, List.getElem?_eraseIdx, beforeErase]
  split <;> rfl

/-- Behind some elements there is one more. -/
theorem getElem?_append_singleton_cases {α : Type} {xs : List α} {x y : α} {k : Nat}
    (h : (xs ++ [x])[k]? = some y) : xs[k]? = some y ∨ xs[k]? = none ∧ y = x := by
  rw [List.getElem?_append] at h
  split at h
  · exact .inl h
  · rename_i hk
    obtain ⟨-, rfl⟩ := List.getElem?_eq_some_iff.mp h
    exact .inr ⟨List.getElem?_eq_none (Nat.not_lt.mp hk), List.getElem_singleton ..⟩

namespace Edit

/-- Where what stands at a place after an edit that is not idle stood before it. -/
def source : Edit → Place → Place
  | .removeGroup i, .group k => .group (beforeErase i k)
  | .removeGroup i, .entry k l => .entry (beforeErase i k) l
  | .removeEntry _ _, .group k => .group k
  | .removeEntry i j, .entry k l => .entry k (if k = i then beforeErase j l else l)
  | .addGroup, p | .addEntry _, p | .change .., p => p

/-- Where what stands at a place after an edit stood before it. -/
def origin (d : Draft) (edit : Edit) (p : Place) : Place :=
  if edit.Idle d then p else edit.source p

end Edit

namespace Draft

/-- The number of what stands at a place. -/
def numberAt? (d : Draft) : Place → Option Nat
  | .group i => d.groups[i]?.map (·.id)
  | .entry i j => (d.entry? i j).map (·.id)

section
variable {gs hs : List Group} {g g' : Group} {m n k : Nat}

theorem numberAt?_group_of_id_eq (h : g'.id = g.id) :
    (Draft.mk (gs ++ g' :: hs) m).numberAt? (.group k)
      = (Draft.mk (gs ++ g :: hs) n).numberAt? (.group k) := by
  simp only [numberAt?, ← List.getElem?_map, List.map_append, List.map_cons, h]

theorem numberAt?_entry_of_ne (h : k ≠ gs.length) (l : Nat) :
    (Draft.mk (gs ++ g' :: hs) m).numberAt? (.entry k l)
      = (Draft.mk (gs ++ g :: hs) n).numberAt? (.entry k l) := by
  have hgroup : (gs ++ g' :: hs)[k]? = (gs ++ g :: hs)[k]? := by
    rw [List.getElem?_append, List.getElem?_append]
    split
    · rfl
    · obtain ⟨i, hi⟩ : ∃ i, k - gs.length = i + 1 := ⟨k - gs.length - 1, by omega⟩
      rw [hi, List.getElem?_cons_succ, List.getElem?_cons_succ]
  simp only [numberAt?, entry?, hgroup]

theorem numberAt?_entry_self (l : Nat) :
    (Draft.mk (gs ++ g :: hs) n).numberAt? (.entry gs.length l) = (g.entries.map (·.id))[l]? := by
  simp [numberAt?, entry?]

/-- Where an edit acts in a group that keeps its number, only the entries of that group
count: what stands among these was there before, or it is new. -/
theorem numberAt?_cases_of_group {source : Place → Place} {p : Place} {x : Nat}
    (hp : (Draft.mk (gs ++ g' :: hs) m).numberAt? p = some x) (hid : g'.id = g.id)
    (hgroup : ∀ k, source (.group k) = .group k)
    (hothers : ∀ k l, k ≠ gs.length → source (.entry k l) = .entry k l)
    (hentries : ∀ l x, (g'.entries.map (·.id))[l]? = some x →
      ∃ l', source (.entry gs.length l) = .entry gs.length l' ∧
        ((g.entries.map (·.id))[l']? = some x ∨
          (g.entries.map (·.id))[l']? = none ∧ n ≤ x)) :
    (Draft.mk (gs ++ g :: hs) n).numberAt? (source p) = some x ∨
      (Draft.mk (gs ++ g :: hs) n).numberAt? (source p) = none ∧ n ≤ x := by
  cases p with
  | group k =>
    rw [hgroup]
    exact .inl ((numberAt?_group_of_id_eq hid).symm.trans hp)
  | entry k l =>
    by_cases hk : k = gs.length
    · subst hk
      rw [numberAt?_entry_self] at hp
      obtain ⟨l', hsource, hcases⟩ := hentries l x hp
      rwa [hsource, numberAt?_entry_self]
    · rw [hothers k l hk]
      exact .inl ((numberAt?_entry_of_ne hk l).symm.trans hp)

/-- The same for a new group behind the others. -/
theorem numberAt?_cases_of_append {p : Place} {x : Nat}
    (hp : (Draft.mk (gs ++ [Group.blank n]) m).numberAt? p = some x) :
    (Draft.mk gs n).numberAt? p = some x ∨ (Draft.mk gs n).numberAt? p = none ∧ n ≤ x := by
  cases p with
  | group k =>
    obtain ⟨g, hg, rfl⟩ := Option.map_eq_some_iff.mp hp
    rcases getElem?_append_singleton_cases hg with hold | ⟨hnone, rfl⟩
    · exact .inl (by rw [numberAt?, hold, Option.map_some])
    · exact .inr ⟨by rw [numberAt?, hnone, Option.map_none], Nat.le_refl _⟩
  | entry k l =>
    obtain ⟨e, hentry, rfl⟩ := Option.map_eq_some_iff.mp hp
    obtain ⟨g, hg, he⟩ := Option.bind_eq_some_iff.mp hentry
    rcases getElem?_append_singleton_cases hg with hold | ⟨hnone, rfl⟩
    · exact .inl (by rw [numberAt?, entry?, hold, Option.bind_some, he, Option.map_some])
    · obtain rfl := List.mem_singleton.mp (List.mem_of_getElem? he)
      exact .inr ⟨by rw [numberAt?, entry?, hnone]; rfl, Nat.le_succ _⟩

end

/-- What stands at a place after an edit has the number that it had before, or it is new
and has one of the next numbers. -/
theorem Step.numberAt?_cases {d d' : Draft} {edit : Edit} (h : d.Step edit d') {p : Place}
    {n : Nat} (hp : d'.numberAt? p = some n) :
    d.numberAt? (edit.source p) = some n ∨
      d.numberAt? (edit.source p) = none ∧ d.nextId ≤ n := by
  cases h with
  | @addGroup gs next => exact numberAt?_cases_of_append hp
  | @removeGroup gs hs g next hne =>
    left
    rw [← hp]
    cases p with
    | group k => simp only [numberAt?, Edit.source, ← getElem?_append_eq_beforeErase]
    | entry k l => simp only [numberAt?, entry?, Edit.source, ← getElem?_append_eq_beforeErase]
  | @addEntry gs hs i es next =>
    refine numberAt?_cases_of_group hp rfl (fun _ => rfl) (fun _ _ _ => rfl)
      fun l x hx => ⟨l, rfl, ?_⟩
    rw [List.map_append] at hx
    rcases getElem?_append_singleton_cases hx with hold | ⟨hnone, rfl⟩
    · exact .inl hold
    · exact .inr ⟨hnone, Nat.le_refl _⟩
  | @removeEntry gs hs i es fs e next hne =>
    refine numberAt?_cases_of_group hp rfl (fun _ => rfl) (fun k l hk => ?_)
      fun l x hx => ⟨beforeErase es.length l, ?_, .inl ?_⟩
    · rw [Edit.source, if_neg hk]
    · rw [Edit.source, if_pos rfl]
    · rwa [List.getElem?_map, ← getElem?_append_eq_beforeErase, ← List.getElem?_map]
  | @change gs hs i es fs e e' next c hchange =>
    refine numberAt?_cases_of_group hp rfl (fun _ => rfl) (fun _ _ _ => rfl)
      fun l x hx => ⟨l, rfl, .inl ?_⟩
    rw [← hx]
    simp only [List.map_append, List.map_cons, hchange.id_eq]

end Draft

/-! ### Numbers over a run -/

/-- Numbers under an edit, when those in `used` were there at some time. The next number
does not fall, what stood before the edit keeps its number, and what is new has a number
that was never used. -/
structure Edit.KeepsNumbers (edit : Edit) (d : Draft) (used : List Nat) : Prop where
  nextId : d.nextId ≤ (d.apply edit).nextId
  numberAt? : ∀ p n, (d.apply edit).numberAt? p = some n →
    d.numberAt? (edit.origin d p) = some n ∨
      d.numberAt? (edit.origin d p) = none ∧ n ∉ used

namespace Draft

theorem Numbered.keepsNumbers {past d : Draft} (h : past.Numbered)
    (hlater : past.nextId ≤ d.nextId) (edit : Edit) : edit.KeepsNumbers d past.numbers := by
  refine ⟨d.nextId_le_apply edit, fun p n hp => ?_⟩
  rw [Edit.origin]
  split
  · rename_i hidle
    rw [apply_of_idle hidle] at hp
    exact .inl hp
  · rename_i hidle
    refine ((step_apply hidle).numberAt?_cases hp).imp_right fun ⟨hnone, hle⟩ => ⟨hnone, ?_⟩
    intro hused
    have hlt := h.below n hused
    omega

/-- **Numbers are never used again.** After any edits, which are `es` and then `fs`, all
numbers of groups and entries are different and below the next one. One more edit does not
lower the next number. It leaves groups and entries the numbers that they had, and gives new
ones numbers that did not occur after the edits `es`, also where what had them was removed
since. -/
theorem numbers_edited (es fs : List Edit) (edit : Edit) :
    (blank.applyAll (es ++ fs)).Numbered ∧
      edit.KeepsNumbers (blank.applyAll (es ++ fs)) (blank.applyAll es).numbers := by
  refine ⟨numbered_blank.applyAll _, (numbered_blank.applyAll es).keepsNumbers ?_ edit⟩
  rw [applyAll_append]
  exact nextId_le_applyAll _ fs

end Draft
end IndicatorStrategy

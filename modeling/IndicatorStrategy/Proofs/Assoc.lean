import Mathlib
import IndicatorStrategy.Assoc
/-!
# IndicatorStrategy.Proofs.Assoc

**Ascending association lists.** Storing a value with `Assoc.putSorted` keeps the keys
ascending, so a list that was built by it is determined by its contents: storing its pairs
one after the other, beginning with nothing, builds it again. Values under different keys
may be stored in either order. And with `Assoc.put`, values that are stored under keys that
are there change these values in their places. Of several pairs with one key, the key finds
the first.
-/

namespace IndicatorStrategy
namespace Assoc

/-! ### Parts of a list -/

section

variable {κ α : Type}

theorem keys_append (m n : Assoc κ α) : keys (m ++ n) = keys m ++ keys n := List.map_append

variable [DecidableEq κ]

theorem get?_append (m n : Assoc κ α) (key : κ) :
    get? (m ++ n) key = (get? m key).or (get? n key) := by
  induction m with
  | nil => simp
  | cons p m ih =>
    obtain ⟨k, v⟩ := p
    by_cases h : k = key
    · simp [get?, h]
    · simp [get?, h, ih]

/-- A key finds the first pair that has it. -/
theorem get?_eq_some_iff_append {m : Assoc κ α} {key : κ} {value : α} :
    get? m key = some value ↔
      ∃ front back, m = front ++ (key, value) :: back ∧ key ∉ keys front := by
  constructor
  · intro h
    induction m with
    | nil => cases h
    | cons p m ih =>
      obtain ⟨k, v⟩ := p
      by_cases hk : k = key
      · rw [get?, if_pos hk] at h
        cases h
        exact ⟨[], m, by rw [hk, List.nil_append], List.not_mem_nil⟩
      · rw [get?, if_neg hk] at h
        obtain ⟨front, back, hm, hfront⟩ := ih h
        refine ⟨(k, v) :: front, back, by rw [hm, List.cons_append], ?_⟩
        exact fun hmem => hfront ((List.mem_cons.mp hmem).resolve_left (Ne.symm hk))
  · rintro ⟨front, back, rfl, hfront⟩
    rw [get?_append, (get?_eq_none_iff front key).mpr hfront, Option.none_or, get?, if_pos rfl]

end

/-! ### Storing in place -/

section

variable {κ α : Type} [DecidableEq κ]

omit [DecidableEq κ] in
theorem keys_map_value {β : Type} (m : Assoc κ α) (f : κ × α → β) :
    keys (m.map fun p => (p.1, f p)) = keys m := by
  rw [keys, List.map_map]
  rfl

theorem mem_keys_put (m : Assoc κ α) (key : κ) (value : α) (k : κ) :
    k ∈ keys (put m key value) ↔ k ∈ keys m ∨ k = key := by
  rw [keys_put]
  split
  · rename_i hkey
    refine ⟨Or.inl, fun h => h.elim id ?_⟩
    rintro rfl
    exact hkey
  · rw [List.mem_append, List.mem_singleton]

theorem put_of_mem {m : Assoc κ α} (hn : (keys m).Nodup) {key : κ} (h : key ∈ keys m)
    (value : α) : put m key value = m.map fun p => (p.1, if p.1 = key then value else p.2) := by
  induction m with
  | nil => exact absurd h List.not_mem_nil
  | cons p m ih =>
    obtain ⟨k, v⟩ := p
    obtain ⟨hk, hn⟩ := List.nodup_cons.mp hn
    by_cases he : k = key
    · subst he
      have hrest : (m.map fun p => (p.1, if p.1 = k then value else p.2)) = m := by
        refine List.map_congr_left (fun p hp => ?_) |>.trans (List.map_id m)
        rw [if_neg]
        · rfl
        · rintro rfl
          exact hk (List.mem_map.mpr ⟨p, hp, rfl⟩)
      rw [put, if_pos rfl, List.map_cons, if_pos rfl, hrest]
    · have hm : key ∈ keys m := (List.mem_cons.mp h).resolve_left (Ne.symm he)
      rw [put, if_neg he, List.map_cons, if_neg he, ih hn hm]

/-- A value takes the place of the one under its key, or comes last if its key is new. -/
theorem put_cases (m : Assoc κ α) (key : κ) (value : α) :
    (∃ front old back, m = front ++ (key, old) :: back ∧ key ∉ keys front ∧
        put m key value = front ++ (key, value) :: back) ∨
      (key ∉ keys m ∧ put m key value = m ++ [(key, value)]) := by
  by_cases hkey : key ∈ keys m
  · left
    induction m with
    | nil => exact absurd hkey List.not_mem_nil
    | cons p m ih =>
      obtain ⟨k, v⟩ := p
      by_cases hk : k = key
      · subst hk
        exact ⟨[], v, m, rfl, List.not_mem_nil, if_pos rfl⟩
      · obtain ⟨front, old, back, hm, hfront, hput⟩ :=
          ih ((List.mem_cons.mp hkey).resolve_left (Ne.symm hk))
        refine ⟨(k, v) :: front, old, back, by rw [hm, List.cons_append], ?_, ?_⟩
        · exact fun h => hfront ((List.mem_cons.mp h).resolve_left (Ne.symm hk))
        · rw [put, if_neg hk, hput, List.cons_append]
  · exact .inr ⟨hkey, put_of_not_mem hkey value⟩

/-- Values under different keys may be stored in either order, if one of the keys is there. -/
theorem put_comm {m : Assoc κ α} {key other : κ} (hne : key ≠ other) (hkey : key ∈ keys m)
    (value value' : α) :
    put (put m key value) other value' = put (put m other value') key value := by
  induction m with
  | nil => exact absurd hkey List.not_mem_nil
  | cons p m ih =>
    obtain ⟨k, v⟩ := p
    by_cases hk : k = key
    · subst hk
      rw [put, if_pos rfl, put, if_neg hne, put, if_neg hne, put, if_pos rfl]
    · have hm : key ∈ keys m := (List.mem_cons.mp hkey).resolve_left (Ne.symm hk)
      rw [put, if_neg hk]
      by_cases ho : k = other
      · rw [put, if_pos ho, put, if_pos ho, put, if_neg hk]
      · rw [put, if_neg ho, put, if_neg ho, put, if_neg hk, ih hm]

/-- Values that are stored under keys that are there take their places. -/
theorem foldl_put_of_mem {m : Assoc κ α} (hn : (keys m).Nodup) {ks : List κ}
    (h : ∀ key ∈ ks, key ∈ keys m) (value : κ → α) :
    ks.foldl (fun m key => put m key (value key)) m
      = m.map fun p => (p.1, if p.1 ∈ ks then value p.1 else p.2) := by
  induction ks generalizing m with
  | nil => simp
  | cons k ks ih =>
    have hkeys := keys_map_value m fun p => if p.1 = k then value k else p.2
    rw [List.foldl_cons, put_of_mem hn (h k (List.mem_cons_self ..)),
      ih (hkeys ▸ hn) (fun key hkey => hkeys ▸ h key (List.mem_cons_of_mem _ hkey)),
      List.map_map]
    refine List.map_congr_left fun p _ => ?_
    by_cases hk : p.1 = k
    · simp [hk]
    · simp [hk]

end

/-! ### Ascending keys -/

variable {κ α : Type} [LT κ]

/-- The keys stand in ascending order, and none repeats. -/
def Ascending (m : Assoc κ α) : Prop := (keys m).Pairwise (· < ·)

theorem ascending_nil : Ascending ([] : Assoc κ α) := List.Pairwise.nil

theorem Ascending.nodup_keys [LE κ] [Std.LawfulOrderLT κ] {m : Assoc κ α} (h : Ascending m) :
    (keys m).Nodup :=
  h.imp fun hlt => by
    rintro rfl
    exact Std.lt_irrefl hlt

variable [DecidableEq κ] [DecidableLT κ]

theorem mem_keys_putSorted {m : Assoc κ α} {key k : κ} {value : α}
    (h : k ∈ keys (putSorted m key value)) : k = key ∨ k ∈ keys m := by
  obtain ⟨p, hp, rfl⟩ := List.mem_map.mp h
  rcases mem_putSorted hp with rfl | hm
  · exact .inl rfl
  · exact .inr (List.mem_map_of_mem hm)

theorem putSorted_ne_nil (m : Assoc κ α) (key : κ) (value : α) : putSorted m key value ≠ [] := by
  intro h
  have hself := get?_putSorted_self m key value
  rw [h] at hself
  cases hself

/-- Of two values under one key the second counts. -/
theorem putSorted_putSorted_self (m : Assoc κ α) (key : κ) (value value' : α) :
    putSorted (putSorted m key value) key value' = putSorted m key value' := by
  induction m with
  | nil => grind [putSorted]
  | cons p m ih =>
    obtain ⟨k, v⟩ := p
    grind [putSorted]

variable [LE κ] [Std.IsLinearOrder κ] [Std.LawfulOrderLT κ]

/-- **Storing a value** keeps the keys ascending. -/
theorem Ascending.putSorted {m : Assoc κ α} (h : Ascending m) (key : κ) (value : α) :
    Ascending (putSorted m key value) := by
  induction m with
  | nil => exact List.pairwise_singleton ..
  | cons p m ih =>
    obtain ⟨k, v⟩ := p
    obtain ⟨hfirst, hrest⟩ := List.pairwise_cons.mp h
    rw [Assoc.putSorted]
    split
    · exact h
    · rename_i hne
      split
      · rename_i hlt
        refine List.pairwise_cons.mpr ⟨fun other hother => ?_, h⟩
        rcases List.mem_cons.mp hother with rfl | hother
        · exact hlt
        · exact Std.lt_trans hlt (hfirst other hother)
      · rename_i hnlt
        have hkey : k < key := Std.lt_of_le_of_ne (Std.not_lt.mp hnlt) hne
        refine List.pairwise_cons.mpr ⟨fun other hother => ?_, ih hrest⟩
        rcases mem_keys_putSorted hother with rfl | hother
        · exact hkey
        · exact hfirst other hother

theorem Ascending.foldl_putSorted {m : Assoc κ α} (h : Ascending m) (ps : Assoc κ α) :
    Ascending (ps.foldl (fun m p => Assoc.putSorted m p.1 p.2) m) := by
  induction ps generalizing m with
  | nil => exact h
  | cons p ps ih => exact ih (h.putSorted p.1 p.2)

/-- Values under two keys may be stored in either order. -/
theorem putSorted_comm (m : Assoc κ α) {key other : κ} (h : key ≠ other) (value value' : α) :
    putSorted (putSorted m key value) other value'
      = putSorted (putSorted m other value') key value := by
  induction m with
  | nil => grind [putSorted]
  | cons p m ih =>
    -- where the first key of the list stands between the two decides which is stored there
    obtain ⟨k, v⟩ := p
    grind [putSorted]

/-- **Pairs under different keys** may be stored in any order. -/
theorem foldl_putSorted_of_perm {ps qs : Assoc κ α} (hn : (keys ps).Nodup) (h : ps.Perm qs)
    (m : Assoc κ α) :
    ps.foldl (fun m p => putSorted m p.1 p.2) m = qs.foldl (fun m p => putSorted m p.1 p.2) m := by
  refine h.foldl_eq' (fun p hp q hq m => ?_) m
  by_cases hkey : p.1 = q.1
  · have hvalue := (get?_of_mem hn hp).symm.trans (hkey ▸ get?_of_mem hn hq)
    rw [Prod.ext hkey (Option.some.inj hvalue)]
  · exact putSorted_comm m hkey p.2 q.2

/-- A key above all others is stored at the end. -/
theorem putSorted_eq_append {m : Assoc κ α} {key : κ} (h : ∀ k ∈ keys m, k < key) (value : α) :
    putSorted m key value = m ++ [(key, value)] := by
  induction m with
  | nil => rfl
  | cons p m ih =>
    obtain ⟨k, v⟩ := p
    have hk : k < key := h k (List.mem_cons_self ..)
    have hne : k ≠ key := by
      rintro rfl
      exact Std.lt_irrefl hk
    have hnlt : ¬key < k := fun hlt => Std.lt_irrefl (Std.lt_trans hk hlt)
    rw [putSorted, if_neg hne, if_neg hnlt, ih fun l hl => h l (List.mem_cons_of_mem _ hl),
      List.cons_append]

theorem foldl_putSorted_eq_append (m ps : Assoc κ α) (h : Ascending (m ++ ps)) :
    ps.foldl (fun m p => putSorted m p.1 p.2) m = m ++ ps := by
  induction ps generalizing m with
  | nil => simp
  | cons p ps ih =>
    have hp : ∀ k ∈ keys m, k < p.1 := by
      rw [Ascending, keys_append, List.pairwise_append] at h
      exact fun k hk => h.2.2 k hk p.1 (List.mem_cons_self ..)
    rw [List.foldl_cons, putSorted_eq_append hp, ih _ (by simpa using h), List.append_assoc,
      List.singleton_append]

/-- **An ascending list** is built again from its pairs. -/
theorem Ascending.foldl_putSorted_eq {m : Assoc κ α} (h : Ascending m) :
    m.foldl (fun m p => Assoc.putSorted m p.1 p.2) [] = m :=
  foldl_putSorted_eq_append [] m h

end Assoc
end IndicatorStrategy

/-!
# IndicatorStrategy.Assoc

**Association lists** with one pair for a key. Two ways of storing a value keep
two orders: `Assoc.put` leaves a known key in its place and appends a new one, so
keys stand in the order of their first insertion; `Assoc.putSorted` keeps the keys
ascending, so a list built by it alone is determined by its contents.
-/

namespace IndicatorStrategy

/-- Pairs of a key and its value. -/
abbrev Assoc (κ α : Type) := List (κ × α)

namespace Assoc

variable {κ α : Type} [DecidableEq κ]

/-- The value stored under a key. -/
def get? : Assoc κ α → κ → Option α
  | [], _ => none
  | (k, v) :: m, key => if k = key then some v else get? m key

/-- The keys in order. -/
def keys (m : Assoc κ α) : List κ := m.map Prod.fst

/-- Stores a value: in place under a known key, at the end under a new one. -/
def put : Assoc κ α → κ → α → Assoc κ α
  | [], key, value => [(key, value)]
  | (k, v) :: m, key, value =>
    if k = key then (k, value) :: m else (k, v) :: put m key value

/-- Stores a value in front of the first greater key. -/
def putSorted [LT κ] [DecidableLT κ] : Assoc κ α → κ → α → Assoc κ α
  | [], key, value => [(key, value)]
  | (k, v) :: m, key, value =>
    if k = key then (k, value) :: m
    else if key < k then (key, value) :: (k, v) :: m
    else (k, v) :: putSorted m key value

/-! ### Looking up after storing -/

@[simp] theorem get?_nil (key : κ) : get? ([] : Assoc κ α) key = none := rfl

@[simp] theorem get?_put_self (m : Assoc κ α) (key : κ) (value : α) :
    get? (put m key value) key = some value := by
  induction m with
  | nil => simp [put, get?]
  | cons p m ih =>
    obtain ⟨k, v⟩ := p
    by_cases h : k = key <;> simp [put, get?, h, ih]

theorem get?_put_of_ne (m : Assoc κ α) {key other : κ} (value : α) (h : key ≠ other) :
    get? (put m key value) other = get? m other := by
  induction m with
  | nil => simp [put, get?, h]
  | cons p m ih =>
    obtain ⟨k, v⟩ := p
    by_cases hk : k = key
    · subst hk; simp [put, get?, h]
    · by_cases ho : k = other
      · subst ho; simp [put, get?, hk]
      · simp [put, get?, hk, ho, ih]

@[simp] theorem get?_putSorted_self [LT κ] [DecidableLT κ] (m : Assoc κ α) (key : κ)
    (value : α) : get? (putSorted m key value) key = some value := by
  induction m with
  | nil => simp [putSorted, get?]
  | cons p m ih =>
    obtain ⟨k, v⟩ := p
    by_cases h : k = key
    · simp [putSorted, get?, h]
    · by_cases hl : key < k <;> simp [putSorted, get?, h, hl, ih]

theorem get?_putSorted_of_ne [LT κ] [DecidableLT κ] (m : Assoc κ α) {key other : κ}
    (value : α) (h : key ≠ other) : get? (putSorted m key value) other = get? m other := by
  induction m with
  | nil => simp [putSorted, get?, h]
  | cons p m ih =>
    obtain ⟨k, v⟩ := p
    by_cases hk : k = key
    · subst hk; simp [putSorted, get?, h]
    · by_cases hl : key < k
      · simp [putSorted, get?, hk, hl, h]
      · by_cases ho : k = other
        · subst ho; simp [putSorted, get?, hk, hl]
        · simp [putSorted, get?, hk, hl, ho, ih]

/-! ### Keys -/

/-- A known key keeps its place; a new one comes last. -/
theorem keys_put (m : Assoc κ α) (key : κ) (value : α) :
    keys (put m key value) = if key ∈ keys m then keys m else keys m ++ [key] := by
  induction m with
  | nil => simp [put, keys]
  | cons p m ih =>
    obtain ⟨k, v⟩ := p
    by_cases h : k = key
    · subst h; simp [put, keys]
    · have h' : key ≠ k := fun e => h e.symm
      simp only [put, if_neg h]
      simp only [keys, List.map_cons, List.mem_cons, h', false_or] at ih ⊢
      rw [ih]
      split <;> simp_all

theorem get?_eq_none_iff (m : Assoc κ α) (key : κ) : get? m key = none ↔ key ∉ keys m := by
  induction m with
  | nil => simp [keys]
  | cons p m ih =>
    obtain ⟨k, v⟩ := p
    by_cases h : k = key
    · simp [get?, keys, h]
    · have h' : key ≠ k := fun e => h e.symm
      simp only [get?, if_neg h, ih]
      simp [keys, h']

theorem mem_of_get? {m : Assoc κ α} {key : κ} {value : α} (h : get? m key = some value) :
    (key, value) ∈ m := by
  induction m with
  | nil => simp at h
  | cons p m ih =>
    obtain ⟨k, v⟩ := p
    by_cases hk : k = key
    · subst hk
      rw [get?, if_pos rfl, Option.some.injEq] at h
      exact h ▸ List.mem_cons_self ..
    · rw [get?, if_neg hk] at h
      exact List.mem_cons_of_mem _ (ih h)

/-- Where no key repeats, every pair is the one that its key finds. -/
theorem get?_of_mem {m : Assoc κ α} {key : κ} {value : α} (hn : (keys m).Nodup)
    (h : (key, value) ∈ m) : get? m key = some value := by
  induction m with
  | nil => simp at h
  | cons p m ih =>
    obtain ⟨k, v⟩ := p
    obtain ⟨hk, hn⟩ := List.nodup_cons.mp hn
    rcases List.mem_cons.mp h with h | h
    · cases h
      exact if_pos rfl
    · have hne : k ≠ key := by
        rintro rfl
        exact hk (List.mem_map.mpr ⟨(k, value), h, rfl⟩)
      rw [get?, if_neg hne]
      exact ih hn h

/-! ### Storing in a list without repeated keys -/

theorem nodup_keys_put {m : Assoc κ α} (h : (keys m).Nodup) (key : κ) (value : α) :
    (keys (put m key value)).Nodup := by
  rw [keys_put]
  split
  · exact h
  · rename_i hk
    exact List.nodup_append.mpr ⟨h, by simp, by rintro a ha b hb rfl; simp_all⟩

theorem mem_put {m : Assoc κ α} {key : κ} {value : α} {p : κ × α}
    (h : p ∈ put m key value) : p = (key, value) ∨ p ∈ m := by
  induction m with
  | nil => exact .inl (List.mem_singleton.mp h)
  | cons q m ih =>
    obtain ⟨k, v⟩ := q
    by_cases hk : k = key
    · rw [put, if_pos hk, hk] at h
      exact (List.mem_cons.mp h).imp_right (List.mem_cons_of_mem _)
    · rw [put, if_neg hk] at h
      rcases List.mem_cons.mp h with h | h
      · exact .inr (h ▸ List.mem_cons_self ..)
      · exact (ih h).imp_right (List.mem_cons_of_mem _)

theorem put_of_not_mem {m : Assoc κ α} {key : κ} (h : key ∉ keys m) (value : α) :
    put m key value = m ++ [(key, value)] := by
  induction m with
  | nil => rfl
  | cons p m ih =>
    obtain ⟨k, v⟩ := p
    simp only [keys, List.map_cons, List.mem_cons, not_or] at h
    rw [put, if_neg (Ne.symm h.1), ih h.2, List.cons_append]

theorem nodup_keys_foldl_put {m : Assoc κ α} (h : (keys m).Nodup) (ps : Assoc κ α) :
    (keys (ps.foldl (fun m p => put m p.1 p.2) m)).Nodup := by
  induction ps generalizing m with
  | nil => exact h
  | cons p ps ih => exact ih (nodup_keys_put h p.1 p.2)

theorem mem_foldl_put {m ps : Assoc κ α} {p : κ × α}
    (h : p ∈ ps.foldl (fun m p => put m p.1 p.2) m) : p ∈ m ∨ p ∈ ps := by
  induction ps generalizing m with
  | nil => exact .inl h
  | cons q ps ih =>
    rcases ih h with h | h
    · rcases mem_put h with rfl | h
      · exact .inr (List.mem_cons_self ..)
      · exact .inl h
    · exact .inr (List.mem_cons_of_mem _ h)

/-- Storing pairs whose keys are all new appends them. -/
theorem foldl_put_eq_append (m ps : Assoc κ α) (h : (keys (m ++ ps)).Nodup) :
    ps.foldl (fun m p => put m p.1 p.2) m = m ++ ps := by
  induction ps generalizing m with
  | nil => simp
  | cons p ps ih =>
    have hp : p.1 ∉ keys m := by
      intro hm
      rw [keys, List.map_append, List.nodup_append] at h
      exact h.2.2 _ hm _ (List.mem_cons_self ..) rfl
    rw [List.foldl_cons, put_of_not_mem hp, ih _ (by simpa using h), List.append_assoc,
      List.singleton_append]

/-- Storing pairs one after the other appends them just when their keys are all new. -/
theorem foldl_put_eq_append_iff {m ps : Assoc κ α}
    (hm : (keys m).Nodup) (hps : (keys ps).Nodup) :
    ps.foldl (fun m p => put m p.1 p.2) m = m ++ ps ↔ ∀ key ∈ keys ps, key ∉ keys m := by
  have hkeys : keys (m ++ ps) = keys m ++ keys ps := List.map_append
  constructor
  · intro h key hps' hm'
    have hn := nodup_keys_foldl_put hm ps
    rw [h, hkeys, List.nodup_append] at hn
    exact hn.2.2 key hm' key hps' rfl
  · intro h
    refine foldl_put_eq_append m ps ?_
    rw [hkeys, List.nodup_append]
    refine ⟨hm, hps, ?_⟩
    rintro key hm' _ hps' rfl
    exact h key hps' hm'

/-! ### Looking up after storing many, and among some -/

/-- Of pairs that were stored one after the other, the last one for a key counts. -/
theorem get?_foldl_put (m : Assoc κ α) {ps : Assoc κ α} (h : (keys ps).Nodup) (key : κ) :
    get? (ps.foldl (fun m p => put m p.1 p.2) m) key = (get? ps key).or (get? m key) := by
  induction ps generalizing m with
  | nil => simp
  | cons p ps ih =>
    obtain ⟨k, v⟩ := p
    obtain ⟨hk, hn⟩ := List.nodup_cons.mp h
    rw [List.foldl_cons, ih _ hn]
    by_cases he : k = key
    · subst he
      rw [(get?_eq_none_iff ps k).mpr hk, get?_put_self]
      simp [get?]
    · rw [get?_put_of_ne m v he, get?, if_neg he]

theorem get?_map_value {β : Type} (m : Assoc κ α) (f : α → β) (key : κ) :
    get? (m.map fun p => (p.1, f p.2)) key = (get? m key).map f := by
  induction m with
  | nil => rfl
  | cons p m ih =>
    obtain ⟨k, v⟩ := p
    by_cases h : k = key <;> simp [get?, h, ih]

/-- Leaving out pairs by their values leaves out what their keys find. -/
theorem get?_filter_value {m : Assoc κ α} (h : (keys m).Nodup) (f : α → Bool) (key : κ) :
    get? (m.filter fun p => f p.2) key = (get? m key).filter f := by
  induction m with
  | nil => rfl
  | cons p m ih =>
    obtain ⟨k, v⟩ := p
    obtain ⟨hk, hn⟩ := List.nodup_cons.mp h
    by_cases he : k = key
    · subst he
      have hnone : get? m k = none := (get?_eq_none_iff m k).mpr hk
      by_cases hv : f v <;> simp [get?, hv, ih hn, hnone, Option.filter_some]
    · by_cases hv : f v <;> simp [get?, hv, he, ih hn]

omit [DecidableEq κ] in
theorem nodup_keys_filter {m : Assoc κ α} (h : (keys m).Nodup) (f : κ × α → Bool) :
    (keys (m.filter f)).Nodup :=
  h.sublist (List.filter_sublist.map _)

theorem mem_putSorted [LT κ] [DecidableLT κ] {m : Assoc κ α} {key : κ} {value : α}
    {p : κ × α} (h : p ∈ putSorted m key value) : p = (key, value) ∨ p ∈ m := by
  induction m with
  | nil => exact .inl (List.mem_singleton.mp h)
  | cons q m ih =>
    obtain ⟨k, v⟩ := q
    rw [putSorted] at h
    split at h
    · rename_i hk
      rw [hk] at h
      exact (List.mem_cons.mp h).imp_right (List.mem_cons_of_mem _)
    · split at h
      · exact List.mem_cons.mp h
      · rcases List.mem_cons.mp h with h | h
        · exact .inr (h ▸ List.mem_cons_self ..)
        · exact (ih h).imp_right (List.mem_cons_of_mem _)

end Assoc
end IndicatorStrategy

import Mathlib
import IndicatorStrategy.Operand.Basic
import IndicatorStrategy.Proofs.Assoc
/-!
# IndicatorStrategy.Proofs.Operand.Insertion

**Parameters stand in the order in which they were first set.** The invariant is `Records`:
what a list of parameters has to do with all the pairs that were ever stored in it. Storing
one more value preserves it (`Records.put`), so it holds after any run of them
(`Records.foldl_put`), and from it follow the order of the keys, their number and the values
that they find.
-/

namespace IndicatorStrategy
namespace Assoc

variable {κ α : Type} [DecidableEq κ] {m ps : Assoc κ α}

/-- `m` is what is left of the pairs `ps`, stored one after the other: their keys in the order
in which they first occur, and under each key the value that was stored last. -/
structure Records (ps m : Assoc κ α) : Prop where
  mem_keys_iff (key : κ) : key ∈ keys m ↔ key ∈ keys ps
  ordered : (keys m).Pairwise fun k l => (keys ps).idxOf k < (keys ps).idxOf l
  find (key : κ) : get? m key = get? ps.reverse key

namespace Records

theorem nil : Records ([] : Assoc κ α) [] := ⟨fun _ => Iff.rfl, List.Pairwise.nil, fun _ => rfl⟩

/-! ### Storing one more value -/

/-- A pair behind the others changes nothing in the order of their keys. -/
theorem ordered_append (h : Records ps m) (key : κ) (value : α) :
    (keys m).Pairwise fun k l =>
      (keys (ps ++ [(key, value)])).idxOf k < (keys (ps ++ [(key, value)])).idxOf l := by
  refine h.ordered.imp_of_mem fun {k l} hk hl hlt => ?_
  rw [keys_append, List.idxOf_append_of_mem ((h.mem_keys_iff k).mp hk),
    List.idxOf_append_of_mem ((h.mem_keys_iff l).mp hl)]
  exact hlt

/-- **Storing a value** under a key that is there changes no key; a new key is the last. -/
theorem put (h : Records ps m) (key : κ) (value : α) :
    Records (ps ++ [(key, value)]) (Assoc.put m key value) := by
  constructor
  case mem_keys_iff =>
    intro k
    rw [mem_keys_put, h.mem_keys_iff, keys_append, List.mem_append]
    exact or_congr_right List.mem_singleton.symm
  case ordered =>
    -- a key that is there keeps its place, and a new one is put behind all others
    rw [keys_put]
    split
    · exact h.ordered_append key value
    · rename_i hkey
      refine List.pairwise_append.mpr ⟨h.ordered_append key value, List.pairwise_singleton .., ?_⟩
      intro k hk l hl
      obtain rfl := List.mem_singleton.mp hl
      have hps : k ∈ keys ps := (h.mem_keys_iff k).mp hk
      have hnew : l ∉ keys ps := fun hmem => hkey ((h.mem_keys_iff l).mpr hmem)
      rw [keys_append, List.idxOf_append_of_mem hps, List.idxOf_append_of_notMem hnew]
      exact Nat.lt_of_lt_of_le (List.idxOf_lt_length_of_mem hps) (Nat.le_add_right ..)
  case find =>
    intro k
    rw [List.reverse_append, List.reverse_singleton, List.singleton_append, get?]
    by_cases hk : key = k
    · rw [if_pos hk, ← hk, get?_put_self]
    · rw [if_neg hk, get?_put_of_ne m value hk, h.find]

/-- **Any number of values**, stored one after the other. -/
theorem foldl_put (h : Records ps m) (qs : Assoc κ α) :
    Records (ps ++ qs) (qs.foldl (fun m p => Assoc.put m p.1 p.2) m) := by
  induction qs generalizing ps m with
  | nil => rwa [List.append_nil]
  | cons q qs ih =>
    rw [← List.singleton_append, ← List.append_assoc]
    exact ih (h.put q.1 q.2)

/-! ### What is recorded -/

theorem nodup_keys (h : Records ps m) : (keys m).Nodup :=
  h.ordered.imp fun hlt => by
    rintro rfl
    exact Nat.lt_irrefl _ hlt

/-- There are as many pairs as keys that were stored, each counted once. -/
theorem length_eq (h : Records ps m) : m.length = (keys ps).toFinset.card := by
  have hkeys : (keys m).toFinset = (keys ps).toFinset :=
    List.toFinset.ext fun key => h.mem_keys_iff key
  rw [← hkeys, List.toFinset_card_of_nodup h.nodup_keys, keys, List.length_map]

/-- A key finds the value that was the last one stored under it. -/
theorem get?_eq_some_iff (h : Records ps m) (key : κ) (value : α) :
    get? m key = some value ↔
      ∃ before after, ps = before ++ (key, value) :: after ∧ key ∉ keys after := by
  rw [h.find, get?_eq_some_iff_append]
  constructor
  · rintro ⟨after, before, hps, hafter⟩
    refine ⟨before.reverse, after.reverse, ?_, ?_⟩
    · simpa using congrArg List.reverse hps
    · simpa [keys] using hafter
  · rintro ⟨before, after, rfl, hafter⟩
    refine ⟨after.reverse, before.reverse, by simp, ?_⟩
    simpa [keys] using hafter

theorem get?_eq_none_iff (h : Records ps m) (key : κ) : get? m key = none ↔ key ∉ keys ps := by
  rw [Assoc.get?_eq_none_iff, h.mem_keys_iff]

end Records
end Assoc

namespace Parameters

open Assoc

/-- **Insertion order.** After any values were set, one after the other and beginning with
none, each key that was set stands once, in front of all keys that were first set after it,
and finds the value that was set last. Setting it again changes its own value and nothing else
of the list. -/
theorem insertionOrder (ps : List (String × Operand)) :
    let m : Parameters := ps.foldl (fun m p => put m p.1 p.2) []
    (keys m).Nodup ∧
    (∀ key, key ∈ keys m ↔ key ∈ keys ps) ∧
    (keys m).Pairwise (fun k l => (keys ps).idxOf k < (keys ps).idxOf l) ∧
    m.length = (keys ps).toFinset.card ∧
    (∀ key value, get? m key = some value ↔
      ∃ before after, ps = before ++ (key, value) :: after ∧ key ∉ keys after) ∧
    (∀ key, get? m key = none ↔ key ∉ keys ps) ∧
    ∀ key ∈ keys ps, ∀ value, ∃ front old back,
      m = front ++ (key, old) :: back ∧ put m key value = front ++ (key, value) :: back := by
  intro m
  have hrecords : Records ps m := Records.nil.foldl_put ps
  refine ⟨hrecords.nodup_keys, hrecords.mem_keys_iff, hrecords.ordered, hrecords.length_eq,
    hrecords.get?_eq_some_iff, hrecords.get?_eq_none_iff, ?_⟩
  intro key hkey value
  obtain ⟨front, old, back, hm, -, hput⟩ | ⟨hnew, -⟩ := put_cases m key value
  · exact ⟨front, old, back, hm, hput⟩
  · exact absurd ((hrecords.mem_keys_iff key).mpr hkey) hnew

/-- A second value for the first of two parameters takes the place of its first value. -/
theorem insertionOrder_overwriting :
    let ps := [("slowperiod", .text "26"), ("fastperiod", .initial .integer),
      ("slowperiod", .text "30")]
    let m : Parameters := ps.foldl (fun m p => put m p.1 p.2) []
    keys m = ["slowperiod", "fastperiod"] ∧ get? m "slowperiod" = some (.text "30") ∧
      ∃ front old back, m = front ++ ("slowperiod", old) :: back ∧
        put m "slowperiod" (.text "9") = front ++ ("slowperiod", .text "9") :: back := by
  intro ps m
  obtain ⟨-, -, -, -, hlast, -, hput⟩ := insertionOrder ps
  refine ⟨by decide, (hlast _ _).mpr ⟨ps.take 2, [], rfl, List.not_mem_nil⟩, ?_⟩
  exact hput "slowperiod" (by decide) (.text "9")

end Parameters
end IndicatorStrategy

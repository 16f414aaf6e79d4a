import Mathlib
import IndicatorStrategy.Proofs.Artifact.Roundtrip
import IndicatorStrategy.Proofs.Draft.Invariant
/-!
# IndicatorStrategy.Proofs.Artifact.Layout

**The members of a compiled condition.** An object should hold the values of the
condition in the order in which they were set, without the empty ones, and then its
comparison (`Entry.layout`). Values and comparison share one object, and a value may be
set under any key, so this is not always what is compiled: a member of the comparison
takes the place of a value with the same key, and where there is no such member the
value passes for one.

`Draft.hasLayout_edited_iff` says exactly when a condition of an edited draft has the
layout: when no value that is not empty has a key of the comparison.
-/

namespace IndicatorStrategy

namespace Entry

/-- The values of a condition that are not empty, in the order in which they were set. -/
def presentValues (e : Entry) : Assoc String Json :=
  (e.parameters.filter fun p => !p.2.isEmpty).map fun p => (p.1, p.2.toJson)

/-- The members that a condition should have: its values, then its trend, then a
reference that is not the close price, then the constant it is compared with. -/
def layout (e : Entry) : Assoc String Json :=
  e.presentValues ++ [("trend", .string e.trend.wire)]
    ++ (if e.reference = .close then [] else [("compareTo", .string e.reference.wire)])
    ++ (e.comparedConstant?.map fun x => ("compareValue", x.toJson)).toList

/-- The keys that the members of a comparison can have. -/
def comparisonKeys : List String := ["trend", "compareTo", "compareValue"]

/-- The members of an object are those that the condition should have. In particular a
member for the reference is there only if this is not the close price, and one for the
constant only if there is one to compare with. -/
structure HasLayout (e : Entry) (values : Assoc String Json) : Prop where
  members : values = e.layout
  compareTo : "compareTo" ∈ Assoc.keys values ↔ e.reference ≠ .close
  compareValue : "compareValue" ∈ Assoc.keys values ↔ e.comparedConstant? ≠ none

/-! ### Values and comparison -/

theorem layout_eq (e : Entry) : e.layout = e.presentValues ++ e.comparison := by
  rw [layout, comparison, comparedConstant?]
  cases e.reference <;> simp

theorem keys_presentValues (e : Entry) : Assoc.keys e.presentValues
    = Assoc.keys (e.parameters.filter fun p => !p.2.isEmpty) := by
  simp [presentValues, Assoc.keys, Function.comp_def]

theorem keys_comparison (e : Entry) : Assoc.keys e.comparison
    = "trend" :: (if e.reference = .close then [] else ["compareTo"])
      ++ (if e.comparedConstant? = none then [] else ["compareValue"]) := by
  rw [comparison, comparedConstant?]
  cases e.reference with
  | close => rfl
  | constant => cases e.constant? <;> rfl

theorem nodup_keys_comparison (e : Entry) : (Assoc.keys e.comparison).Nodup := by
  rw [keys_comparison]
  split <;> split <;> decide

theorem compareTo_mem_keys_comparison (e : Entry) :
    "compareTo" ∈ Assoc.keys e.comparison ↔ e.reference ≠ .close := by
  rw [keys_comparison]
  split <;> split <;> simp_all

theorem compareValue_mem_keys_comparison (e : Entry) :
    "compareValue" ∈ Assoc.keys e.comparison ↔ e.comparedConstant? ≠ none := by
  rw [keys_comparison]
  split <;> split <;> simp_all

theorem comparisonKeys_of_mem {e : Entry} {key : String} (h : key ∈ Assoc.keys e.comparison) :
    key ∈ comparisonKeys := by
  rw [keys_comparison] at h
  revert h
  split <;> split <;> simp [comparisonKeys] <;> tauto

section
variable {e : Entry} (h : (Assoc.keys e.parameters).Nodup)
include h

theorem nodup_keys_presentValues : (Assoc.keys e.presentValues).Nodup :=
  keys_presentValues e ▸ Assoc.nodup_keys_filter h _

theorem givenValues_eq_presentValues : e.givenValues = e.presentValues := by
  rw [givenValues_eq]
  exact Assoc.foldl_put_eq_append [] _ (nodup_keys_presentValues h)

theorem parameterSet_eq_layout_iff : e.parameterSet.values = e.layout
    ↔ ∀ key ∈ Assoc.keys e.comparison, key ∉ Assoc.keys e.presentValues := by
  rw [parameterSet, givenValues_eq_presentValues h, layout_eq]
  exact Assoc.foldl_put_eq_append_iff (nodup_keys_presentValues h) e.nodup_keys_comparison

/-- An entry is compiled to the members it should have just when no value that is not
empty has a key of the comparison, be that member there or not. -/
theorem hasLayout_iff_keys : e.HasLayout e.parameterSet.values
    ↔ ∀ key ∈ Assoc.keys e.presentValues, key ∉ comparisonKeys := by
  have hkeys : Assoc.keys e.layout = Assoc.keys e.presentValues ++ Assoc.keys e.comparison := by
    rw [layout_eq]
    exact List.map_append
  constructor
  · rintro ⟨hmembers, hto, hvalue⟩ key hkey hreserved
    have hnew := (parameterSet_eq_layout_iff h).mp hmembers
    rw [hmembers, hkeys] at hto hvalue
    have hmem : key ∈ Assoc.keys e.presentValues ++ Assoc.keys e.comparison :=
      List.mem_append_left _ hkey
    -- a value under a key of the comparison claims a member that the comparison has
    refine hnew key ?_ hkey
    simp only [comparisonKeys, List.mem_cons, List.not_mem_nil, or_false] at hreserved
    rcases hreserved with rfl | rfl | rfl
    · exact List.mem_cons_self ..
    · exact (compareTo_mem_keys_comparison e).mpr (hto.mp hmem)
    · exact (compareValue_mem_keys_comparison e).mpr (hvalue.mp hmem)
  · intro hfree
    have hmembers := (parameterSet_eq_layout_iff h).mpr fun key hc hv =>
      hfree key hv (comparisonKeys_of_mem hc)
    have hmem (key : String) (hkey : key ∈ comparisonKeys) :
        key ∈ Assoc.keys e.parameterSet.values ↔ key ∈ Assoc.keys e.comparison := by
      rw [hmembers, hkeys, List.mem_append]
      exact or_iff_right fun hv => hfree key hv hkey
    exact ⟨hmembers,
      (hmem _ (by decide)).trans (compareTo_mem_keys_comparison e),
      (hmem _ (by decide)).trans (compareValue_mem_keys_comparison e)⟩

end

end Entry

/-! ### Edited drafts -/

namespace Draft

theorem nodup_keys_of_mem_active {es : List Edit} {e : Entry}
    (h : e ∈ (blank.applyAll es).active) : (Assoc.keys e.parameters).Nodup := by
  obtain ⟨g, hg, he⟩ := List.mem_flatMap.mp h
  exact (((wellFormed_edited es).groups g hg).entries e (List.mem_filter.mp he).1).parameters.nodup

/-- **The layout of a compiled condition.** After any edits the parameter array has one
object for each condition, in order, and an object has the members it should have if
and only if no value of the condition that is not empty was set under a key that the
comparison uses. -/
theorem hasLayout_edited_iff (es : List Edit) :
    List.Forall₂
      (fun e p => e.HasLayout p.values ↔
        ∀ q ∈ e.parameters, q.2.isEmpty = false → q.1 ∉ Entry.comparisonKeys)
      (blank.applyAll es).active (blank.applyAll es).compile.parameters := by
  rw [compile, parameterSets, List.forall₂_map_right_iff, List.forall₂_same]
  intro e he
  rw [Entry.hasLayout_iff_keys (nodup_keys_of_mem_active he), Entry.keys_presentValues]
  simp only [Assoc.keys, List.mem_map, List.mem_filter, Bool.not_eq_true']
  constructor
  · intro h q hq hne
    exact h q.1 ⟨q, ⟨hq, hne⟩, rfl⟩
  · rintro h _ ⟨q, ⟨hq, hne⟩, rfl⟩
    exact h q hq hne

/-- Edits that set a value under the key of the reference, which stays the close price. -/
def referenceEdits : List Edit :=
  [.change 0 0 (.kind "Sma"), .change 0 0 (.parameter "compareTo" "x")]

/-- Edits that set a value under the key of the trend, and another one. -/
def trendEdits : List Edit :=
  [.change 0 0 (.kind "Sma"), .change 0 0 (.parameter "trend" "up"),
    .change 0 0 (.parameter "note" "x")]

/-- The close price is passed for a reference, and a trend comes before a value. -/
theorem not_hasLayout_edited :
    (blank.applyAll referenceEdits).active.map
        (fun e => (e.reference, Assoc.keys e.parameterSet.values))
      = [(.close, ["timeperiod", "compareTo", "trend"])] ∧
    (blank.applyAll trendEdits).active.map (fun e => Assoc.keys e.parameterSet.values)
      = [["timeperiod", "trend", "note"]] ∧
    ¬ (∀ es, List.Forall₂ (fun e p => e.HasLayout p.values)
        (blank.applyAll es).active (blank.applyAll es).compile.parameters) := by
  refine ⟨by decide, by decide, fun h => ?_⟩
  have hactive : (blank.applyAll referenceEdits).active ≠ [] := by decide
  have hreference : ∀ e ∈ (blank.applyAll referenceEdits).active, e.reference = .close ∧
      "compareTo" ∈ Assoc.keys e.parameterSet.values := by decide
  obtain ⟨e, es, hes⟩ := List.exists_cons_of_ne_nil hactive
  have hlayout := h referenceEdits
  rw [compile, parameterSets, hes] at hlayout
  obtain ⟨he, -⟩ := List.forall₂_cons.mp hlayout
  obtain ⟨hclose, hmem⟩ := hreference e (hes ▸ List.mem_cons_self ..)
  exact he.compareTo.mp hmem hclose

end Draft
end IndicatorStrategy

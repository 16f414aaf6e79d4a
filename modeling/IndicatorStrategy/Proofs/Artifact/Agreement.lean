import Mathlib
import IndicatorStrategy.Proofs.Artifact.Layout
import IndicatorStrategy.Proofs.Binary64.Rounding
import IndicatorStrategy.Proofs.Expression.Compiled
import IndicatorStrategy.Proofs.Operand.Number
/-!
# IndicatorStrategy.Proofs.Artifact.Agreement

**The two artifacts agree.** The parameter array is written in the order in which values
were set, the expression in the order of the catalog, and each has its own form of
numbers. Still the expression can be computed from the parameter array: the term of a
condition from its object alone (`ParameterSet.term`), and the expression from the terms
and the number of conditions in each group.

Two things could keep them apart. What is no finite number is `null` in the array, and a
text under the key of the constant would pass for one.
-/

namespace IndicatorStrategy

/-! ### Terms from parameter sets -/

/-- The double nearest to an integer. -/
def Binary64.ofInt (n : Int) : Binary64 := ofRatio (n < 0) n.natAbs 1

/-- What a JSON value adds to a term: a text itself, and a number its text. -/
def Json.operandText : Json → String
  | string s => s
  | int n => (Binary64.ofInt n).expressionText
  | double negative rank => (Binary64.finite negative rank).expressionText
  | _ => ""

/-- The fields of the indicator with a wire key. -/
def Catalog.fieldsOf (key : String) : List Field :=
  ((indicators.find? fun i => wireKey i.kind == key).map (·.fields)).getD []

namespace ParameterSet

/-- What the member under a key adds to a term. -/
def textAt (p : ParameterSet) (key : String) : String :=
  (Assoc.get? p.values key).elim "" Json.operandText

/-- The term of a condition, from its parameter set: the fields in the order of the
catalog, then the constant and the trend. -/
def term (p : ParameterSet) : String :=
  p.key ++ joinWith "" ((Catalog.fieldsOf p.key).map fun f => p.textAt f.key)
    ++ p.textAt "compareValue" ++ p.textAt "trend"

end ParameterSet

/-! ### Numbers -/

namespace Binary64

/-- A magnitude is nearest to itself. -/
theorem nearestRank_unitsOf (rank : Nat) : nearestRank (unitsOf rank) 1 = rank := by
  refine RoundsTo.nearestRank_eq Nat.one_pos ?_
  rw [Nat.cast_one, div_one]
  exact .self rank

/-- Zero is written without its sign. -/
theorem expressionText_withPlainZero (x : Binary64) :
    x.withPlainZero.expressionText = x.expressionText := by
  cases x with
  | nan => rfl
  | infinite negative => rfl
  | finite negative rank =>
    rcases Nat.eq_zero_or_pos (rank : Nat) with hzero | hpos
    · rw [withPlainZero_of_zero negative hzero, expressionText_of_zero hzero]
      rfl
    · rw [withPlainZero_of_pos negative hpos]

-- unification must not count the units
attribute [local irreducible] Binary64.one Binary64.unitsOf

/-- The integer that a double equals is written as that double. -/
theorem expressionText_ofInt {x : Binary64} {n : Int} (h : x.toInt? = some n) :
    (ofInt n).expressionText = x.expressionText := by
  cases x with
  | nan => cases h
  | infinite => cases h
  | finite negative rank =>
    have hunits := natAbs_of_toInt? h
    have hsame : ofInt n = (finite negative rank).withPlainZero := by
      rw [ofInt, ofRatio, ← hunits, nearestRank_unitsOf, ofRank_val, withPlainZero_of_toInt? h]
    rw [hsame, expressionText_withPlainZero]

/-- A finite number has the same text in both artifacts. -/
theorem operandText_toJson {x : Binary64} (h : x.isFinite = true) :
    x.toJson.operandText = x.expressionText := by
  have hdouble : x.toJsonDouble.operandText = x.expressionText := by
    cases x with
    | nan => cases h
    | infinite => cases h
    | finite negative rank => rfl
  rw [toJson]
  split
  · rename_i n hn
    split
    · rw [Json.operandText, expressionText_ofInt hn]
    · exact hdouble
  · exact hdouble

end Binary64

/-! ### Conditions -/

/-- Whether a value is not a number beyond the finite ones. -/
def Operand.isFinite : Operand → Bool
  | number x => x.isFinite
  | text _ => true

namespace Catalog

theorem fieldsOf_wireKey {kind : String} (h : isKnown kind = true) :
    fieldsOf (wireKey kind) = fields kind := by
  have hall : ∀ i ∈ indicators, fieldsOf (wireKey i.kind) = i.fields := by decide
  obtain ⟨i, hi, rfl, hfields⟩ := exists_of_isKnown h
  exact hfields ▸ hall i hi

theorem not_mem_fieldKeys (kind : String) :
    ∀ key ∈ Entry.comparisonKeys, key ∉ fieldKeys kind := by
  have hall : ∀ i ∈ indicators, ∀ key ∈ Entry.comparisonKeys, key ∉ i.fields.map (·.key) := by
    decide
  rcases fields_cases kind with h | ⟨i, hi, -, h⟩
  · simp [fieldKeys, h]
  · rw [fieldKeys, h]
    exact hall i hi

end Catalog

namespace Entry

/-- All numbers of an entry are finite. -/
structure IsFinite (e : Entry) : Prop where
  parameters : ∀ p ∈ e.parameters, p.2.isFinite = true
  constant : ∀ x ∈ e.constant?, x.isFinite = true

instance : DecidablePred IsFinite := fun e =>
  decidable_of_iff ((∀ p ∈ e.parameters, p.2.isFinite = true) ∧
      ∀ x ∈ e.constant?, x.isFinite = true)
    ⟨fun h => ⟨h.1, h.2⟩, fun h => ⟨h.1, h.2⟩⟩

theorem isFinite_comparedConstant {e : Entry} (h : e.IsFinite) {x : Binary64}
    (hx : e.comparedConstant? = some x) : x.isFinite = true := by
  refine h.constant x ?_
  unfold comparedConstant? at hx
  cases hr : e.reference <;> simp_all

theorem get?_comparison_trend (e : Entry) :
    Assoc.get? e.comparison "trend" = some (.string e.trend.wire) := rfl

theorem get?_comparison_compareValue (e : Entry) :
    Assoc.get? e.comparison "compareValue" = e.comparedConstant?.map Binary64.toJson := by
  rw [comparison, comparedConstant?]
  cases e.reference with
  | close => rfl
  | constant => cases e.constant? <;> rfl

section
variable {e : Entry} (hn : (Assoc.keys e.parameters).Nodup)
include hn

/-- Under a key stands the member of the comparison, or else the value if it is not
empty. -/
theorem get?_parameterSet (key : String) : Assoc.get? e.parameterSet.values key
    = (Assoc.get? e.comparison key).or
        (((Assoc.get? e.parameters key).filter (!·.isEmpty)).map Operand.toJson) := by
  rw [parameterSet, givenValues_eq_presentValues hn,
    Assoc.get?_foldl_put _ e.nodup_keys_comparison, presentValues, Assoc.get?_map_value,
    Assoc.get?_filter_value hn (!·.isEmpty)]

theorem textAt_trend : e.parameterSet.textAt "trend" = e.trend.wire := by
  rw [ParameterSet.textAt, get?_parameterSet hn, get?_comparison_trend]
  rfl

theorem textAt_compareValue (hfinite : e.IsFinite)
    (hfree : "compareValue" ∉ Assoc.keys e.parameters) :
    e.parameterSet.textAt "compareValue" = e.constantText := by
  rw [ParameterSet.textAt, get?_parameterSet hn, get?_comparison_compareValue,
    (Assoc.get?_eq_none_iff _ _).mpr hfree, constantText]
  cases hx : e.comparedConstant? with
  | none => rfl
  | some x => exact Binary64.operandText_toJson (isFinite_comparedConstant hfinite hx)

/-- A field adds the same to the term as to the operands. -/
theorem toList_textAt_field (hfinite : e.IsFinite) {f : Field}
    (hf : f ∈ Catalog.fields e.kind) :
    (e.parameterSet.textAt f.key).toList = e.fieldChars f := by
  -- the keys of the comparison take precedence, but no field has one of them
  have hnone : Assoc.get? e.comparison f.key = none := by
    rw [Assoc.get?_eq_none_iff]
    intro hkey
    exact Catalog.not_mem_fieldKeys e.kind _ (comparisonKeys_of_mem hkey)
      (List.mem_map_of_mem hf)
  rw [ParameterSet.textAt, get?_parameterSet hn, hnone, Option.none_or, fieldChars]
  cases hv : Assoc.get? e.parameters f.key with
  | none => rfl
  | some v =>
    cases v with
    | number x =>
      have hx := hfinite.parameters _ (Assoc.mem_of_get? hv)
      exact congrArg String.toList (Binary64.operandText_toJson hx)
    | text s =>
      by_cases hs : s = ""
      · subst hs
        rfl
      · rw [Option.filter_some, if_pos (by simpa [Operand.isEmpty] using hs)]
        rfl

/-- **The term of a condition** is the one of its parameter set. -/
theorem term?_eq_term (ha : e.isActive = true) (hfinite : e.IsFinite)
    (hfree : "compareValue" ∉ Assoc.keys e.parameters) :
    e.term? = some e.parameterSet.term := by
  have hoperands : joinWith "" e.operandTexts
      = joinWith "" ((Catalog.fields e.kind).map fun f => e.parameterSet.textAt f.key) := by
    rw [← String.toList_inj, toList_operandTexts, toList_joinWith_empty, List.flatMap_map]
    exact List.flatMap_congr fun f hf => (toList_textAt_field hn hfinite hf).symm
  have hkey : e.parameterSet.key = wireKey e.kind := rfl
  rw [term?, if_pos ha, ParameterSet.term, hkey, Catalog.fieldsOf_wireKey ha, ← hoperands,
    textAt_compareValue hn hfinite hfree, textAt_trend hn]

end

/-- A change that sets no value under a key puts none there. -/
theorem not_mem_keys_apply {e : Entry} {c : Change} {key : String}
    (hkey : key ∈ comparisonKeys) (hc : ∀ raw, c ≠ .parameter key raw)
    (h : key ∉ Assoc.keys e.parameters) : key ∉ Assoc.keys (e.apply c).parameters := by
  cases c with
  | kind kind =>
    rw [Entry.apply, Parameters.keys_initial]
    exact Catalog.not_mem_fieldKeys kind key hkey
  | parameter other raw =>
    have hne : key ≠ other := by
      rintro rfl
      exact hc raw rfl
    rw [Entry.apply, Assoc.keys_put]
    split
    · exact h
    · simpa [hne] using h
  | trend => exact h
  | reference => exact h
  | constant =>
    rw [Entry.apply]
    split <;> exact h

end Entry

/-! ### Drafts -/

namespace Draft

theorem isActive_of_mem_active {d : Draft} {e : Entry} (h : e ∈ d.active) :
    e.isActive = true := by
  obtain ⟨g, -, he⟩ := List.mem_flatMap.mp h
  exact (List.mem_filter.mp he).2

/-- The terms of the groups, one after the other, are those of the conditions. -/
theorem flatten_terms (d : Draft) :
    (d.groups.map fun g => g.entries.filterMap Entry.term?).flatten
      = d.active.filterMap Entry.term? := by
  rw [active, List.filterMap_flatMap, List.flatten_eq_flatMap, List.flatMap_map]
  refine List.flatMap_congr fun g _ => ?_
  rw [Group.active, List.filterMap_filter]
  refine List.filterMap_congr fun e _ => ?_
  rw [Entry.term?]
  cases e.isActive <;> rfl

theorem length_terms (g : Group) :
    (g.entries.filterMap Entry.term?).length = g.active.length := by
  rw [Group.active, List.length_filterMap_eq_countP, List.countP_eq_length_filter]
  congr 2
  funext e
  rw [Entry.term?]
  cases e.isActive <;> rfl

end Draft

/-- Lists are found again in the list of all their elements, by their lengths. -/
theorem splitLengths_map_length_flatten {α : Type} (xss : List (List α)) :
    (xss.map List.length).splitLengths xss.flatten = xss := by
  induction xss with
  | nil => rfl
  | cons xs xss ih => simp [List.splitLengths_cons, ih]

namespace Draft

/-- The expression of a draft from the terms of its conditions. -/
theorem expression_eq_regrouped (d : Draft) : d.expression
    = joinWith Expression.separator
        (((d.groups.map (·.active.length)).splitLengths (d.active.filterMap Entry.term?)).map
          Clause.ofPieces) := by
  have hlengths : d.groups.map (·.active.length)
      = (d.groups.map fun g => g.entries.filterMap Entry.term?).map List.length := by
    simp [Function.comp_def, length_terms]
  rw [hlengths, ← flatten_terms, splitLengths_map_length_flatten, List.map_map]
  rfl

/-- **The two artifacts agree.** If no edit sets a value under the key of the constant
and all numbers of conditions are finite, then the parameter array has one object for
each condition, in order, with the wire key of its indicator, and the term of the
condition is the one of the object. The expression is made of these terms, as many for
each clause as its group has conditions. -/
theorem artifacts_agree_edited (es : List Edit)
    (hfree : ∀ i j raw, .change i j (.parameter "compareValue" raw) ∉ es)
    (hfinite : ∀ e ∈ (blank.applyAll es).active, e.IsFinite) :
    List.Forall₂ (fun e p => p.key = wireKey e.kind ∧ e.term? = some p.term)
        (blank.applyAll es).active (blank.applyAll es).compile.parameters ∧
      (blank.applyAll es).compile.expression
        = joinWith Expression.separator
            ((((blank.applyAll es).groups.map (·.active.length)).splitLengths
                ((blank.applyAll es).compile.parameters.map ParameterSet.term)).map
              Clause.ofPieces) := by
  have hkeys : ∀ e ∈ (blank.applyAll es).active, "compareValue" ∉ Assoc.keys e.parameters := by
    refine forall_active_edited (fun _ => by simp [Entry.blank, Assoc.keys]) ?_
    intro i j c hc e he
    refine Entry.not_mem_keys_apply (by decide) ?_ he
    rintro raw rfl
    exact hfree i j raw hc
  have hterm : ∀ e ∈ (blank.applyAll es).active, e.term? = some e.parameterSet.term :=
    fun e he => Entry.term?_eq_term (nodup_keys_of_mem_active he) (isActive_of_mem_active he)
      (hfinite e he) (hkeys e he)
  constructor
  · rw [compile, parameterSets, List.forall₂_map_right_iff, List.forall₂_same]
    exact fun e he => ⟨rfl, hterm e he⟩
  · have hterms : (blank.applyAll es).active.filterMap Entry.term?
        = (blank.applyAll es).parameterSets.map ParameterSet.term := by
      rw [parameterSets, List.map_map, ← List.filterMap_eq_map]
      exact List.filterMap_congr hterm
    rw [compile, expression_eq_regrouped, hterms]

/-- Edits that lead to a group of two conditions, one of them with a constant, a group
without any and a group of one, with a free text. -/
def mixedEdits : List Edit :=
  [.change 0 0 (.kind "Macd"), .change 0 0 (.parameter "fastperiod" "-12.5"),
    .change 0 0 (.reference .constant), .change 0 0 (.constant (.ofInt (-2))),
    .addEntry 0, .change 0 1 (.kind "Sma"), .change 0 1 (.parameter "compareTo" "open"),
    .addGroup, .addGroup, .change 2 0 (.kind "HeikenAshi"),
    .change 2 0 (.parameter "candle_state" "green")]

theorem artifacts_agree_mixedEdits :
    ((∀ i j raw, .change i j (.parameter "compareValue" raw) ∉ mixedEdits) ∧
      ∀ e ∈ (blank.applyAll mixedEdits).active, e.IsFinite) ∧
    List.Forall₂ (fun e p => p.key = wireKey e.kind ∧ e.term? = some p.term)
        (blank.applyAll mixedEdits).active (blank.applyAll mixedEdits).compile.parameters ∧
      (blank.applyAll mixedEdits).compile.expression
        = joinWith Expression.separator
            ((((blank.applyAll mixedEdits).groups.map (·.active.length)).splitLengths
                ((blank.applyAll mixedEdits).compile.parameters.map ParameterSet.term)).map
              Clause.ofPieces) := by
  have hfree : ∀ i j raw, .change i j (.parameter "compareValue" raw) ∉ mixedEdits := by
    simp [mixedEdits]
  have hfinite : ∀ e ∈ (blank.applyAll mixedEdits).active, e.IsFinite := by decide +kernel
  exact ⟨⟨hfree, hfinite⟩, artifacts_agree_edited mixedEdits hfree hfinite⟩

end Draft
end IndicatorStrategy

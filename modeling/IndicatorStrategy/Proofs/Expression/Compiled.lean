import Mathlib
import IndicatorStrategy.Artifact.Compile
import IndicatorStrategy.Proofs.Binary64.Text
import IndicatorStrategy.Proofs.Draft.Invariant
import IndicatorStrategy.Proofs.Expression.Grammar
/-!
# IndicatorStrategy.Proofs.Expression.Compiled

**Compiled expressions are read back.** The expression of an edited draft is the text
of a canonical expression, `Draft.asExpression`, with a clause for each group and a
term for each condition, as long as no free text holds a character that ends a term.

* The key is found again because a field of numbers follows it, and no number text
  continues one wire key to another.
* The trend is found again because no number text ends in the mark that tells a
  crossing from a plain trend. Free text can: where it stands in front of a plain
  trend, the mark goes over to the trend (`Entry.LendsMark`).
-/

namespace IndicatorStrategy

open Binary64 (isNumberChar IsNumberText)
open Expression (isTermChar isTermChar_iff)

/-! ### Trends behind operands -/

namespace Trend

/-- What a crossing has in front of the plain trend. -/
def crossingMark : String := "crossed_"

/-- The crossing that a plain trend becomes behind the mark. -/
def crossing? : Trend → Option Trend
  | above => some crossedAbove
  | below => some crossedBelow
  | crossedAbove | crossedBelow => none

theorem wire_crossing {t u : Trend} (h : t.crossing? = some u) :
    u.wire = crossingMark ++ t.wire := by
  cases t <;> cases h <;> decide

end Trend

theorem not_suffix_append {w v : List Char} (hwv : ¬ w <:+ v) (hvw : ¬ v <:+ w)
    (cs : List Char) : ¬ w <:+ cs ++ v := fun h =>
  (List.suffix_or_suffix_of_suffix h (List.suffix_append cs v)).elim hwv hvw

theorem append_suffix_append_iff {cs ds w : List Char} : cs ++ w <:+ ds ++ w ↔ cs <:+ ds := by
  constructor
  · rintro ⟨front, h⟩
    exact ⟨front, by rw [← List.append_assoc] at h; exact List.append_cancel_right h⟩
  · rintro ⟨front, rfl⟩
    exact ⟨front, by simp⟩

/-- A trend is found behind operands that lend it no mark. -/
theorem isTrendOf_append {operands : List Char} {trend : Trend}
    (h : trend.crossing? ≠ none → ¬ Trend.crossingMark.toList <:+ operands) :
    IsTrendOf trend (operands ++ trend.wire.toList) := by
  refine ⟨List.suffix_append _ _, ?_⟩
  have hmark (ht : trend.crossing? ≠ none) :
      ¬ Trend.crossingMark.toList ++ trend.wire.toList <:+ operands ++ trend.wire.toList :=
    fun hs => h ht (append_suffix_append_iff.mp hs)
  -- of the trends that are tried before, one ends only behind the mark and the others differ
  cases trend with
  | crossedAbove => exact ⟨[], _, rfl, by simp⟩
  | crossedBelow =>
    refine ⟨[.crossedAbove], _, rfl, ?_⟩
    simp only [List.mem_singleton, forall_eq]
    exact not_suffix_append (by decide) (by decide) _
  | above =>
    refine ⟨[.crossedAbove, .crossedBelow], _, rfl, ?_⟩
    simp only [List.mem_cons, List.not_mem_nil, or_false, forall_eq_or_imp, forall_eq]
    exact ⟨hmark (by decide), not_suffix_append (by decide) (by decide) _⟩
  | below =>
    refine ⟨[.crossedAbove, .crossedBelow, .above], _, rfl, ?_⟩
    simp only [List.mem_cons, List.not_mem_nil, or_false, forall_eq_or_imp, forall_eq]
    exact ⟨not_suffix_append (by decide) (by decide) _, hmark (by decide),
      not_suffix_append (by decide) (by decide) _⟩

/-! ### Terms from their parts -/

namespace Term

/-- The term that a key, operands and a trend in a row are read as. Operands that end
in the mark of a crossing lend it to a plain trend. -/
def ofParts (key operands : String) (trend : Trend) : Term :=
  match trend.crossing? with
  | some crossing =>
    if Trend.crossingMark.toList.isSuffixOf operands.toList then
      ⟨key, String.ofList (operands.toList.take
        (operands.toList.length - Trend.crossingMark.toList.length)), crossing⟩
    else ⟨key, operands, trend⟩
  | none => ⟨key, operands, trend⟩

variable {key operands : String} {trend : Trend}

@[simp] theorem key_ofParts : (ofParts key operands trend).key = key := by
  unfold ofParts
  split
  · split <;> rfl
  · rfl

theorem ofParts_of_not_lent
    (h : trend.crossing? ≠ none → ¬ Trend.crossingMark.toList <:+ operands.toList) :
    ofParts key operands trend = ⟨key, operands, trend⟩ := by
  unfold ofParts
  split
  · rename_i crossing hc
    rw [if_neg]
    rw [List.isSuffixOf_iff_suffix]
    exact h (by simp [hc])
  · rfl

theorem ofParts_of_lent {crossing : Trend} (hc : trend.crossing? = some crossing)
    {front : List Char} (h : operands.toList = front ++ Trend.crossingMark.toList) :
    ofParts key operands trend = ⟨key, String.ofList front, crossing⟩ := by
  have hs : Trend.crossingMark.toList.isSuffixOf operands.toList = true :=
    List.isSuffixOf_iff_suffix.mpr ⟨front, h.symm⟩
  unfold ofParts
  rw [hc]
  simp only
  rw [if_pos hs, h]
  simp

/-- No part gets lost. -/
theorem text_ofParts : (ofParts key operands trend).text = key ++ operands ++ trend.wire := by
  cases hc : trend.crossing? with
  | none => rw [ofParts_of_not_lent (fun h => absurd hc h), text]
  | some crossing =>
    by_cases hs : Trend.crossingMark.toList <:+ operands.toList
    · obtain ⟨front, hfront⟩ := hs
      rw [ofParts_of_lent hc hfront.symm, ← String.toList_inj]
      simp [text, Trend.wire_crossing hc, ← hfront]
    · rw [ofParts_of_not_lent (fun _ => hs), text]

theorem isTrendOf_ofParts :
    IsTrendOf (ofParts key operands trend).trend (operands.toList ++ trend.wire.toList) := by
  cases hc : trend.crossing? with
  | none =>
    rw [ofParts_of_not_lent (fun h => absurd hc h)]
    exact isTrendOf_append (fun h => absurd hc h)
  | some crossing =>
    by_cases hs : Trend.crossingMark.toList <:+ operands.toList
    · obtain ⟨front, hfront⟩ := hs
      have hnone : crossing.crossing? = none := by
        cases trend <;> cases hc <;> rfl
      have hlent : IsTrendOf crossing (front ++ crossing.wire.toList) :=
        isTrendOf_append (fun h => absurd hnone h)
      rw [ofParts_of_lent hc hfront.symm, ← hfront, List.append_assoc, ← String.toList_append,
        ← Trend.wire_crossing hc]
      exact hlent
    · rw [ofParts_of_not_lent (fun _ => hs)]
      exact isTrendOf_append (fun _ => hs)

end Term

/-! ### Wire keys -/

namespace Catalog

theorem exists_of_isKnown {kind : String} (h : isKnown kind = true) :
    ∃ i ∈ indicators, i.kind = kind ∧ fields kind = i.fields := by
  obtain ⟨i, hi, hk⟩ := List.any_eq_true.mp h
  cases hf : find? kind with
  | none =>
    rw [find?, List.find?_eq_none] at hf
    exact absurd hk (hf i hi)
  | some j =>
    refine ⟨j, List.mem_of_find?_eq_some hf, ?_, by simp [fields, hf]⟩
    simpa using List.find?_some hf

theorem wireKey_mem {kind : String} (h : isKnown kind = true) : wireKey kind ∈ wireKeys := by
  obtain ⟨i, hi, rfl, -⟩ := exists_of_isKnown h
  exact List.mem_map_of_mem hi

/-- No number continues a wire key to a longer one. -/
theorem length_wireKey_le {k l : String} (hk : k ∈ wireKeys) (hl : l ∈ wireKeys) {c : Char}
    {cs : List Char} (hc : isNumberChar c = true) (h : l.toList <+: k.toList ++ c :: cs) :
    l.toList.length ≤ k.toList.length := by
  have hall : ∀ k ∈ wireKeys, ∀ l ∈ wireKeys, k.toList <+: l.toList →
      (l.toList.drop k.toList.length).head?.all (fun d => !isNumberChar d) = true := by decide
  by_contra hlt
  have hpre : k.toList ++ [c] <+: l.toList :=
    List.prefix_of_prefix_length_le ⟨cs, by simp⟩ h (by simp; omega)
  obtain ⟨tail, htail⟩ := hpre
  have hhead := hall k hk l hl ⟨c :: tail, by rw [← htail]; simp⟩
  simp [← htail, hc] at hhead

theorem isTermChar_of_mem_wireKeys {k : String} (hk : k ∈ wireKeys) :
    ∀ c ∈ k.toList, isTermChar c = true := by
  have hall : ∀ k ∈ wireKeys, k.toList.all isTermChar = true := by decide
  exact List.all_eq_true.mp (hall k hk)

theorem not_placeholder_prefix_wireKey {k : String} (hk : k ∈ wireKeys) (cs : List Char) :
    ¬ Clause.placeholderText.toList <+: k.toList ++ cs := by
  have hall : ∀ k ∈ wireKeys, k.toList.head?.any (· != '_') = true := by decide
  have hhead := hall k hk
  rintro ⟨tail, htail⟩
  cases hk : k.toList with
  | nil => simp [hk] at hhead
  | cons d ds =>
    rw [hk, List.cons_append] at htail
    have hd : d = '_' := (List.cons.inj htail).1.symm
    simp [hk, hd] at hhead

/-- One indicator has a field of text, behind a field of numbers. All the others have
fields of numbers only, and at least one. -/
theorem fields_shape {kind : String} (h : isKnown kind = true) :
    (kind ≠ "HeikenAshi" ∧ fields kind ≠ [] ∧ ∀ f ∈ fields kind, f.type = .integer) ∨
      kind = "HeikenAshi" ∧ fields kind =
        [integer "candle_number" "Candle Number", text "candle_state" "Candle State"] := by
  have hall : ∀ i ∈ indicators,
      (i.kind ≠ "HeikenAshi" ∧ i.fields ≠ [] ∧ ∀ f ∈ i.fields, f.type = .integer) ∨
        i.kind = "HeikenAshi" ∧ i.fields =
          [integer "candle_number" "Candle Number", text "candle_state" "Candle State"] := by
    decide
  obtain ⟨i, hi, rfl, hfields⟩ := exists_of_isKnown h
  exact hfields ▸ hall i hi

end Catalog

/-! ### Operands of a condition -/

theorem isTermChar_of_isNumberChar {c : Char} (h : isNumberChar c = true) :
    isTermChar c = true := by
  rw [isTermChar_iff]
  intro hc
  simp only [List.mem_cons, List.not_mem_nil, or_false] at hc
  rcases hc with rfl | rfl | rfl | rfl | rfl <;> exact absurd h (by decide)

theorem toList_joinWith_empty (ss : List String) :
    (joinWith "" ss).toList = ss.flatMap String.toList := by
  cases ss with
  | nil => rfl
  | cons s ss => simp [toList_joinWith_cons]

namespace Entry

/-- The operands of a condition as they are written one after the other. -/
def operandsText (e : Entry) : String := joinWith "" e.operandTexts ++ e.constantText

/-- What a field adds to the operands. -/
def fieldChars (e : Entry) (f : Field) : List Char :=
  match Assoc.get? e.parameters f.key with
  | some v => v.render.toList
  | none => []

/-- Empty texts add nothing, so leaving them out changes nothing. -/
theorem toList_operandTexts (e : Entry) :
    (joinWith "" e.operandTexts).toList = (Catalog.fields e.kind).flatMap e.fieldChars := by
  rw [toList_joinWith_empty, operandTexts]
  induction Catalog.fields e.kind with
  | nil => rfl
  | cons f fs ih =>
    rw [List.filterMap_cons, List.flatMap_cons, ← ih, fieldChars]
    cases Assoc.get? e.parameters f.key with
    | none => rfl
    | some v =>
      cases v with
      | number x => rfl
      | text s =>
        by_cases hs : s = ""
        · subst hs
          rfl
        · have hkept : (some (Operand.text s)).filter (!·.isEmpty) = some (.text s) := by
            simp [Option.filter, Operand.isEmpty, hs]
          rw [hkept]
          rfl

theorem toList_operandsText (e : Entry) :
    e.operandsText.toList
      = (Catalog.fields e.kind).flatMap e.fieldChars ++ e.constantText.toList := by
  rw [operandsText, String.toList_append, toList_operandTexts]

theorem constantText_of_none {e : Entry} (h : e.constant? = none) : e.constantText = "" := by
  unfold constantText comparedConstant?
  cases e.reference <;> simp [h]

variable {e : Entry} (hw : e.WellFormed)
include hw

theorem isNumberText_constantText (h : e.constant? ≠ none) :
    IsNumberText e.constantText.toList := by
  obtain ⟨x, hx⟩ := Option.ne_none_iff_exists'.mp h
  have hc : e.constantText = x.expressionText := by
    simp [constantText, comparedConstant?, hw.reference h, hx]
  exact hc ▸ Binary64.isNumberText_expressionText x

theorem isNumberText_fieldChars {f : Field} (hf : f ∈ Catalog.fields e.kind)
    (ht : f.type = .integer) : IsNumberText (e.fieldChars f) := by
  obtain ⟨v, hv, htype⟩ := hw.parameters.get?_field hf
  obtain ⟨x, rfl⟩ := Operand.eq_number_of_type (htype.trans ht)
  rw [fieldChars, hv]
  exact Binary64.isNumberText_expressionText x

theorem isNumberChar_of_mem_constantText : ∀ c ∈ e.constantText.toList, isNumberChar c = true := by
  by_cases h : e.constant? = none
  · simp [constantText_of_none h]
  · exact (isNumberText_constantText hw h).chars

/-- The operands of a condition start with a number. -/
theorem operandsText_eq_cons (ha : e.isActive = true) :
    ∃ c cs, e.operandsText.toList = c :: cs ∧ isNumberChar c = true := by
  have hfirst : ∃ f fs, Catalog.fields e.kind = f :: fs ∧ f.type = .integer := by
    rcases Catalog.fields_shape ha with ⟨-, hne, htype⟩ | ⟨-, hfs⟩
    · obtain ⟨f, fs, hfs⟩ := List.exists_cons_of_ne_nil hne
      exact ⟨f, fs, hfs, htype f (hfs ▸ List.mem_cons_self ..)⟩
    · exact ⟨_, _, hfs, rfl⟩
  obtain ⟨f, fs, hfs, htype⟩ := hfirst
  obtain ⟨hne, hchars⟩ := isNumberText_fieldChars hw (hfs ▸ List.mem_cons_self ..) htype
  obtain ⟨c, cs, hcs⟩ := List.exists_cons_of_ne_nil hne
  refine ⟨c, cs ++ (fs.flatMap e.fieldChars ++ e.constantText.toList), ?_, ?_⟩
  · simp [toList_operandsText, hfs, hcs]
  · exact hchars c (hcs ▸ List.mem_cons_self ..)

/-- The free text of the one indicator that has some. -/
theorem exists_candleState (hk : e.kind = "HeikenAshi") :
    ∃ s, Assoc.get? e.parameters "candle_state" = some (.text s) := by
  have hf : Catalog.text "candle_state" "Candle State" ∈ Catalog.fields e.kind := by
    rw [hk]
    decide
  obtain ⟨v, hv, htype⟩ := hw.parameters.get?_field hf
  obtain ⟨s, rfl⟩ := Operand.eq_text_of_type htype
  exact ⟨s, hv⟩

/-- The operands of that indicator are its number, its free text and the constant. -/
theorem operandsText_of_heikenAshi (hk : e.kind = "HeikenAshi") {s : String}
    (hs : Assoc.get? e.parameters "candle_state" = some (.text s)) :
    ∃ number, IsNumberText number ∧
      e.operandsText.toList = number ++ s.toList ++ e.constantText.toList := by
  have hfields : Catalog.fields e.kind =
      [Catalog.integer "candle_number" "Candle Number",
        Catalog.text "candle_state" "Candle State"] := by
    rw [hk]
    decide
  have hnumber := isNumberText_fieldChars hw (hfields ▸ List.mem_cons_self ..) rfl
  refine ⟨_, hnumber, ?_⟩
  have hstate : e.fieldChars (Catalog.text "candle_state" "Candle State") = s.toList := by
    simp only [fieldChars, Catalog.text, hs, Operand.render]
  simp [toList_operandsText, hfields, hstate]

end Entry

/-! ### The mark at the end of operands -/

/-- Behind a number text no mark ends. -/
theorem not_mark_suffix_append {ds : List Char} (hd : IsNumberText ds) (cs : List Char) :
    ¬ Trend.crossingMark.toList <:+ cs ++ ds := by
  rintro ⟨front, h⟩
  have hlast := congrArg List.getLast? h
  rw [List.getLast?_append_of_ne_nil _ hd.nonempty, List.getLast?_append_of_ne_nil _ (by decide),
    List.getLast?_eq_some_getLast hd.nonempty] at hlast
  have hmem := hd.chars _ (List.getLast_mem hd.nonempty)
  rw [← Option.some.inj (show some '_' = _ from hlast)] at hmem
  exact absurd hmem (by decide)

/-- A number text in front cannot complete a mark. -/
theorem mark_suffix_number_append {ns cs : List Char} (hn : ∀ c ∈ ns, isNumberChar c = true) :
    Trend.crossingMark.toList <:+ ns ++ cs ↔ Trend.crossingMark.toList <:+ cs := by
  refine ⟨fun h => ?_, fun h => h.trans (List.suffix_append ns cs)⟩
  rcases List.suffix_or_suffix_of_suffix h (List.suffix_append ns cs) with hs | ⟨part, hpart⟩
  · exact hs
  · obtain ⟨front, hfront⟩ := h
    rw [← hpart, ← List.append_assoc] at hfront
    have hns := List.append_cancel_right hfront
    cases part with
    | nil => exact ⟨[], hpart.symm⟩
    | cons c part =>
      -- the mark starts with a letter that no number text has
      have hc : c = 'c' := (List.cons.inj hpart).1
      have := hn c (hns ▸ by simp)
      rw [hc] at this
      exact absurd this (by decide)

namespace Entry

/-- A condition whose free text stands right in front of a plain trend and ends in the
mark of a crossing. -/
structure LendsMark (e : Entry) : Prop where
  kind : e.kind = "HeikenAshi"
  trend : e.trend = .above ∨ e.trend = .below
  constant : e.constant? = none
  state : ∃ s, Assoc.get? e.parameters "candle_state" = some (.text s) ∧
    "crossed_".toList <:+ s.toList

theorem mark_suffix_operandsText_iff {e : Entry} (hw : e.WellFormed) (ha : e.isActive = true) :
    Trend.crossingMark.toList <:+ e.operandsText.toList ↔
      e.kind = "HeikenAshi" ∧ e.constant? = none ∧
        ∃ s, Assoc.get? e.parameters "candle_state" = some (.text s) ∧
          Trend.crossingMark.toList <:+ s.toList := by
  -- without a constant the last field ends the operands, and only one indicator ends in text
  by_cases hc : e.constant? = none
  · by_cases hk : e.kind = "HeikenAshi"
    · obtain ⟨s, hs⟩ := exists_candleState hw hk
      obtain ⟨number, hnumber, htext⟩ := operandsText_of_heikenAshi hw hk hs
      rw [htext, constantText_of_none hc, String.toList_empty, List.append_nil,
        mark_suffix_number_append hnumber.chars]
      simp [hk, hc, hs]
    · rcases Catalog.fields_shape ha with ⟨-, -, htype⟩ | ⟨hk', -⟩
      · have hchars : ∀ c ∈ e.operandsText.toList, isNumberChar c = true := by
          rw [toList_operandsText, constantText_of_none hc]
          intro c hmem
          obtain ⟨f, hf, hcf⟩ := List.mem_flatMap.mp (by simpa using hmem)
          exact (isNumberText_fieldChars hw hf (htype f hf)).chars c hcf
        obtain ⟨c, cs, hcs, -⟩ := operandsText_eq_cons hw ha
        have hnot := not_mark_suffix_append ⟨by simp [hcs], hchars⟩ []
        simpa [hk] using hnot
      · exact absurd hk' hk
  · have hnot := not_mark_suffix_append (isNumberText_constantText hw hc)
      ((Catalog.fields e.kind).flatMap e.fieldChars)
    rw [← toList_operandsText] at hnot
    simp [hc, hnot]

/-! ### Conditions and terms -/

/-- How a condition is found again: under its wire key, with its trend and operands,
unless a mark was lent. Then the crossing is found, with the mark taken off the
operands. -/
structure ReadsAs (e : Entry) (t : Term) : Prop where
  key : t.key = wireKey e.kind
  faithful : ¬ e.LendsMark →
    t.trend = e.trend ∧ t.operands = joinWith "" e.operandTexts ++ e.constantText
  lent : e.LendsMark → e.trend.crossing? = some t.trend ∧
    t.operands ++ "crossed_" = joinWith "" e.operandTexts ++ e.constantText

/-- No free text of a condition holds a character that ends a term. -/
def HasPlainText (e : Entry) : Prop :=
  e.kind = "HeikenAshi" → ∀ s, Assoc.get? e.parameters "candle_state" = some (.text s) →
    ∀ c ∈ s.toList, c ∉ [' ', '(', ')', '|', '&']

/-- The term of a condition. -/
def asTerm (e : Entry) : Term := .ofParts (wireKey e.kind) e.operandsText e.trend

theorem text_asTerm (e : Entry) :
    e.asTerm.text = wireKey e.kind ++ e.operandsText ++ e.trend.wire :=
  Term.text_ofParts

variable {e : Entry} (hw : e.WellFormed) (ha : e.isActive = true)
include hw ha

theorem readsAs_asTerm : e.ReadsAs e.asTerm where
  key := Term.key_ofParts
  faithful := by
    intro hnot
    -- operands end in the mark of a crossing just in the case that is excluded here
    have hkeep : e.trend.crossing? ≠ none →
        ¬ Trend.crossingMark.toList <:+ e.operandsText.toList := by
      intro ht hs
      obtain ⟨hk, hc, hstate⟩ := (mark_suffix_operandsText_iff hw ha).mp hs
      refine hnot ⟨hk, ?_, hc, hstate⟩
      cases htrend : e.trend <;> simp_all [Trend.crossing?]
    rw [asTerm, Term.ofParts_of_not_lent hkeep]
    exact ⟨rfl, rfl⟩
  lent := by
    intro h
    obtain ⟨front, hfront⟩ :=
      (mark_suffix_operandsText_iff hw ha).mpr ⟨h.kind, h.constant, h.state⟩
    obtain ⟨crossing, hc⟩ : ∃ crossing, e.trend.crossing? = some crossing := by
      rcases h.trend with ht | ht <;> simp [ht, Trend.crossing?]
    rw [asTerm, Term.ofParts_of_lent hc hfront.symm]
    refine ⟨hc, ?_⟩
    rw [← String.toList_inj, String.toList_append, String.toList_ofList]
    exact hfront

theorem isTermChar_of_mem_operandsText (hp : e.HasPlainText) :
    ∀ c ∈ e.operandsText.toList, isTermChar c = true := by
  have hconstant (c : Char) (hc : c ∈ e.constantText.toList) : isTermChar c = true :=
    isTermChar_of_isNumberChar (isNumberChar_of_mem_constantText hw c hc)
  rcases Catalog.fields_shape ha with ⟨-, -, htype⟩ | ⟨hk, -⟩
  · rw [toList_operandsText]
    intro c hc
    rcases List.mem_append.mp hc with hc | hc
    · obtain ⟨f, hf, hcf⟩ := List.mem_flatMap.mp hc
      exact isTermChar_of_isNumberChar
        ((isNumberText_fieldChars hw hf (htype f hf)).chars c hcf)
    · exact hconstant c hc
  · obtain ⟨s, hs⟩ := exists_candleState hw hk
    obtain ⟨number, hnumber, htext⟩ := operandsText_of_heikenAshi hw hk hs
    rw [htext]
    intro c hc
    rcases List.mem_append.mp hc with hc | hc
    · rcases List.mem_append.mp hc with hc | hc
      · exact isTermChar_of_isNumberChar (hnumber.chars c hc)
      · exact (isTermChar_iff c).mpr (hp hk s hs c hc)
    · exact hconstant c hc

theorem isCanonical_asTerm (hp : e.HasPlainText) : e.asTerm.IsCanonical := by
  have hkey := Catalog.wireKey_mem ha
  have htext : e.asTerm.text.toList
      = (wireKey e.kind).toList ++ (e.operandsText.toList ++ e.trend.wire.toList) := by
    rw [text_asTerm, String.toList_append, String.toList_append, List.append_assoc]
  have hkeyText : e.asTerm.key = wireKey e.kind := Term.key_ofParts
  refine ⟨fun c hc => ?_, .inl ⟨⟨_, hkey, by rw [hkeyText]⟩, ?_, fun l hl hpre => ?_⟩, ?_⟩
  · rw [← isTermChar_iff]
    rw [htext] at hc
    rcases List.mem_append.mp hc with hc | hc
    · exact Catalog.isTermChar_of_mem_wireKeys hkey c hc
    · rcases List.mem_append.mp hc with hc | hc
      · exact isTermChar_of_mem_operandsText hw ha hp c hc
      · have hall : e.trend.wire.toList.all isTermChar = true := by
          cases e.trend <;> decide
        exact List.all_eq_true.mp hall c hc
  · rw [hkeyText, htext]
    exact List.prefix_append _ _
  -- a longer key would go on into the operands, but these start like a number
  · obtain ⟨c, cs, hcs, hc⟩ := operandsText_eq_cons hw ha
    rw [htext, hcs, List.cons_append] at hpre
    rw [hkeyText]
    exact Catalog.length_wireKey_le hkey hl hc hpre
  · rw [hkeyText, htext, List.drop_left]
    exact Term.isTrendOf_ofParts

omit hw ha in
theorem term?_eq (e : Entry) : e.term? = if e.isActive then some e.asTerm.text else none := by
  rw [term?, text_asTerm, operandsText]
  simp only [String.append_assoc]

end Entry

/-! ### Groups and drafts -/

namespace Group

/-- The clause of a group. -/
def asClause (g : Group) : Clause :=
  match g.active with
  | [] => .placeholder
  | es => .terms (es.map Entry.asTerm)

theorem text_asClause (g : Group) : g.asClause.text = g.clause := by
  have hpieces : g.entries.filterMap Entry.term? = (g.active.map Entry.asTerm).map Term.text := by
    rw [active]
    induction g.entries with
    | nil => rfl
    | cons e es ih =>
      rw [List.filterMap_cons, List.filter_cons, Entry.term?_eq, ih]
      cases e.isActive <;> rfl
  rw [clause, hpieces, asClause]
  match g.active with
  | [] => rfl
  | [_] => rfl
  | _ :: _ :: _ => rfl

theorem isCanonical_asClause {g : Group} (hw : g.WellFormed)
    (hp : ∀ e ∈ g.active, e.HasPlainText) : g.asClause.IsCanonical := by
  have hterm : ∀ e ∈ g.active, e.asTerm.IsCanonical := by
    intro e he
    obtain ⟨hmem, ha⟩ := List.mem_filter.mp he
    exact Entry.isCanonical_asTerm (hw.entries e hmem) ha (hp e he)
  have hlone : ∀ e ∈ g.active, ¬ Clause.placeholderText.toList <+: e.asTerm.text.toList := by
    intro e he
    have ha : e.isActive = true := (List.mem_filter.mp he).2
    rw [Entry.text_asTerm, String.toList_append, String.toList_append, List.append_assoc]
    exact Catalog.not_placeholder_prefix_wireKey (Catalog.wireKey_mem ha) _
  unfold asClause
  cases hactive : g.active with
  | nil => exact ⟨by simp, by simp [Clause.toTerms], by simp⟩
  | cons e es =>
    rw [hactive] at hterm hlone
    refine ⟨by simp, ?_, ?_⟩
    · simpa [Clause.toTerms] using hterm
    · intro t ht
      obtain ⟨rfl, -⟩ : e.asTerm = t ∧ es = [] := by simpa using ht
      exact hlone e (List.mem_cons_self ..)

/-- How a group is found again: as a placeholder if it has no condition, or else as a
clause with a term for each of them. -/
structure ReadsAs (g : Group) (c : Clause) : Prop where
  placeholder : c = .placeholder ↔ g.active = []
  terms : g.active ≠ [] → ∃ ts, c = .terms ts ∧ List.Forall₂ Entry.ReadsAs g.active ts

theorem readsAs_asClause {g : Group} (hw : g.WellFormed) : g.ReadsAs g.asClause := by
  have hentry : ∀ e ∈ g.active, e.ReadsAs e.asTerm := by
    intro e he
    obtain ⟨hmem, ha⟩ := List.mem_filter.mp he
    exact Entry.readsAs_asTerm (hw.entries e hmem) ha
  unfold asClause
  cases hactive : g.active with
  | nil => exact ⟨by simp [hactive], fun h => absurd hactive h⟩
  | cons e es =>
    refine ⟨by simp [hactive], fun _ => ⟨_, rfl, ?_⟩⟩
    rw [hactive, List.forall₂_map_right_iff, List.forall₂_same]
    exact hactive ▸ hentry

end Group

namespace Draft

/-- The expression of a draft. -/
def asExpression (d : Draft) : Expression := ⟨d.groups.map Group.asClause⟩

theorem text_asExpression (d : Draft) : d.asExpression.text = d.expression := by
  simp [asExpression, Expression.text, expression, Group.text_asClause, Function.comp_def]

theorem isCanonical_asExpression {d : Draft} (hw : d.WellFormed)
    (hp : ∀ e ∈ d.active, e.HasPlainText) : d.asExpression.IsCanonical where
  nonempty := by simpa [asExpression] using hw.nonempty
  clauses := by
    intro c hc
    obtain ⟨g, hg, rfl⟩ := List.mem_map.mp hc
    exact Group.isCanonical_asClause (hw.groups g hg) fun e he =>
      hp e (List.mem_flatMap.mpr ⟨g, hg, he⟩)

/-- **Compiled expressions are read back.** Whatever the edits, if no free text holds a
character that ends a term then the expression of the draft is accepted, is the text of
what is read, and each group and each condition is found in its place. -/
theorem parse_expression_edited (es : List Edit)
    (hp : ∀ e ∈ (blank.applyAll es).active, e.HasPlainText) :
    ∃ x, Expression.parse (blank.applyAll es).expression = .ok x ∧
      x.text = (blank.applyAll es).expression ∧
      List.Forall₂ Group.ReadsAs (blank.applyAll es).groups x.clauses := by
  have hw := wellFormed_edited es
  refine ⟨(blank.applyAll es).asExpression, ?_, text_asExpression _, ?_⟩
  · rw [← text_asExpression]
    exact Expression.parse_text (isCanonical_asExpression hw hp)
  · rw [asExpression, List.forall₂_map_right_iff, List.forall₂_same]
    exact fun g hg => Group.readsAs_asClause (hw.groups g hg)

/-- Edits that lead to a free text that lends its mark, another condition beside it and
a group without conditions. -/
def lendingEdits : List Edit :=
  [.change 0 0 (.kind "HeikenAshi"), .change 0 0 (.parameter "candle_state" "crossed_"),
    .addEntry 0, .change 0 1 (.kind "Macd"), .addGroup]

theorem parse_expression_lendingEdits :
    (∀ e ∈ (blank.applyAll lendingEdits).active, e.HasPlainText) ∧
      ∃ x, Expression.parse (blank.applyAll lendingEdits).expression = .ok x ∧
        x.text = (blank.applyAll lendingEdits).expression ∧
        List.Forall₂ Group.ReadsAs (blank.applyAll lendingEdits).groups x.clauses := by
  have hactive : (blank.applyAll lendingEdits).active =
      [⟨1, "HeikenAshi", [("candle_number", .number .zero), ("candle_state", .text "crossed_")],
          .above, .close, none⟩,
        ⟨2, "Macd", Parameters.initial "Macd", .above, .close, none⟩] := by decide
  have hp : ∀ e ∈ (blank.applyAll lendingEdits).active, e.HasPlainText := by
    rw [hactive]
    simp only [List.mem_cons, List.not_mem_nil, or_false, forall_eq_or_imp, forall_eq]
    refine ⟨fun _ s hs => ?_, fun hk => absurd hk (by decide)⟩
    obtain rfl : "crossed_" = s := by simpa [Assoc.get?] using hs
    simp
  exact ⟨hp, parse_expression_edited lendingEdits hp⟩

end Draft
end IndicatorStrategy

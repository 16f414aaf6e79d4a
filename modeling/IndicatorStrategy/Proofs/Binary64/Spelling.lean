import IndicatorStrategy.Binary64.Decimal
import IndicatorStrategy.Proofs.Numeral
import IndicatorStrategy.Proofs.Text.Run
/-!
# IndicatorStrategy.Proofs.Binary64.Spelling

**The grammar of decimal literals.** A literal is an optional sign, digits with an optional
point among or beside them, and an optional exponent, which is a mark, an optional sign and
digits. `Decimal.Spelling` is this grammar with the decimal that a literal stands for;
`Decimal.read?` accepts the texts of the grammar and no others, and yields that decimal.

The parts of a literal are told apart by how they begin: neither a point nor the mark of an
exponent is a digit, and no digits begin with a sign. A literal has a digit, which none of
the words for infinity and not-a-number has.
-/

namespace IndicatorStrategy
namespace Decimal

open Numeral (IsRun SignSpelling signed)

/-- The spellings of an exponent; without one it is zero. -/
inductive ExponentSpelling : Int → List Char → Prop
  | absent : ExponentSpelling 0 []
  | marked {mark : Char} (hmark : mark = 'e' ∨ mark = 'E') {negative : Bool}
      {sign ds : List Char} (hsign : SignSpelling negative sign) (hrun : IsRun ds) :
    ExponentSpelling (signed negative (Numeral.value ds)) (mark :: (sign ++ ds))

/-- The spellings of digits in front of a point and behind it; the point is left out or
written where there are none behind it. -/
inductive PointSpelling : List Char → List Char → List Char → Prop
  | absent (whole : List Char) : PointSpelling whole [] whole
  | point (whole fraction : List Char) :
    PointSpelling whole fraction (whole ++ '.' :: fraction)

/-- The spellings of a decimal. -/
inductive Spelling : Decimal → List Char → Prop
  | intro {negative : Bool} {e : Int} {sign whole fraction digits exponent : List Char}
      (hsign : SignSpelling negative sign) (hpoint : PointSpelling whole fraction digits)
      (hrun : IsRun (whole ++ fraction)) (hexponent : ExponentSpelling e exponent) :
    Spelling ⟨negative, whole ++ fraction, e - fraction.length⟩ (sign ++ (digits ++ exponent))

theorem exponent?_eq_some_iff {cs : List Char} {e : Int} :
    exponent? cs = some e ↔ ExponentSpelling e cs := by
  constructor
  · intro h
    unfold exponent? at h
    split at h
    · cases h
      exact .absent
    · simp only [Option.ite_none_right_eq_some] at h
      obtain ⟨hmark, h⟩ := h
      obtain ⟨negative, sign, ds, hsign, hrun, rfl, rfl⟩ := Numeral.integer?_eq_some_iff.mp h
      exact .marked hmark hsign hrun
  · rintro (_ | ⟨hmark, hsign, hrun⟩)
    · rfl
    · rw [exponent?, if_pos hmark]
      exact Numeral.integer?_eq_some_iff.mpr ⟨_, _, _, hsign, hrun, rfl, rfl⟩

theorem ExponentSpelling.stops {e : Int} {cs : List Char} (h : ExponentSpelling e cs) :
    Stops Char.isDigit cs := by
  cases h with
  | absent => exact .nil
  | marked hmark _ _ => rcases hmark with rfl | rfl <;> simp

theorem ExponentSpelling.head?_ne_point {e : Int} {cs : List Char} (h : ExponentSpelling e cs) :
    cs.head? ≠ some '.' := by
  cases h with
  | absent => simp
  | marked hmark _ _ => rcases hmark with rfl | rfl <;> simp

/-! ### Taking a literal apart -/

theorem exists_splitSign (cs : List Char) :
    ∃ sign, SignSpelling (splitSign cs).1 sign ∧ cs = sign ++ (splitSign cs).2 := by
  unfold splitSign
  split
  · exact ⟨_, .plus, rfl⟩
  · exact ⟨_, .minus, rfl⟩
  · exact ⟨_, .absent, rfl⟩

theorem splitSign_append {negative : Bool} {sign cs : List Char}
    (h : SignSpelling negative sign) (hplus : cs.head? ≠ some '+') (hminus : cs.head? ≠ some '-') :
    splitSign (sign ++ cs) = (negative, cs) := by
  cases h with
  | plus => rfl
  | minus => rfl
  | absent =>
    rw [List.nil_append]
    unfold splitSign
    split
    · exact absurd rfl hplus
    · exact absurd rfl hminus
    · rfl

theorem exists_splitFraction (whole cs : List Char) :
    ∃ digits, PointSpelling whole (splitFraction cs).1 digits ∧
      whole ++ cs = digits ++ (splitFraction cs).2 := by
  unfold splitFraction
  split
  · refine ⟨_, .point whole _, ?_⟩
    simp
  · exact ⟨_, .absent whole, rfl⟩

theorem isDigit_of_mem_splitFraction (cs : List Char) :
    ∀ c ∈ (splitFraction cs).1, c.isDigit = true := by
  unfold splitFraction
  split
  · exact fun c hc => List.mem_takeWhile_imp hc
  · simp

theorem PointSpelling.mem {whole fraction digits : List Char}
    (h : PointSpelling whole fraction digits) {c : Char} (hc : c ∈ whole ++ fraction) :
    c ∈ digits := by
  cases h with
  | absent => simpa using hc
  | point => simpa using (List.mem_append.mp hc).imp_right Or.inr

/-- Behind its sign a literal begins with a digit or with the point. -/
theorem PointSpelling.head?_append {whole fraction digits : List Char}
    (h : PointSpelling whole fraction digits) (hrun : IsRun (whole ++ fraction))
    (rest : List Char) :
    ∃ c, (digits ++ rest).head? = some c ∧ (c.isDigit = true ∨ c = '.') := by
  cases h with
  | absent =>
    obtain ⟨c, cs, rfl⟩ := List.exists_cons_of_ne_nil (List.append_nil whole ▸ hrun.nonempty)
    exact ⟨c, rfl, .inl (hrun.isDigit c (by simp))⟩
  | point =>
    cases whole with
    | nil => exact ⟨'.', rfl, .inr rfl⟩
    | cons c cs => exact ⟨c, rfl, .inl (hrun.isDigit c (by simp))⟩

/-- The digits of a literal end where the exponent begins. -/
theorem PointSpelling.split {whole fraction digits : List Char}
    (h : PointSpelling whole fraction digits) (hrun : IsRun (whole ++ fraction))
    {rest : List Char} (hrest : Stops Char.isDigit rest) (hpoint : rest.head? ≠ some '.') :
    (digits ++ rest).takeWhile Char.isDigit = whole ∧
      splitFraction ((digits ++ rest).dropWhile Char.isDigit) = (fraction, rest) := by
  have hwhole : ∀ c ∈ whole, c.isDigit = true :=
    fun c hc => hrun.isDigit c (List.mem_append_left _ hc)
  cases h with
  | absent =>
    rw [hrest.takeWhile_append hwhole, hrest.dropWhile_append hwhole]
    refine ⟨rfl, ?_⟩
    unfold splitFraction
    split
    · exact absurd rfl hpoint
    · rfl
  | point =>
    have hfraction : ∀ c ∈ fraction, c.isDigit = true :=
      fun c hc => hrun.isDigit c (List.mem_append_right _ hc)
    have hstops : Stops Char.isDigit ('.' :: (fraction ++ rest)) := by simp
    rw [List.append_assoc, List.cons_append, hstops.takeWhile_append hwhole,
      hstops.dropWhile_append hwhole, splitFraction, hrest.takeWhile_append hfraction,
      hrest.dropWhile_append hfraction]
    exact ⟨rfl, rfl⟩

theorem splitSign_spelling {negative : Bool} {sign whole fraction digits : List Char}
    (hsign : SignSpelling negative sign) (hpoint : PointSpelling whole fraction digits)
    (hrun : IsRun (whole ++ fraction)) (rest : List Char) :
    splitSign (sign ++ (digits ++ rest)) = (negative, digits ++ rest) := by
  obtain ⟨c, hc, hdigit⟩ := hpoint.head?_append hrun rest
  refine splitSign_append hsign ?_ ?_ <;>
  · rw [hc]
    rintro ⟨⟩
    exact absurd hdigit (by decide)

theorem spelling_of_read? {cs : List Char} {d : Decimal} (h : read? cs = some d) :
    d.Spelling cs := by
  -- the parts that the reader cuts off one after the other spell the text
  obtain ⟨sign, hsign, hcs⟩ := exists_splitSign cs
  rw [read?] at h
  generalize splitSign cs = split at hsign hcs h
  obtain ⟨negative, rest⟩ := split
  simp only at hsign hcs h
  obtain ⟨digits, hpoint, hrest⟩ := exists_splitFraction (rest.takeWhile Char.isDigit)
    (rest.dropWhile Char.isDigit)
  rw [List.takeWhile_append_dropWhile] at hrest
  have hfraction := isDigit_of_mem_splitFraction (rest.dropWhile Char.isDigit)
  generalize splitFraction (rest.dropWhile Char.isDigit) = split at hpoint hrest hfraction h
  obtain ⟨fraction, exponent⟩ := split
  simp only [Option.ite_none_left_eq_some, Bool.and_eq_true, List.isEmpty_iff,
    Option.map_eq_some_iff] at h hpoint hrest hfraction
  obtain ⟨hne, e, he, rfl⟩ := h
  have hrun : IsRun (rest.takeWhile Char.isDigit ++ fraction) := by
    refine ⟨fun hnil => hne (List.append_eq_nil_iff.mp hnil), fun c hc => ?_⟩
    rcases List.mem_append.mp hc with hc | hc
    · exact List.mem_takeWhile_imp hc
    · exact hfraction c hc
  have hspelling := Spelling.intro hsign hpoint hrun (exponent?_eq_some_iff.mp he)
  rwa [← hrest, ← hcs] at hspelling

theorem Spelling.read? {cs : List Char} {d : Decimal} (h : d.Spelling cs) :
    read? cs = some d := by
  obtain ⟨hsign, hpoint, hrun, hexponent⟩ := h
  obtain ⟨hwhole, hfraction⟩ := hpoint.split hrun hexponent.stops hexponent.head?_ne_point
  rw [Decimal.read?, splitSign_spelling hsign hpoint hrun]
  simp only [hwhole, hfraction, exponent?_eq_some_iff.mpr hexponent, Option.map_some]
  rw [if_neg]
  simpa [List.isEmpty_iff] using hrun.nonempty

/-- **The reader accepts the grammar**, and yields what a literal stands for. -/
theorem read?_eq_some_iff {cs : List Char} {d : Decimal} : read? cs = some d ↔ d.Spelling cs :=
  ⟨spelling_of_read?, Spelling.read?⟩

theorem Spelling.isDigit {cs : List Char} {d : Decimal} (h : d.Spelling cs) :
    ∀ c ∈ d.digits, c.isDigit = true := by
  obtain ⟨-, -, hrun, -⟩ := h
  exact hrun.isDigit

theorem Spelling.exists_isDigit {cs : List Char} {d : Decimal} (h : d.Spelling cs) :
    ∃ c ∈ (splitSign cs).2, c.isDigit = true := by
  obtain ⟨hsign, hpoint, hrun, -⟩ := h
  rw [splitSign_spelling hsign hpoint hrun]
  obtain ⟨c, hmem⟩ := List.exists_mem_of_ne_nil _ hrun.nonempty
  exact ⟨c, List.mem_append_left _ (hpoint.mem hmem), hrun.isDigit c hmem⟩

end Decimal

/-! ### Words -/

namespace Binary64

/-- No word has a digit in it. -/
theorem word?_of_mem_digit (negative : Bool) {c : Char} {cs : List Char} (hmem : c ∈ cs)
    (hc : c.isDigit = true) : word? negative cs = none := by
  have hlower : c.toLower = c := by
    simp only [Char.isDigit, Bool.and_eq_true, decide_eq_true_eq] at hc
    unfold Char.toLower
    rw [dif_neg]
    intro h
    exact absurd (UInt32.le_trans h.1 hc.2) (by decide)
  have hne : ∀ w : String, w.toList.all (!·.isDigit) = true →
      String.ofList (cs.map Char.toLower) ≠ w := by
    intro w hw h
    have hword : c.toLower ∈ w.toList := by
      rw [← h, String.toList_ofList]
      exact List.mem_map_of_mem hmem
    have hno := List.all_eq_true.mp hw _ hword
    rw [hlower, hc] at hno
    cases hno
  rw [word?, if_neg, if_neg]
  · exact hne "nan" (by decide)
  · exact not_or.mpr ⟨hne "inf" (by decide), hne "infinity" (by decide)⟩

/-- A text that spells a decimal is read as that decimal, for it is no word. -/
theorem read?_of_spelling {cs : List Char} {d : Decimal} (h : d.Spelling cs) :
    read? cs = some d.toBinary64 := by
  obtain ⟨c, hmem, hc⟩ := h.exists_isDigit
  rw [read?]
  simp only
  rw [word?_of_mem_digit _ hmem hc, Option.none_or, h.read?, Option.map_some]

end Binary64
end IndicatorStrategy

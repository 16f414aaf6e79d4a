import IndicatorStrategy.Proofs.Operand.Number
/-!
# IndicatorStrategy.Proofs.Operand.Field

**What a form field denotes.** Without the blanks around it and without the mark of a
radix, a field holds nothing, a decimal literal, an infinity by its name, or none of these.
`FieldDenotes` gives each of them its number, and `ofField` is that number.

A literal denotes the double whose magnitude is nearest to its own. The magnitudes go on
behind the greatest double, and a number that is nearest to one of these rounds to an
infinity. Such a field is not-a-number, since an infinity counts only by its name: so there
are literals that do not denote the nearest double.
-/

namespace IndicatorStrategy
namespace Binary64

open Decimal (Spelling)
open Numeral (SignSpelling)

/-- The marks of a radix. -/
def radixMarks : List (List Char) :=
  [['0', 'x'], ['0', 'X'], ['0', 'o'], ['0', 'O'], ['0', 'b'], ['0', 'B']]

/-- The name of an infinity. -/
def infinityName : List Char := "Infinity".toList

/-- What a field without outer blanks and without the mark of a radix denotes. -/
inductive FieldDenotes : List Char → Binary64 → Prop
  | blank : FieldDenotes [] zero
  | decimal {cs : List Char} {d : Decimal} {rank : Nat} (hd : d.Spelling cs)
      (hnearest : IsNearest (d.magnitude * one) rank) (hrank : rank < infinityRank) :
    FieldDenotes cs (finite d.negative ⟨rank, hrank⟩)
  | large {cs : List Char} {d : Decimal} {rank : Nat} (hd : d.Spelling cs)
      (hnearest : IsNearest (d.magnitude * one) rank) (hrank : infinityRank ≤ rank) :
    FieldDenotes cs nan
  | infinity {negative : Bool} {sign : List Char} (hsign : SignSpelling negative sign) :
    FieldDenotes (sign ++ infinityName) (infinite negative)
  | other {cs : List Char} (hne : cs ≠ []) (hdecimal : ∀ d, ¬ Spelling d cs)
      (hinfinity : ∀ negative sign, SignSpelling negative sign → cs ≠ sign ++ infinityName) :
    FieldDenotes cs nan

/-! ### Literals -/

-- unification must not count the units
attribute [local irreducible] one unitsOf

section Literals

variable {cs : List Char} {d : Decimal} {rank : Nat}

theorem units_nonneg (d : Decimal) : 0 ≤ d.magnitude * one :=
  mul_nonneg d.magnitude_nonneg (Nat.cast_nonneg one)

theorem exists_isNearest (d : Decimal) : ∃ rank, IsNearest (d.magnitude * one) rank := by
  obtain ⟨rank, hrank⟩ := exists_roundsTo (units_nonneg d)
  exact ⟨rank, (isNearest_iff (units_nonneg d)).mpr hrank⟩

theorem toBinary64_of_isNearest (hd : d.Spelling cs)
    (h : IsNearest (d.magnitude * one) rank) : d.toBinary64 = ofRank d.negative rank :=
  Decimal.toBinary64_eq hd.isDigit ((isNearest_iff (units_nonneg d)).mp h)

/-- A literal is not the name of an infinity. -/
theorem ne_infinityName_of_spelling (hd : d.Spelling cs) :
    (Decimal.splitSign cs).2 ≠ infinityName := by
  intro hname
  obtain ⟨c, hmem, hc⟩ := hd.exists_isDigit
  have hletters : infinityName.all (!·.isDigit) = true := by decide
  have hletter := List.all_eq_true.mp hletters c (hname ▸ hmem)
  rw [hc] at hletter
  cases hletter

/-- A literal is read as the nearest double, but not if that is an infinity. -/
theorem ofDecimalField_of_spelling (hd : d.Spelling cs)
    (h : IsNearest (d.magnitude * one) rank) :
    ofDecimalField cs
      = if hrank : rank < infinityRank then finite d.negative ⟨rank, hrank⟩ else nan := by
  have hread := read?_of_spelling hd
  rw [toBinary64_of_isNearest hd h, ofRank] at hread
  by_cases hrank : rank < infinityRank
  · rw [dif_pos hrank] at hread
    rw [dif_pos hrank, ofDecimalField, hread]
  · rw [dif_neg hrank] at hread
    rw [dif_neg hrank, ofDecimalField, hread]
    exact if_neg (ne_infinityName_of_spelling hd)

end Literals

/-! ### Names -/

theorem word?_cases {negative : Bool} {cs : List Char} {x : Binary64}
    (h : word? negative cs = some x) : x = infinite negative ∨ x = nan := by
  unfold word? at h
  simp only at h
  split at h
  · exact .inl (Option.some.inj h).symm
  · simp only [Option.ite_none_right_eq_some, Option.some.injEq] at h
    exact .inr h.2.symm

theorem ofDecimalField_infinityName {negative : Bool} {sign : List Char}
    (h : SignSpelling negative sign) :
    ofDecimalField (sign ++ infinityName) = infinite negative := by
  cases h <;> rfl

/-- What is neither a literal nor the name of an infinity is not-a-number, whatever other
words it may be. -/
theorem ofDecimalField_other {cs : List Char} (hdecimal : ∀ d, ¬ Spelling d cs)
    (hinfinity : ∀ negative sign, SignSpelling negative sign → cs ≠ sign ++ infinityName) :
    ofDecimalField cs = nan := by
  have hnone : Decimal.read? cs = none :=
    Option.eq_none_iff_forall_ne_some.mpr fun d hd => hdecimal d (Decimal.read?_eq_some_iff.mp hd)
  have hread : read? cs = word? (Decimal.splitSign cs).1 (Decimal.splitSign cs).2 := by
    rw [read?, hnone]
    exact Option.or_none
  unfold ofDecimalField
  split
  · rfl
  · rw [if_neg]
    intro hname
    obtain ⟨sign, hsign, hcs⟩ := Decimal.exists_splitSign cs
    rw [hname] at hcs
    exact hinfinity _ sign hsign hcs
  · rename_i x hfinite hx
    rw [hread] at hx
    rcases word?_cases hx with rfl | rfl
    · exact absurd rfl (hfinite _)
    · rfl

/-! ### Fields -/

theorem splitRadix?_eq_none {cs : List Char} (h : ∀ mark ∈ radixMarks, ¬ mark <+: cs) :
    splitRadix? cs = none := by
  unfold splitRadix?
  split
  · rename_i c rest
    have hne : ∀ m, ['0', m] ∈ radixMarks → c ≠ m := by
      rintro m hm rfl
      exact h _ hm ⟨rest, rfl⟩
    simp [hne 'x' (by decide), hne 'X' (by decide), hne 'o' (by decide), hne 'O' (by decide),
      hne 'b' (by decide), hne 'B' (by decide)]
  · rfl

/-- Each field denotes a number. -/
theorem exists_fieldDenotes (cs : List Char) : ∃ x, FieldDenotes cs x := by
  by_cases hne : cs = []
  · exact ⟨zero, by rw [hne]; exact .blank⟩
  · by_cases hdecimal : ∃ d, Spelling d cs
    · obtain ⟨d, hd⟩ := hdecimal
      obtain ⟨rank, hnearest⟩ := exists_isNearest d
      rcases Nat.lt_or_ge rank infinityRank with hrank | hrank
      · exact ⟨_, .decimal hd hnearest hrank⟩
      · exact ⟨_, .large hd hnearest hrank⟩
    · by_cases hinfinity : ∃ negative sign, SignSpelling negative sign ∧ cs = sign ++ infinityName
      · obtain ⟨negative, sign, hsign, rfl⟩ := hinfinity
        exact ⟨_, .infinity hsign⟩
      · refine ⟨_, .other hne (not_exists.mp hdecimal) fun negative sign hsign hcs => ?_⟩
        exact hinfinity ⟨negative, sign, hsign, hcs⟩

/-- A field without characters denotes zero, and nothing else. -/
theorem FieldDenotes.eq_zero {cs : List Char} {x : Binary64} (h : FieldDenotes cs x)
    (hnil : cs = []) : x = zero := by
  cases h with
  | blank => rfl
  | decimal hd _ _ | large hd _ _ =>
    obtain ⟨c, hmem, -⟩ := hd.exists_isDigit
    rw [hnil] at hmem
    cases hmem
  | infinity _ => exact absurd (List.append_eq_nil_iff.mp hnil).2 (by decide)
  | other hne _ _ => exact absurd hnil hne

theorem FieldDenotes.ofDecimalField_eq {cs : List Char} {x : Binary64} (h : FieldDenotes cs x)
    (hne : cs ≠ []) : ofDecimalField cs = x := by
  cases h with
  | blank => exact absurd rfl hne
  | decimal hd hnearest hrank => rw [ofDecimalField_of_spelling hd hnearest, dif_pos hrank]
  | large hd hnearest hrank =>
    rw [ofDecimalField_of_spelling hd hnearest, dif_neg (Nat.not_lt.mpr hrank)]
  | infinity hsign => exact ofDecimalField_infinityName hsign
  | other _ hdecimal hinfinity => exact ofDecimalField_other hdecimal hinfinity

section Fields

variable {raw : String} (hmark : ∀ mark ∈ radixMarks, ¬ mark <+: trimChars raw.toList)
include hmark

theorem FieldDenotes.ofField_eq {x : Binary64} (h : FieldDenotes (trimChars raw.toList) x) :
    ofField raw = x := by
  by_cases hne : trimChars raw.toList = []
  · rw [h.eq_zero hne, ofField, hne]
  · rw [ofField_eq_ofDecimalField hne (splitRadix?_eq_none hmark)]
    exact h.ofDecimalField_eq hne

/-- **A field without the mark of a radix** is read as what it denotes without the blanks
around it, and as nothing else. -/
theorem ofField_eq_iff (x : Binary64) :
    ofField raw = x ↔ FieldDenotes (trimChars raw.toList) x := by
  constructor
  · rintro rfl
    obtain ⟨x, hx⟩ := exists_fieldDenotes (trimChars raw.toList)
    rwa [FieldDenotes.ofField_eq hmark hx]
  · exact FieldDenotes.ofField_eq hmark

end Fields

/-- Half-way between two doubles, a literal denotes the even one. -/
theorem ofField_halfWay :
    (∀ mark ∈ radixMarks, ¬ mark <+: trimChars " -9007199254740993.0\n".toList) ∧
      ofField " -9007199254740993.0\n" = finite true ⟨0x4340000000000000, by decide⟩ := by
  have hmark : ∀ mark ∈ radixMarks, ¬ mark <+: trimChars " -9007199254740993.0\n".toList := by
    decide
  refine ⟨hmark, (ofField_eq_iff hmark _).mpr ?_⟩
  have hspelling : Spelling ⟨true, "90071992547409930".toList, -1⟩
      (trimChars " -9007199254740993.0\n".toList) := Decimal.read?_eq_some_iff.mp rfl
  have hunits : unitsOf 0x4340000000000000 + unitsOf 0x4340000000000001
      = 2 * (9007199254740993 * one) := by decide +kernel
  have hmagnitude : Decimal.magnitude ⟨true, "90071992547409930".toList, -1⟩
      = 9007199254740993 := by
    have hvalue : Numeral.value "90071992547409930".toList = 90071992547409930 := by decide
    rw [Decimal.magnitude, hvalue]
    norm_num
  have hrounds : RoundsTo (Decimal.magnitude ⟨true, "90071992547409930".toList, -1⟩ * one)
      0x4340000000000000 := by
    refine RoundsTo.of_eq_halfWay (r := 0x4340000000000000) ?_
    rw [hmagnitude, halfWay, hunits, Nat.cast_mul, Nat.cast_mul]
    norm_num
  exact .decimal hspelling hrounds.isNearest _

/-- A literal beyond the doubles is nearest to an infinity and yet denotes none. -/
theorem ofField_beyond :
    ∃ d rank, Spelling d "1e999".toList ∧ IsNearest (d.magnitude * one) rank ∧
      ofRank d.negative rank = infinite false ∧ ofField "1e999" = nan := by
  have hspelling : Spelling ⟨false, ['1'], 999⟩ "1e999".toList :=
    Decimal.read?_eq_some_iff.mp rfl
  obtain ⟨rank, hnearest⟩ := exists_isNearest ⟨false, ['1'], 999⟩
  refine ⟨_, rank, hspelling, hnearest, ?_, rfl⟩
  rw [← toBinary64_of_isNearest hspelling hnearest]
  rfl

end Binary64
end IndicatorStrategy

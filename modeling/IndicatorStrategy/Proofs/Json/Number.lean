import IndicatorStrategy.Json.Printer
import IndicatorStrategy.Json.Token
import IndicatorStrategy.Proofs.Binary64.Literal
/-!
# IndicatorStrategy.Proofs.Json.Number

**Printed numbers read back.** An integer of 64 bits is read as the integer, and the
text of a finite double as that double.

* A number lexeme ends where no digit, point or exponent follows it, so each reader is
  stated for a text followed by any rest that does not continue a number.
* A literal without point and exponent is an integer; any other is read as its decimal,
  which for the text of a double rounds to that double.
-/

namespace IndicatorStrategy
namespace Json

open Binary64 (RoundsTo Layout Literal)

/-- Whether a character behind a number would be read as a part of it. -/
def continuesNumber (c : Char) : Bool := c.isDigit || ['.', 'e', 'E'].contains c

variable {rest : List Char}

theorem stops_isDigit (h : Stops continuesNumber rest) : Stops Char.isDigit rest := by
  intro c hc
  have := h c hc
  simp only [continuesNumber, Bool.or_eq_false_iff] at this
  exact this.1

/-! ### The parts of a number -/

theorem readFraction_of_stops (h : Stops continuesNumber rest) :
    readFraction rest = some ([], rest) := by
  cases rest with
  | nil => rfl
  | cons c cs =>
    have hc : c ≠ '.' := by
      rintro rfl
      simp [continuesNumber] at h
    unfold readFraction
    split
    · simp_all
    · rfl

theorem readExponent_of_stops (h : Stops continuesNumber rest) :
    readExponent rest = some (none, rest) := by
  cases rest with
  | nil => rfl
  | cons c cs =>
    have hc : ¬(c = 'e' ∨ c = 'E') := by
      rintro (rfl | rfl) <;> simp [continuesNumber] at h
    rw [readExponent, if_neg hc]

theorem readExponentDigits_append (negative : Bool) (n : Nat) (h : Stops Char.isDigit rest) :
    readExponentDigits negative (Numeral.digits n ++ rest)
      = some (if negative then -(n : Int) else n, rest) := by
  have hd := Numeral.isDigit_of_mem_digits n
  rw [readExponentDigits]
  simp only [h.takeWhile_append hd, h.dropWhile_append hd, Numeral.value_digits,
    List.isEmpty_eq_false_iff.mpr (Numeral.digits_ne_nil _)]
  rfl

theorem readExponent_exponentChars (e? : Option Int) (h : Stops continuesNumber rest) :
    readExponent (Literal.exponentChars e? ++ rest) = some (e?, rest) := by
  cases e? with
  | none => exact readExponent_of_stops h
  | some e =>
    have hdigits := fun negative =>
      readExponentDigits_append negative e.natAbs (stops_isDigit h)
    simp only [Literal.exponentChars, List.cons_append, readExponent, true_or, if_true]
    by_cases he : e < 0
    · simp only [if_pos he, Decimal.splitSign, hdigits, Option.map_some, if_true,
        show -(e.natAbs : Int) = e by omega]
    · simp only [if_neg he, Decimal.splitSign, hdigits, Option.map_some, Bool.false_eq_true,
        if_false, show (e.natAbs : Int) = e by omega]

theorem readFraction_fraction {fs : List Char} (hf : ∀ c ∈ fs, c.isDigit = true)
    (e? : Option Int) (h : Stops continuesNumber rest) :
    readFraction (Binary64.fraction fs ++ (Literal.exponentChars e? ++ rest))
      = some (fs, Literal.exponentChars e? ++ rest) := by
  have hstops : Stops Char.isDigit (Literal.exponentChars e? ++ rest) := by
    cases e? with
    | none => exact stops_isDigit h
    | some e => simp [Literal.exponentChars]
  cases fs with
  | nil =>
    cases e? with
    | none => exact readFraction_of_stops h
    | some e => rfl
  | cons f fs =>
    rw [Binary64.fraction_eq (by simp), List.cons_append, readFraction]
    simp only [hstops.takeWhile_append hf, hstops.dropWhile_append hf]
    rfl

/-! ### Literals -/

variable {l : Literal}

theorem whole_accepted {whole : List Char} (h : Binary64.IsWhole whole) :
    (whole.isEmpty || (whole.head? == some '0' && 1 < whole.length)) = false := by
  rw [List.isEmpty_eq_false_iff.mpr h.nonempty, Bool.false_or, Bool.and_eq_false_imp]
  intro hh
  have := h.lead (by simpa using hh)
  simpa using this

/-- **A literal** is read as an integer where it is nothing but digits, and as a double
otherwise. -/
theorem readMagnitude_chars (hl : l.IsWellFormed) (negative : Bool)
    (h : Stops continuesNumber rest) :
    readMagnitude negative (l.chars ++ rest)
      = some (if l.isPlain then integerValue? negative l.whole
          else double? (l.decimal negative), rest) := by
  have htail := readFraction_fraction hl.fraction l.exponent? h
  have hstops : Stops Char.isDigit (Binary64.fraction l.fraction ++
      (Literal.exponentChars l.exponent? ++ rest)) := by
    -- the digits end at a point, at an exponent, or with the literal
    cases l.fraction with
    | cons f fs => simp [Binary64.fraction]
    | nil =>
      cases l.exponent? with
      | none => exact stops_isDigit h
      | some e => simp [Literal.exponentChars, Binary64.fraction]
  unfold readMagnitude
  rw [Literal.chars, List.append_assoc, List.append_assoc]
  simp only [hstops.takeWhile_append hl.whole.isDigit, hstops.dropWhile_append hl.whole.isDigit,
    whole_accepted hl.whole, htail, readExponent_exponentChars l.exponent? h]
  cases hexp : l.exponent? with
  | none =>
    simp only [Literal.isPlain, Literal.decimal, hexp, Option.isNone_none, Bool.and_true,
      Option.getD_none, zero_sub, Bool.false_eq_true, if_false]
    split <;> rfl
  | some e => simp [Literal.isPlain, Literal.decimal, hexp]

/-! ### Doubles -/

/-- The text of a zero. -/
theorem writes_zero : (⟨['0'], ['0'], none⟩ : Literal).Writes ['0', '.', '0'] 0 where
  wellFormed := ⟨Binary64.isWhole_zero, by simp⟩
  chars := rfl
  magnitude := by
    simp [Literal.magnitude, Literal.decimal, Decimal.magnitude, Numeral.value,
      Numeral.digitValue]

theorem readNumber_of_readMagnitude {cs : List Char} {r : Option Json × List Char}
    (h : readMagnitude false cs = some r) : readNumber cs = some r := by
  unfold readNumber
  split
  · simp [readMagnitude] at h
  · exact h

theorem double?_of_roundsTo {negative : Bool} {digits : List Char} {scale : Int}
    {rank : Fin infinityRank} (hd : ∀ c ∈ digits, c.isDigit = true)
    (h : RoundsTo ((⟨negative, digits, scale⟩ : Decimal).magnitude * Binary64.one) rank) :
    double? ⟨negative, digits, scale⟩ = some (.double negative rank) := by
  rw [double?, Decimal.toBinary64_eq hd h, Binary64.ofRank_val]

/-- A signed literal with a point or an exponent is read as the double to which it
rounds. -/
theorem readNumber_signed {cs : List Char} {q : ℚ} (hc : l.Writes cs q)
    (hplain : l.isPlain = false) {rank : Fin infinityRank}
    (hq : RoundsTo (q * Binary64.one) rank) (negative : Bool)
    (h : Stops continuesNumber rest) :
    readNumber ((Binary64.sign negative).toList ++ cs ++ rest)
      = some (some (.double negative rank), rest) := by
  obtain ⟨hl, rfl, rfl⟩ := hc
  have hdouble : double? (l.decimal negative) = some (.double negative rank) :=
    double?_of_roundsTo hl.isDigit hq
  have hread := readMagnitude_chars hl negative h
  rw [hplain, if_neg Bool.false_ne_true, hdouble] at hread
  cases negative with
  | false =>
    -- without a sign the text starts with a digit, so that it is not taken for one
    exact readNumber_of_readMagnitude hread
  | true => exact hread

/-- **The text of a finite double** is read as that double. -/
theorem readNumber_double (negative : Bool) (rank : Fin infinityRank)
    (h : Stops continuesNumber rest) :
    readNumber ((doubleLayout.finite negative rank).toList ++ rest)
      = some (some (.double negative rank), rest) := by
  unfold Layout.finite
  split
  · rename_i hz
    have hq : RoundsTo (0 * Binary64.one) rank := by
      rw [hz, zero_mul]
      exact RoundsTo.zero
    have := readNumber_signed writes_zero rfl hq negative h
    simpa [doubleLayout] using this
  · rename_i hz
    obtain ⟨l, q, hl, hq, hplain⟩ :=
      Binary64.exists_writes_magnitude doubleLayout (Nat.pos_of_ne_zero hz)
    have := readNumber_signed hl (hplain rfl) hq negative h
    simpa using this

/-! ### Integers -/

/-- The integers that are read as integers: those of 64 bits, signed below zero. -/
def IsWord (n : Int) : Prop := -(Numeral.limit63 : Int) ≤ n ∧ n < Numeral.limit64

theorem readMagnitude_digits (n : Nat) (negative : Bool) (h : Stops continuesNumber rest) :
    readMagnitude negative (Numeral.digits n ++ rest)
      = some (integerValue? negative (Numeral.digits n), rest) := by
  obtain ⟨hl, hchars, -⟩ := Literal.writes_digits n
  have hread := readMagnitude_chars hl negative h
  rw [hchars] at hread
  exact hread

/-- **The text of an integer** of 64 bits is read as that integer. -/
theorem readNumber_int {n : Int} (hn : IsWord n) (h : Stops continuesNumber rest) :
    readNumber ((Numeral.ofInt n).toList ++ rest) = some (some (.int n), rest) := by
  obtain ⟨hlow, hhigh⟩ := hn
  cases n with
  | ofNat n =>
    have hn : n < Numeral.limit64 := by simpa using hhigh
    refine readNumber_of_readMagnitude ?_
    rw [Numeral.ofInt, Numeral.ofNat, String.toList_ofList, readMagnitude_digits n false h,
      integerValue?]
    simp [hn]
  | negSucc n =>
    have hn : ¬(n + 1 = 0 ∨ Numeral.limit63 < n + 1) := by omega
    have hread := readMagnitude_digits (n + 1) true h
    have htext : (Numeral.ofInt (.negSucc n)).toList = '-' :: Numeral.digits (n + 1) := by
      simp [Numeral.ofInt, Numeral.ofNat]
    rw [htext]
    simp only [integerValue?, Numeral.value_digits, if_true, if_neg hn] at hread
    exact hread

end Json
end IndicatorStrategy

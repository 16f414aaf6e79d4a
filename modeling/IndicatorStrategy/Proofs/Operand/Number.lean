import IndicatorStrategy.Json.Printer
import IndicatorStrategy.Operand.Basic
import IndicatorStrategy.Proofs.Binary64.Literal
import IndicatorStrategy.Proofs.Binary64.Text
/-!
# IndicatorStrategy.Proofs.Operand.Number

**Number texts denote the number.** A form field that holds the text of a number is that
number again, and so is the JSON text of a finite number when it is read as a decimal.
Neither format keeps the sign of a zero; nothing else is lost. Two texts of one finite
parameter, in the expression and in the parameter array, hence name the same double.

A number text has no blanks to be trimmed and no mark of a radix, so it comes to the
reader of decimals as it was written. What is written is a literal with a sign, and which
of the formats wrote it no longer matters.
-/

namespace IndicatorStrategy
namespace Binary64

/-! ### Zeros -/

/-- A number without the sign of a zero. -/
def withPlainZero : Binary64 → Binary64
  | finite negative rank => if (rank : Nat) = 0 then zero else finite negative rank
  | x => x

theorem withPlainZero_of_pos (negative : Bool) {rank : Fin infinityRank}
    (h : 0 < (rank : Nat)) : (finite negative rank).withPlainZero = finite negative rank := by
  rw [withPlainZero, if_neg (by omega)]

theorem withPlainZero_of_zero (negative : Bool) {rank : Fin infinityRank}
    (h : (rank : Nat) = 0) : (finite negative rank).withPlainZero = zero := by
  rw [withPlainZero, if_pos h]

-- unification must not count the units
attribute [local irreducible] one unitsOf

/-- A double that equals an integer is a whole number with a sign. -/
theorem exists_of_toInt? {negative : Bool} {rank : Fin infinityRank} {n : Int}
    (h : (finite negative rank).toInt? = some n) :
    ∃ whole : Nat, unitsOf rank = whole * one ∧ n = if negative then -(whole : Int) else whole := by
  rw [toInt?] at h
  simp only [Option.ite_none_right_eq_some, Option.some.injEq] at h
  obtain ⟨hwhole, hn⟩ := h
  have hunits := Nat.div_mul_cancel (Nat.dvd_of_mod_eq_zero hwhole)
  exact ⟨_, hunits.symm, hn.symm⟩

theorem natAbs_of_toInt? {negative : Bool} {rank : Fin infinityRank} {n : Int}
    (h : (finite negative rank).toInt? = some n) : unitsOf rank = n.natAbs * one := by
  obtain ⟨whole, hunits, rfl⟩ := exists_of_toInt? h
  cases negative <;> simpa using hunits

/-- A whole number has the sign of its integer, a zero apart. -/
theorem withPlainZero_of_toInt? {negative : Bool} {rank : Fin infinityRank} {n : Int}
    (h : (finite negative rank).toInt? = some n) :
    (finite negative rank).withPlainZero = finite (n < 0) rank := by
  obtain ⟨whole, hunits, rfl⟩ := exists_of_toInt? h
  rcases Nat.eq_zero_or_pos (rank : Nat) with hzero | hpos
  · have hwhole : whole = 0 := by
      rw [hzero, unitsOf_zero] at hunits
      exact (Nat.mul_eq_zero.mp hunits.symm).resolve_right one_units_pos.ne'
    have hrank : rank = ⟨0, by decide⟩ := Fin.ext hzero
    rw [withPlainZero_of_zero negative hzero, hwhole, hrank]
    cases negative <;> rfl
  · have hwhole : 0 < whole := by
      have hlt := strictMono_unitsOf hpos
      rw [unitsOf_zero, hunits] at hlt
      exact Nat.pos_of_mul_pos_right hlt
    rw [withPlainZero_of_pos negative hpos]
    cases negative with
    | false => simp
    | true => simpa using hwhole

/-! ### Texts as decimals -/

/-- The number that a text writes as a decimal. -/
def decimal? (s : String) : Option Binary64 := (Decimal.read? s.toList).map Decimal.toBinary64

/-- The text of a double that is not zero is that double, in every layout. -/
theorem decimal?_finite (layout : Layout) (negative : Bool) {rank : Fin infinityRank}
    (h : 0 < (rank : Nat)) :
    decimal? (layout.finite negative rank) = some (finite negative rank) := by
  obtain ⟨l, q, hl, hq, -⟩ := exists_writes_magnitude layout h
  rw [decimal?, Layout.finite, if_neg (by omega), String.toList_append, String.toList_ofList,
    decimal_of_writes hl hq, ofRank_val]

theorem read?_finite (layout : Layout) (negative : Bool) {rank : Fin infinityRank}
    (h : 0 < (rank : Nat)) :
    read? (layout.finite negative rank).toList = some (finite negative rank) := by
  have hdecimal := decimal?_finite layout negative h
  obtain ⟨l, q, hl, -⟩ := exists_writes_magnitude layout h
  rw [decimal?] at hdecimal
  rw [← hdecimal, Layout.finite, if_neg (by omega), String.toList_append, String.toList_ofList,
    read?_of_writes hl]

theorem toList_ofInt (n : Int) :
    (Numeral.ofInt n).toList = (sign (n < 0)).toList ++ Numeral.digits n.natAbs := by
  cases n with
  | ofNat n => simp [Numeral.ofInt, Numeral.ofNat, sign]
  | negSucc n => simp [Numeral.ofInt, Numeral.ofNat, sign]

/-- The digits of a whole number are that number. -/
theorem decimal?_ofInt {negative : Bool} {rank : Fin infinityRank} {n : Int}
    (h : (finite negative rank).toInt? = some n) :
    decimal? (Numeral.ofInt n) = some (finite negative rank).withPlainZero := by
  have hq : RoundsTo ((n.natAbs : ℚ) * one) rank := by
    have hunits : (n.natAbs : ℚ) * one = unitsOf rank := by
      exact_mod_cast (natAbs_of_toInt? h).symm
    rw [hunits]
    exact .self rank
  rw [decimal?, toList_ofInt, decimal_of_writes (Literal.writes_digits _) hq, ofRank_val,
    withPlainZero_of_toInt? h]

/-! ### Form fields -/

theorem isWhiteSpace_of_isNumberChar {c : Char} (h : isNumberChar c = true) :
    isWhiteSpace c = false := by
  simp only [isNumberChar, Bool.or_eq_true, List.contains_iff_mem] at h
  rcases h with h | h
  · obtain ⟨hlow, hhigh⟩ : 48 ≤ c.toNat ∧ c.toNat ≤ 57 := Char.isDigit_iff_toNat.mp h
    simp [isWhiteSpace]
    omega
  · have hall : ∀ d ∈ ['.', 'e', '+', '-', 'N', 'a', 'I', 'n', 'f', 'i', 't', 'y'],
        isWhiteSpace d = false := by simp [isWhiteSpace]
    exact hall c h

theorem trimChars_of_isNumberText {cs : List Char} (h : IsNumberText cs) :
    trimChars cs = cs := by
  have hkept : ∀ {ds : List Char}, (∀ c ∈ ds, isNumberChar c = true) →
      ds.dropWhile isWhiteSpace = ds := by
    intro ds hds
    cases ds with
    | nil => rfl
    | cons d ds =>
      rw [List.dropWhile_cons, isWhiteSpace_of_isNumberChar (hds d List.mem_cons_self)]
      rfl
  rw [trimChars, hkept h.chars, hkept fun c hc => h.chars c (List.mem_reverse.mp hc),
    List.reverse_reverse]

/-- A number text does not begin with the mark of a radix. -/
theorem splitRadix?_of_isNumberText {cs : List Char} (h : IsNumberText cs) :
    splitRadix? cs = none := by
  unfold splitRadix?
  split
  · rename_i c cs
    have hc : isNumberChar c = true := h.chars c (by simp)
    have hne : ∀ m : Char, isNumberChar m = false → c ≠ m := by
      intro m hm hcm
      rw [hcm, hm] at hc
      cases hc
    simp [hne 'x' (by decide), hne 'X' (by decide), hne 'o' (by decide), hne 'O' (by decide),
      hne 'b' (by decide), hne 'B' (by decide)]
  · rfl

/-- A field is read as a decimal if it is not blank and has no mark of a radix. -/
theorem ofField_eq_ofDecimalField {s : String} (hne : trimChars s.toList ≠ [])
    (hmark : splitRadix? (trimChars s.toList) = none) :
    ofField s = ofDecimalField (trimChars s.toList) := by
  unfold ofField
  split
  · exact absurd ‹_› hne
  · rw [hmark]

/-- A field that holds a number text is read as a decimal. -/
theorem ofField_of_isNumberText {s : String} (h : IsNumberText s.toList) :
    ofField s = ofDecimalField s.toList := by
  have htrim := trimChars_of_isNumberText h
  rw [ofField_eq_ofDecimalField, htrim]
  · rw [htrim]
    exact h.nonempty
  · rw [htrim]
    exact splitRadix?_of_isNumberText h

theorem expressionText_of_zero {negative : Bool} {rank : Fin infinityRank}
    (h : (rank : Nat) = 0) : (finite negative rank).expressionText = "0" := by
  rw [expressionText, Layout.finite, if_pos h]
  rfl

/-- **The text of a number in an expression** is read as that number. -/
theorem ofField_expressionText (x : Binary64) : ofField x.expressionText = x.withPlainZero := by
  cases x with
  | nan => rfl
  | infinite negative => cases negative <;> rfl
  | finite negative rank =>
    rcases Nat.eq_zero_or_pos (rank : Nat) with hzero | hpos
    · rw [withPlainZero_of_zero negative hzero, expressionText_of_zero hzero]
      decide
    · have hread : read? (finite negative rank).expressionText.toList
          = some (finite negative rank) := read?_finite expressionLayout negative hpos
      rw [ofField_of_isNumberText (isNumberText_expressionText _), ofDecimalField, hread,
        withPlainZero_of_pos negative hpos]

/-! ### JSON -/

theorem toInt?_of_zero {negative : Bool} {rank : Fin infinityRank} (h : (rank : Nat) = 0) :
    (finite negative rank).toInt? = some 0 := by
  rw [toInt?, h, unitsOf_zero]
  cases negative <;> simp

/-- A finite number is an integer or a double above zero. -/
theorem toJson_finite (negative : Bool) (rank : Fin infinityRank) :
    (∃ n, (finite negative rank).toInt? = some n ∧ (finite negative rank).toJson = .int n) ∨
      0 < (rank : Nat) ∧ (finite negative rank).toJson = .double negative rank := by
  rcases Nat.eq_zero_or_pos (rank : Nat) with hzero | hpos
  · refine .inl ⟨0, toInt?_of_zero hzero, ?_⟩
    rw [toJson, toInt?_of_zero hzero]
    rfl
  · unfold toJson
    split
    · rename_i n hn
      split
      · exact .inl ⟨n, hn, rfl⟩
      · exact .inr ⟨hpos, rfl⟩
    · exact .inr ⟨hpos, rfl⟩

theorem toJson_eq_null (x : Binary64) : x.toJson = .null ↔ x.isFinite = false := by
  cases x with
  | nan => exact iff_of_true rfl rfl
  | infinite negative => exact iff_of_true rfl rfl
  | finite negative rank =>
    rcases toJson_finite negative rank with ⟨n, -, h⟩ | ⟨-, h⟩ <;> simp [h, isFinite]

/-- **The JSON text of a finite number** is that number as a decimal, and that of any other
number is none. -/
theorem decimal?_toJson (x : Binary64) :
    decimal? x.toJson.compact = if x.isFinite then some x.withPlainZero else none := by
  cases x with
  | nan => rfl
  | infinite negative => cases negative <;> rfl
  | finite negative rank =>
    rw [isFinite, if_pos rfl]
    rcases toJson_finite negative rank with ⟨n, hn, h⟩ | ⟨hpos, h⟩
    · rw [h, Json.compact, decimal?_ofInt hn]
    · rw [h, Json.compact, decimal?_finite _ negative hpos, withPlainZero_of_pos negative hpos]

/-! ### Bit patterns -/

theorem isNaN_ofBits {bits : Nat} :
    (ofBits bits).isNaN = decide (infinityRank < bits % signBit) := by
  unfold ofBits ofRank
  simp only
  split_ifs <;> simp_all [isNaN]

/-- The bits of a number are the ones it was made of, but for a payload. -/
theorem toBits_ofBits {bits : Nat} (hbits : bits < Numeral.limit64)
    (h : (ofBits bits).isNaN = false) : (ofBits bits).toBits = bits := by
  rw [isNaN_ofBits, decide_eq_false_iff_not] at h
  rw [ofBits, if_neg h, ofRank]
  simp only [infinityRank, signBit, Numeral.limit64] at hbits h
  split_ifs with hrank
  · simp only [toBits, decide_eq_true_eq, signBit]
    split_ifs <;> omega
  · simp only [infinityRank, signBit] at hrank
    simp only [toBits, decide_eq_true_eq, signBit, infinityRank]
    split_ifs <;> omega

/-- Only one pattern of bits is that of a zero with a sign. -/
theorem withPlainZero_of_toBits {x : Binary64} (h : x.toBits ≠ signBit) :
    x.withPlainZero = x := by
  cases x with
  | nan => rfl
  | infinite negative => rfl
  | finite negative rank =>
    rcases Nat.eq_zero_or_pos (rank : Nat) with hzero | hpos
    · have hrank : rank = ⟨0, by decide⟩ := Fin.ext hzero
      cases negative with
      | false => rw [withPlainZero_of_zero false hzero, hrank, zero]
      | true => exact absurd (by rw [toBits, hrank]; rfl) h
    · exact withPlainZero_of_pos negative hpos

theorem toBits_withPlainZero {bits : Nat} (hbits : bits < Numeral.limit64) :
    (ofBits bits).withPlainZero.toBits = if (ofBits bits).isNaN then nan.toBits
      else if bits = signBit then 0 else bits := by
  split_ifs with hnan hsign
  · cases h : ofBits bits with
    | nan => rfl
    | infinite | finite => simp [h, isNaN] at hnan
  · rw [hsign]
    rfl
  · have hsame := toBits_ofBits hbits (by simpa using hnan)
    rw [withPlainZero_of_toBits (by rwa [hsame]), hsame]

theorem isNaN_eq_false_of_isFinite {x : Binary64} (h : x.isFinite = true) : x.isNaN = false := by
  cases x <;> simp_all [isFinite, isNaN]

/-- **Number texts denote the number**, for every pattern of bits: what a form field makes
of the text in the expression, what the text in JSON is as a decimal, and that both texts
of one parameter are the same number where it is finite. -/
theorem texts_denote_number (bits : Fin Numeral.limit64) :
    let x := ofBits bits
    let plain := if (bits : Nat) = signBit then 0 else (bits : Nat)
    (ofField x.expressionText).toBits = (if x.isNaN then nan.toBits else plain) ∧
      (decimal? x.toJson.compact).map toBits = (if x.isFinite then some plain else none) ∧
      (x.toJson = .null ↔ x.isFinite = false) ∧
      decimal? (Operand.number x).toJson.compact
        = if x.isFinite then some (ofField (Operand.number x).render) else none := by
  intro x plain
  have hbits : x.withPlainZero.toBits = if x.isNaN then nan.toBits else plain :=
    toBits_withPlainZero bits.isLt
  refine ⟨?_, ?_, toJson_eq_null x, ?_⟩
  · rw [ofField_expressionText, hbits]
  · rw [decimal?_toJson]
    split
    · rename_i hfinite
      rw [Option.map_some, hbits, isNaN_eq_false_of_isFinite hfinite]
      rfl
    · rfl
  · show decimal? x.toJson.compact = if x.isFinite then some (ofField x.expressionText) else none
    rw [decimal?_toJson, ofField_expressionText]

end Binary64
end IndicatorStrategy

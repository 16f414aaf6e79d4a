import IndicatorStrategy.Proofs.Binary64.Whole
import IndicatorStrategy.Proofs.Operand.Number
/-!
# IndicatorStrategy.Proofs.Operand.Digits

**How numbers are written in an expression**, measured by the rule that a number is written
with the fewest digits that read back. The rule says where the point and the exponent
stand: up to 21 digits in front of the point a number is written in full, padded with
zeros, and so is one with less than six zeros behind the point; any other has an exponent.

The rule holds but for whole numbers below `10 ^ 21`, which are written with all digits of
their exact value. These are the fewest digits padded with zeros as long as every whole
number of that size is a double (`expressionText_digits`). Above that they need not be: of
`2 ^ 64` twenty digits are written, where seventeen and three zeros would do.
-/

namespace IndicatorStrategy
namespace Binary64

-- unification must not count the units
attribute [local irreducible] one unitsOf

/-! ### The rule -/

/-- Digits whose point stands behind the first `point` of them. -/
def writtenDigits (ds : List Char) (point : Int) : List Char :=
  if point < -5 ∨ 21 < point then
    let e := point - 1
    ds.take 1 ++ (if ds.length = 1 then [] else '.' :: ds.drop 1) ++
      'e' :: (if e < 0 then '-' else '+') :: Numeral.digits e.natAbs
  else if point ≤ 0 then '0' :: '.' :: List.replicate (-point).toNat '0' ++ ds
  else if point < ds.length then ds.take point.toNat ++ '.' :: ds.drop point.toNat
  else ds ++ List.replicate (point - ds.length).toNat '0'

/-- A text writes a finite double with the fewest digits that read back; zero has no
sign. -/
def WritesFewest (negative : Bool) (rank : Nat) (text : String) : Prop :=
  rank = 0 ∧ text = "0" ∨
    0 < rank ∧ ∃ s : Scientific, s.IsShortest rank ∧
      text = sign negative ++ String.ofList (writtenDigits s.digits (s.exponent + 1))

/-! ### The forms of the rule -/

variable {s : Scientific} {rank n : Nat}

theorem exponential_eq (hs : s.IsNormal) (h : s.exponent < -6 ∨ 21 ≤ s.exponent) :
    s.exponential = writtenDigits s.digits (s.exponent + 1) := by
  have hlen : 0 < s.digits.length := List.length_pos_iff.mpr hs.nonempty
  have hfraction : fraction (s.digits.drop 1)
      = if s.digits.length = 1 then [] else '.' :: s.digits.drop 1 := by
    split
    · rename_i hone
      rw [List.drop_eq_nil_of_le hone.le, fraction]
    · exact fraction_eq (by rw [Ne, List.drop_eq_nil_iff]; omega)
  rw [writtenDigits, if_pos (by omega), Scientific.exponential, hfraction, add_sub_cancel_right]

/-- A positional text with a fraction. -/
theorem positional_eq (hlow : -6 ≤ s.exponent) (hhigh : s.exponent < 21)
    (h : s.exponent < 0 ∨ s.exponent + 1 < s.digits.length) :
    s.positional = writtenDigits s.digits (s.exponent + 1) := by
  rw [writtenDigits, if_neg (by omega), Scientific.positional]
  by_cases hneg : s.exponent < 0
  · rw [if_pos hneg, if_pos (by omega), zeros, show -s.exponent - 1 = -(s.exponent + 1) by omega]
  · have hsplit : ¬ s.digits.length ≤ s.exponent.toNat + 1 := by omega
    have hplaces : (s.exponent + 1).toNat = s.exponent.toNat + 1 := by omega
    simp only [if_neg hneg, if_neg hsplit, if_neg (show ¬ s.exponent + 1 ≤ 0 by omega),
      if_pos (show s.exponent + 1 < s.digits.length by omega), hplaces]

/-- All digits of a whole number, as the rule pads them with zeros. -/
theorem writtenDigits_ofMultiple (hn : 0 < n) (h : n < 10 ^ 21) :
    let s := Scientific.ofMultiple n 0
    writtenDigits s.digits (s.exponent + 1) = Numeral.digits n := by
  intro s
  obtain ⟨k, hk⟩ := exists_dropZeros_append (Numeral.digits n)
  have hlen := Numeral.length_digits_le hn h
  have hpos : 0 < (Numeral.digits n).length := List.length_pos_iff.mpr (Numeral.digits_ne_nil n)
  have hpoint : s.exponent + 1 = (Numeral.digits n).length := by
    simp only [s, Scientific.ofMultiple]
    omega
  have hzeros : (Numeral.digits n).length = (dropZeros (Numeral.digits n)).length + k := by
    conv_lhs => rw [← hk]
    simp
  have hdigits : s.digits = dropZeros (Numeral.digits n) := rfl
  rw [hpoint, hdigits, writtenDigits, if_neg (by omega), if_neg (by omega), if_neg (by omega)]
  conv_rhs => rw [← hk]
  congr 2
  omega

/-- Where the rule writes nothing but digits, they are the given ones and zeros. -/
theorem length_dropZeros_of_writtenDigits {ds : List Char} {point : Int}
    (h : writtenDigits ds point = Numeral.digits n) :
    (dropZeros (Numeral.digits n)).length ≤ ds.length := by
  have hdigit := Numeral.isDigit_of_mem_digits n
  rw [← h] at hdigit ⊢
  unfold writtenDigits at hdigit ⊢
  split_ifs at hdigit ⊢
  · exact absurd (hdigit 'e' (by simp)) (by decide)
  · exact absurd (hdigit 'e' (by simp)) (by decide)
  · exact absurd (hdigit '.' (by simp)) (by decide)
  · exact absurd (hdigit '.' (by simp)) (by decide)
  · rw [dropZeros_append_zeros]
    exact length_dropZeros_le ds

/-! ### Whole numbers -/

/-- Digits that end before the point stand for a whole number. -/
theorem exists_magnitude_eq (h : s.digits.length ≤ s.exponent + 1) :
    ∃ k, s.magnitude = (Numeral.value s.digits * 10 ^ k : Nat) := by
  obtain ⟨k, hk⟩ := Int.eq_ofNat_of_zero_le (show 0 ≤ s.exponent + 1 - s.digits.length by omega)
  refine ⟨k, ?_⟩
  rw [Scientific.magnitude, hk, zpow_natCast]
  push_cast
  rfl

/-- A number that is not whole has digits behind the point. -/
theorem exponent_lt_of_not_whole (hs : s.IsShortest rank) (h : ¬ one ∣ unitsOf rank) :
    s.exponent + 1 < s.digits.length := by
  by_contra hge
  obtain ⟨k, hmag⟩ := exists_magnitude_eq (Int.not_lt.mp hge)
  have hround := hs.rounds
  rw [hmag] at hround
  have hrank : unitsOf rank < 2 ^ 53 * one := Nat.lt_of_not_le fun hle => h (one_dvd_unitsOf hle)
  exact h ⟨_, (unitsOf_eq_of_roundsTo_whole hrank hround).trans (Nat.mul_comm ..)⟩

section Whole

variable (hunits : unitsOf rank = n * one)
include hunits

/-- **All digits** of a whole number are the fewest if there are none that are fewer than
these without the zeros at their end. -/
theorem isShortest_ofMultiple_iff (hn : 0 < n) :
    (Scientific.ofMultiple n 0).IsShortest rank ↔
      ∀ t : Scientific, t.IsNormal → RoundsTo (t.magnitude * one) rank →
        (dropZeros (Numeral.digits n)).length ≤ t.digits.length := by
  have hmag : (Scientific.ofMultiple n 0).magnitude * one = unitsOf rank := by
    rw [magnitude_ofMultiple, zpow_zero, mul_one, hunits, Nat.cast_mul]
  refine ⟨fun hs => hs.fewest, fun hfewest => ⟨isNormal_ofMultiple _ hn, ?_, hfewest, ?_⟩⟩
  · rw [hmag]
    exact .self rank
  · intro t _ _ _
    rw [hmag, distance_of_le le_rfl, sub_self]
    exact abs_nonneg _

/-- **As long as the doubles next to it are whole** a whole number has no digits that are
fewer: a number with digits behind the point either has as many in front of it, or a power
of ten lies between the two. -/
theorem isShortest_ofMultiple (hn : 0 < n) (hlt : n < 2 ^ 53) :
    (Scientific.ofMultiple n 0).IsShortest rank := by
  have hrank : unitsOf rank < 2 ^ 53 * one :=
    hunits.trans_lt (Nat.mul_lt_mul_of_pos_right hlt one_units_pos)
  have hsame {m : Nat} (h : RoundsTo (m * one) rank) : n = m :=
    Nat.eq_of_mul_eq_mul_right one_units_pos
      (hunits.symm.trans (unitsOf_eq_of_roundsTo_whole hrank h))
  rw [isShortest_ofMultiple_iff hunits hn]
  intro t ht hround
  -- the other number has digits behind the point, or it is whole
  rcases Int.lt_or_le (t.exponent + 1) t.digits.length with hpoint | hwhole
  · by_contra hfew
    have hsome := List.length_pos_iff.mpr ht.nonempty
    have hlen := length_dropZeros_le (Numeral.digits n)
    have hpow := Numeral.pow_length_digits_le hn
    obtain ⟨k, hk⟩ : ∃ k, (Numeral.digits n).length - 1 = k := ⟨_, rfl⟩
    rw [hk] at hpow
    -- a power of ten lies between the two numbers, so it is the whole number itself
    have hbetween : RoundsTo ((10 ^ k : Nat) * one) rank := by
      refine hround.convex (.self rank) ?_ ?_
      · have hmag := (ht.magnitude_lt (show t.exponent < k by omega)).le
        rw [zpow_natCast] at hmag
        push_cast
        gcongr
      · rw [hunits]
        exact_mod_cast Nat.mul_le_mul_right one hpow
    have hshort := length_dropZeros_mul_pow Nat.one_pos (show 1 < 10 ^ 1 by decide) k
    rw [Nat.one_mul, ← hsame hbetween] at hshort
    omega
  · obtain ⟨k, hmag⟩ := exists_magnitude_eq hwhole
    rw [hmag] at hround
    have hvalue := hsame hround
    have hpos : 0 < Numeral.value t.digits := Nat.pos_of_mul_pos_right (hvalue ▸ hn)
    rw [hvalue]
    exact length_dropZeros_mul_pow hpos (Numeral.value_lt ht.isDigit) k

end Whole

/-! ### The text in an expression -/

theorem magnitude_expressionLayout (rank : Nat) :
    expressionLayout.magnitude rank =
      let s := shortest .up rank
      if s.exponent < -6 ∨ 21 ≤ s.exponent then s.exponential
      else if unitsOf rank % one = 0 then Numeral.digits (unitsOf rank / one)
      else s.positional :=
  rfl

/-- Below the limit a whole number is written with all its digits. -/
theorem magnitude_of_whole (h : 0 < rank) (hunits : unitsOf rank = n * one) (hn : 0 < n)
    (hlt : n < 10 ^ 21) : expressionLayout.magnitude rank = Numeral.digits n := by
  have hs : (shortest .up rank).IsShortest rank := isShortest_shortest .up h
  have hlow := le_exponent_of_pow_le (k := 0) hunits hs hn
  have hlimit := (exponent_lt_iff (k := 21) hunits hs (by decide)).mpr hlt
  rw [magnitude_expressionLayout, hunits]
  simp only
  rw [if_neg (by omega), if_pos (Nat.mul_mod_left n one), Nat.mul_div_cancel _ one_units_pos]

/-- **Any other number** is written by the rule. -/
theorem magnitude_eq_writtenDigits (h : 0 < rank)
    (hother : one ∣ unitsOf rank → 10 ^ 21 * one ≤ unitsOf rank) :
    let s := shortest .up rank
    expressionLayout.magnitude rank = writtenDigits s.digits (s.exponent + 1) := by
  intro s
  have hs : s.IsShortest rank := isShortest_shortest .up h
  rw [magnitude_expressionLayout]
  by_cases hexp : s.exponent < -6 ∨ 21 ≤ s.exponent
  · rw [← exponential_eq hs.normal hexp]
    exact if_pos hexp
  · obtain ⟨hlow, hhigh⟩ : -6 ≤ s.exponent ∧ s.exponent < 21 := by omega
    -- a whole number in this range would be below the limit
    have hwhole : ¬ one ∣ unitsOf rank := by
      intro hdvd
      obtain ⟨n, hn⟩ := hdvd
      rw [Nat.mul_comm] at hn
      have hge := Nat.le_of_mul_le_mul_right (hn ▸ hother ⟨n, by rw [hn, Nat.mul_comm]⟩)
        one_units_pos
      have := (exponent_lt_iff (k := 21) hn hs (by decide)).mp hhigh
      omega
    rw [← positional_eq hlow hhigh (.inr (exponent_lt_of_not_whole hs hwhole))]
    exact (if_neg hexp).trans (if_neg fun hmod => hwhole (Nat.dvd_of_mod_eq_zero hmod))

variable {negative : Bool} {rank : Fin infinityRank} {n : Int}

theorem expressionText_of_pos (h : 0 < (rank : Nat)) :
    (finite negative rank).expressionText
      = sign negative ++ String.ofList (expressionLayout.magnitude rank) := by
  rw [expressionText, Layout.finite, if_neg h.ne']

/-- A whole number is zero when its rank is. -/
theorem ne_zero_iff (h : (finite negative rank).toInt? = some n) : n ≠ 0 ↔ 0 < (rank : Nat) := by
  have hunits := natAbs_of_toInt? h
  constructor
  · intro hne
    by_contra hzero
    rw [Nat.eq_zero_of_not_pos hzero, unitsOf_zero] at hunits
    have := (Nat.mul_eq_zero.mp hunits.symm).resolve_right one_units_pos.ne'
    omega
  · rintro hpos rfl
    have hlt := strictMono_unitsOf hpos
    rw [unitsOf_zero, hunits] at hlt
    simp at hlt

/-- **A whole number below the limit** has the text of its integer. -/
theorem expressionText_whole (h : (finite negative rank).toInt? = some n)
    (hlt : n.natAbs < 10 ^ 21) : (finite negative rank).expressionText = Numeral.ofInt n := by
  rw [← String.toList_inj, toList_ofInt]
  rcases Nat.eq_zero_or_pos (rank : Nat) with hzero | hpos
  · rw [toInt?_of_zero hzero] at h
    rw [expressionText_of_zero hzero, ← Option.some.inj h, Int.natAbs_zero,
      Numeral.digits_of_lt (by decide)]
    rfl
  · have hne := (ne_zero_iff h).mpr hpos
    have hsign := withPlainZero_of_toInt? h
    rw [withPlainZero_of_pos _ hpos] at hsign
    injection hsign with hnegative
    rw [expressionText_of_pos hpos,
      magnitude_of_whole hpos (natAbs_of_toInt? h) (Int.natAbs_pos.mpr hne) hlt, hnegative,
      String.toList_append, String.toList_ofList]

/-- A whole number below the limit is written by the rule when all its digits are the
fewest. -/
theorem writesFewest_whole (hpos : 0 < (rank : Nat)) (h : (finite negative rank).toInt? = some n)
    (hlt : n.natAbs < 10 ^ 21) :
    WritesFewest negative rank (finite negative rank).expressionText ↔
      (Scientific.ofMultiple n.natAbs 0).IsShortest rank := by
  have hunits := natAbs_of_toInt? h
  have hn : 0 < n.natAbs := Int.natAbs_pos.mpr ((ne_zero_iff h).mpr hpos)
  rw [expressionText_of_pos hpos, magnitude_of_whole hpos hunits hn hlt]
  constructor
  · rintro (⟨hzero, -⟩ | ⟨-, s, hs, htext⟩)
    · omega
    · have hdigits : writtenDigits s.digits (s.exponent + 1) = Numeral.digits n.natAbs := by
        rw [← String.toList_inj] at htext
        simpa using htext.symm
      rw [isShortest_ofMultiple_iff hunits hn]
      exact fun t ht hround =>
        (length_dropZeros_of_writtenDigits hdigits).trans (hs.fewest t ht hround)
  · intro hs
    refine .inr ⟨hpos, _, hs, ?_⟩
    rw [writtenDigits_ofMultiple hn hlt]

/-- Any other number is written by the rule. -/
theorem writesFewest_other (h : ∀ n, (finite negative rank).toInt? = some n →
      n ≠ 0 → 10 ^ 21 ≤ n.natAbs) :
    WritesFewest negative rank (finite negative rank).expressionText := by
  rcases Nat.eq_zero_or_pos (rank : Nat) with hzero | hpos
  · exact .inl ⟨hzero, expressionText_of_zero hzero⟩
  · refine .inr ⟨hpos, _, isShortest_shortest .up hpos, ?_⟩
    rw [expressionText_of_pos hpos, magnitude_eq_writtenDigits hpos]
    intro hdvd
    have hwhole : ∃ n, (finite negative rank).toInt? = some n :=
      ⟨_, if_pos (Nat.mod_eq_zero_of_dvd hdvd)⟩
    obtain ⟨n, hn⟩ := hwhole
    rw [natAbs_of_toInt? hn]
    exact Nat.mul_le_mul_right one (h n hn ((ne_zero_iff hn).mpr hpos))

/-- **How finite numbers are written in an expression.** A whole number below `10 ^ 21` has
the text of its integer. A number is written with the fewest digits that read back, unless
it is a whole number of this size for which fewer digits do than all of its own. There is
none below `2 ^ 53`. -/
theorem expressionText_digits (negative : Bool) (rank : Fin infinityRank) :
    let x := finite negative rank
    (∀ n, x.toInt? = some n → n.natAbs < 10 ^ 21 → x.expressionText = Numeral.ofInt n) ∧
      (WritesFewest negative rank x.expressionText ↔
        ∀ n, x.toInt? = some n → n ≠ 0 → n.natAbs < 10 ^ 21 →
          (Scientific.ofMultiple n.natAbs 0).IsShortest rank) ∧
      (∀ n, x.toInt? = some n → n ≠ 0 → n.natAbs < 2 ^ 53 →
        (Scientific.ofMultiple n.natAbs 0).IsShortest rank) := by
  intro x
  refine ⟨fun n hn hlt => expressionText_whole hn hlt, ⟨fun h n hn hne hlt => ?_, fun h => ?_⟩,
    fun n hn hne hlt => isShortest_ofMultiple (natAbs_of_toInt? hn) (Int.natAbs_pos.mpr hne) hlt⟩
  · exact (writesFewest_whole ((ne_zero_iff hn).mp hne) hn hlt).mp h
  · by_cases hwhole : ∃ n, x.toInt? = some n ∧ n ≠ 0 ∧ n.natAbs < 10 ^ 21
    · obtain ⟨n, hn, hne, hlt⟩ := hwhole
      exact (writesFewest_whole ((ne_zero_iff hn).mp hne) hn hlt).mpr (h n hn hne hlt)
    · exact writesFewest_other fun n hn hne =>
        Nat.le_of_not_lt fun hlt => hwhole ⟨n, hn, hne, hlt⟩

/-- The digits that the rule writes of `2 ^ 64`. -/
theorem shortest_twoPow64 :
    shortest .up 0x43f0000000000000 = ⟨"18446744073709552".toList, 19⟩ := by
  have hwhole : unitsOf 0x43f0000000000000 / one = 18446744073709551616 := by decide +kernel
  have hfirst : leadingExponent (unitsOf 0x43f0000000000000) = 19 := by
    rw [leadingExponent, if_pos (by decide +kernel), hwhole]
    cbv
  have hcoarse : ∀ j : Nat, j < 16 → onGrid? .up 0x43f0000000000000 (19 - j) = none := by
    decide +kernel
  have hfine : onGrid? .up 0x43f0000000000000 (19 - 16) = some 18446744073709552 := by
    decide +kernel
  have hfound := shortest_eq_of_onGrid? (k := 16) (by decide) hfirst hcoarse
    (by rw [Nat.cast_ofNat]; exact hfine)
  rw [hfound]
  cbv

/-- Of `2 ^ 64` all twenty digits are written, and not the seventeen that read back with
three zeros. -/
theorem not_writesFewest_twoPow64 :
    let rank := 0x43f0000000000000
    let x := finite false ⟨rank, by decide⟩
    x.toInt? = some (2 ^ 64) ∧ x.expressionText = "18446744073709551616" ∧
      WritesFewest false rank "18446744073709552000" ∧
      ¬ WritesFewest false rank x.expressionText := by
  intro rank x
  have hwhole : x.toInt? = some 18446744073709551616 := by decide +kernel
  have hshortest := isShortest_shortest .up (show 0 < 0x43f0000000000000 by decide)
  rw [shortest_twoPow64] at hshortest
  have hall : (dropZeros (Numeral.digits 18446744073709551616)).length = 20 := by cbv
  refine ⟨hwhole, ?_, .inr ⟨by decide, _, hshortest, ?_⟩, fun hfewest => ?_⟩
  · rw [expressionText_whole hwhole (by decide)]
    cbv
  · decide +kernel
  · have hdigits := (writesFewest_whole (by decide) hwhole (by decide)).mp hfewest
    have hlen := hdigits.fewest _ hshortest.normal hshortest.rounds
    exact absurd (hall.symm.trans_le hlen) (by decide)

end Binary64
end IndicatorStrategy

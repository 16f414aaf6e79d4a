import IndicatorStrategy.Proofs.Binary64.Fewest
/-!
# IndicatorStrategy.Proofs.Binary64.Whole

**Whole numbers as magnitudes.** One is a power of two in units, so every whole number up
to `2 ^ 53` is the magnitude of a rank, and so are the powers of ten up to `10 ^ 22`. From
`2 ^ 53` on all magnitudes are whole; below it a whole number rounds to a rank only if it
is the magnitude of that rank.

A power of ten that is a magnitude does not round to any other rank. So the fewest digits of
a whole number begin below such a power just when the number is less than it
(`exponent_lt_iff`).
-/

namespace IndicatorStrategy
namespace Binary64

-- unification must not count the units
attribute [local irreducible] one unitsOf

variable {s : Scientific} {rank n : Nat}

/-! ### Numbers that are magnitudes -/

/-- What rounds to a rank and is a magnitude is the magnitude of the rank. -/
theorem unitsOf_eq_of_roundsTo {u : Nat} (hu : ∃ r, unitsOf r = u) (h : RoundsTo u rank) :
    unitsOf rank = u := by
  obtain ⟨r, rfl⟩ := hu
  rw [h.unique (.self r)]

/-- One is a power of two in units. -/
theorem exists_one_eq : ∃ k, one = 2 ^ k := by
  unfold one
  generalize 1074 = k
  exact ⟨k, Nat.pow_eq⟩

/-- A whole number up to `2 ^ 53` is a magnitude. -/
theorem exists_unitsOf_whole (h : n ≤ 2 ^ 53) : ∃ r, unitsOf r = n * one := by
  obtain ⟨k, hone⟩ := exists_one_eq
  rw [hone]
  rcases h.lt_or_eq with hlt | rfl
  · exact exists_unitsOf_eq hlt k
  · rw [← Nat.pow_add, ← Nat.one_mul (2 ^ (53 + k))]
    exact exists_unitsOf_eq (by decide) (53 + k)

/-- A power of ten is a magnitude as long as its power of five has 53 bits. -/
theorem exists_unitsOf_pow {k : Nat} (h : k ≤ 22) : ∃ r, unitsOf r = 10 ^ k * one := by
  obtain ⟨j, hone⟩ := exists_one_eq
  have hbits : 5 ^ k < 2 ^ 53 :=
    (Nat.pow_le_pow_right (by decide) h).trans_lt (by decide)
  have hfactor : 10 ^ k * 2 ^ j = 5 ^ k * 2 ^ (k + j) := by
    rw [show 10 = 5 * 2 from rfl, Nat.mul_pow, Nat.mul_assoc, ← Nat.pow_add]
  rw [hone, hfactor]
  exact exists_unitsOf_eq hbits (k + j)

/-! ### Magnitudes that are whole -/

/-- A magnitude from `2 ^ 53` on is whole. -/
theorem one_dvd_unitsOf (h : 2 ^ 53 * one ≤ unitsOf rank) : one ∣ unitsOf rank := by
  refine Nat.dvd_trans ?_ (spacing_dvd_unitsOf rank)
  have hspacing : one < spacing rank :=
    Nat.lt_of_mul_lt_mul_left (h.trans_lt (unitsOf_lt_mul_spacing rank))
  obtain ⟨k, hone⟩ := exists_one_eq
  rw [hone, spacing] at hspacing ⊢
  exact Nat.pow_dvd_pow _ ((Nat.pow_lt_pow_iff_right (by decide)).mp hspacing).le

/-- **A whole number** that rounds to a rank below `2 ^ 53` is its magnitude. -/
theorem unitsOf_eq_of_roundsTo_whole (hrank : unitsOf rank < 2 ^ 53 * one)
    (h : RoundsTo (n * one) rank) : unitsOf rank = n * one := by
  rcases le_or_gt n (2 ^ 53) with hn | hn
  · exact unitsOf_eq_of_roundsTo (exists_unitsOf_whole hn) (by exact_mod_cast h)
  · -- else `2 ^ 53` lay between the two
    have hconvex : RoundsTo ((2 ^ 53 * one : Nat) : ℚ) rank := by
      refine (RoundsTo.self rank).convex h (Nat.cast_le.mpr hrank.le) ?_
      have hmul := Nat.mul_le_mul_right one hn.le
      exact_mod_cast hmul
    have := unitsOf_eq_of_roundsTo (exists_unitsOf_whole le_rfl) hconvex
    omega

/-! ### The first digit of a whole number -/

section Exponent

variable (hunits : unitsOf rank = n * one) (hs : s.IsShortest rank)
include hunits hs

theorem le_exponent_of_pow_le {k : Nat} (h : 10 ^ k ≤ n) : (k : Int) ≤ s.exponent := by
  refine hs.le_exponent ?_
  rw [hunits, zpow_natCast]
  exact_mod_cast Nat.mul_le_mul_right one h

/-- **Where the first digit stands** is decided by the powers of ten that are magnitudes. -/
theorem exponent_lt_iff {k : Nat} (hk : k ≤ 22) : s.exponent < k ↔ n < 10 ^ k := by
  constructor
  · intro h
    by_contra hge
    have := le_exponent_of_pow_le hunits hs (Nat.le_of_not_lt hge)
    omega
  · intro h
    have hpow : (10 : ℚ) ^ (k : Int) * one = (10 ^ k * one : Nat) := by norm_num
    refine hs.exponent_lt ?_ fun hround => ?_
    · rw [hpow, hunits]
      exact_mod_cast Nat.mul_le_mul_right one h.le
    · rw [hpow] at hround
      have hsame := unitsOf_eq_of_roundsTo (exists_unitsOf_pow hk) hround
      rw [hunits] at hsame
      exact absurd (Nat.eq_of_mul_eq_mul_right one_units_pos hsame) h.ne

end Exponent

end Binary64
end IndicatorStrategy

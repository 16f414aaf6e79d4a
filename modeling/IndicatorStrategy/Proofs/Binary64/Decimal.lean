import IndicatorStrategy.Binary64.Decimal
import IndicatorStrategy.Proofs.Binary64.Shortest
/-!
# IndicatorStrategy.Proofs.Binary64.Decimal

**Decimals are rounded correctly.** The double of a decimal is the one of the rank to
which its magnitude rounds. The two shortcuts, for numbers beyond the doubles and for
numbers next to zero, come to the same.
-/

namespace IndicatorStrategy

open Binary64 (RoundsTo halfWay unitsOf one)

namespace Binary64

theorem ofRank_of_le {negative : Bool} {rank : Nat} (h : infinityRank ≤ rank) :
    ofRank negative rank = .infinite negative := dif_neg (Nat.not_lt.mpr h)

end Binary64

namespace Decimal

/-- The magnitude of a decimal. -/
def magnitude (d : Decimal) : ℚ := Numeral.value d.digits * 10 ^ d.scale

theorem magnitude_nonneg (d : Decimal) : 0 ≤ d.magnitude := by
  rw [magnitude]
  positivity

variable {d : Decimal} {rank : Nat}

theorem infinityRank_le_of_scale (hv : Numeral.value d.digits ≠ 0) (hs : 310 ≤ d.scale)
    (h : RoundsTo (d.magnitude * one) rank) : infinityRank ≤ rank := by
  have hn : (1 : ℚ) ≤ Numeral.value d.digits := Nat.one_le_cast.mpr (Nat.pos_of_ne_zero hv)
  have hpow : (10 : ℚ) ^ (310 : Int) ≤ 10 ^ d.scale := zpow_le_zpow_right₀ (by norm_num) hs
  have hbound : unitsOf infinityRank ≤ 10 ^ 310 * one := by decide +kernel
  refine h.le_of_unitsOf_le ?_
  calc (unitsOf infinityRank : ℚ) ≤ 10 ^ (310 : Int) * one := by exact_mod_cast hbound
    _ ≤ d.magnitude * one := by
      refine mul_le_mul_of_nonneg_right ?_ (Nat.cast_nonneg _)
      rw [magnitude]
      exact hpow.trans (le_mul_of_one_le_left (by positivity) hn)

theorem eq_zero_of_small (hd : ∀ c ∈ d.digits, c.isDigit = true)
    (hs : d.scale + d.digits.length < -330) (h : RoundsTo (d.magnitude * one) rank) :
    rank = 0 := by
  have hlt : (Numeral.value d.digits : ℚ) < 10 ^ d.digits.length := by
    exact_mod_cast Numeral.value_lt hd
  have hpow : (10 : ℚ) ^ (d.scale + d.digits.length) ≤ 10 ^ (-331 : Int) :=
    zpow_le_zpow_right₀ (by norm_num) (by omega)
  have hmag : d.magnitude ≤ 10 ^ (-331 : Int) := by
    refine le_trans ?_ hpow
    rw [magnitude, add_comm, zpow_add₀ (by norm_num), zpow_natCast]
    exact mul_le_mul_of_nonneg_right hlt.le (by positivity)
  -- half of the least double is `1 / (2 * one)`
  have hbound : 2 * one < 10 ^ 331 := by decide +kernel
  refine h.unique (RoundsTo.of_lt_halfWay ?_ ?_)
  · rw [Binary64.unitsOf_zero, Nat.cast_zero]
    exact mul_nonneg d.magnitude_nonneg (Nat.cast_nonneg _)
  · calc 2 * (d.magnitude * one) = d.magnitude * (2 * one : Nat) := by push_cast; ring
      _ ≤ 10 ^ (-331 : Int) * (2 * one : Nat) :=
        mul_le_mul_of_nonneg_right hmag (Nat.cast_nonneg _)
      _ < 10 ^ (-331 : Int) * (10 ^ 331 : Nat) :=
        mul_lt_mul_of_pos_left (Nat.cast_lt.mpr hbound) (by positivity)
      _ = halfWay 0 := by norm_num [halfWay]

-- unification must not count the units
attribute [local irreducible] Binary64.one

/-- **A decimal names the double** of the rank to which its magnitude rounds. -/
theorem toBinary64_eq (hd : ∀ c ∈ d.digits, c.isDigit = true)
    (h : RoundsTo (d.magnitude * one) rank) :
    d.toBinary64 = .ofRank d.negative rank := by
  unfold toBinary64
  simp only
  -- the cases are those of the definition: zero, too large, too small, and two quotients
  split
  · rename_i hv
    rw [magnitude, hv, Nat.cast_zero, zero_mul, zero_mul] at h
    rw [h.unique RoundsTo.zero]
  · rename_i hv
    split
    · rename_i hs
      rw [Binary64.ofRank_of_le (infinityRank_le_of_scale hv hs h)]
    · split
      · rename_i hs
        rw [eq_zero_of_small hd hs h]
      · split
        · rename_i hs
          obtain ⟨k, hk⟩ := Int.eq_ofNat_of_zero_le hs
          rw [Binary64.ofRatio, RoundsTo.nearestRank_eq (by decide) ?_]
          rw [magnitude, hk, zpow_natCast] at h
          simpa [hk] using h
        · rename_i hs
          obtain ⟨k, hk⟩ : ∃ k : Nat, d.scale = -(k : Int) := ⟨d.scale.natAbs, by omega⟩
          have hden : 0 < Nat.pow 10 (-d.scale).toNat := Nat.pow_pos (by decide)
          rw [Binary64.ofRatio, RoundsTo.nearestRank_eq hden ?_]
          rw [magnitude, hk, zpow_neg, zpow_natCast] at h
          simp only [hk, neg_neg, Int.toNat_natCast, Nat.pow_eq]
          push_cast
          rwa [mul_div_right_comm, div_eq_mul_inv]

end Decimal
end IndicatorStrategy

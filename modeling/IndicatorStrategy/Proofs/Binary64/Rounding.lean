import IndicatorStrategy.Binary64.Shortest
import IndicatorStrategy.Proofs.Binary64.Rank
/-!
# IndicatorStrategy.Proofs.Binary64.Rounding

**Rounding to the nearest rank.** The numbers that round to a rank fill an interval,
from half-way to the rank below to half-way to the rank above; the ends belong to the
even ranks. The intervals cover the non-negative numbers and do not overlap, so each
number rounds to one rank, and `nearestRank` is that rank. That rank is the one whose
magnitude is nearest to the number.

Numbers are counted in units of the least positive double.
-/

namespace IndicatorStrategy
namespace Binary64

/-- Twice the number half-way between a rank and the next one. -/
def halfWay (rank : Nat) : ℚ := (unitsOf rank + unitsOf (rank + 1) : Nat)

/-- Twice the lower end of the numbers that round to a rank; zero is its own end. -/
def lowEnd (rank : Nat) : ℚ := (unitsOf (rank - 1) + unitsOf rank : Nat)

/-- A number of units rounds to a rank. -/
structure RoundsTo (q : ℚ) (rank : Nat) : Prop where
  low : lowEnd rank < 2 * q ∨ rank % 2 = 0 ∧ lowEnd rank = 2 * q
  high : 2 * q < halfWay rank ∨ rank % 2 = 0 ∧ 2 * q = halfWay rank

theorem roundsTo_def {q : ℚ} {rank : Nat} :
    RoundsTo q rank ↔
      (lowEnd rank < 2 * q ∨ rank % 2 = 0 ∧ lowEnd rank = 2 * q) ∧
      (2 * q < halfWay rank ∨ rank % 2 = 0 ∧ 2 * q = halfWay rank) :=
  ⟨fun h => ⟨h.low, h.high⟩, fun h => ⟨h.1, h.2⟩⟩

theorem lowEnd_succ (rank : Nat) : lowEnd (rank + 1) = halfWay rank := rfl

theorem halfWay_mono {r s : Nat} (h : r ≤ s) : halfWay r ≤ halfWay s := by
  have h1 := strictMono_unitsOf.monotone h
  have h2 := strictMono_unitsOf.monotone (Nat.add_le_add_right h 1)
  exact Nat.cast_le.mpr (Nat.add_le_add h1 h2)

theorem lowEnd_le (rank : Nat) : lowEnd rank ≤ 2 * unitsOf rank := by
  have := strictMono_unitsOf.monotone (Nat.sub_le rank 1)
  rw [lowEnd]
  exact_mod_cast (by omega : unitsOf (rank - 1) + unitsOf rank ≤ 2 * unitsOf rank)

theorem lowEnd_lt {rank : Nat} (h : 0 < rank) : lowEnd rank < 2 * unitsOf rank := by
  have := strictMono_unitsOf (show rank - 1 < rank by omega)
  rw [lowEnd]
  exact_mod_cast (by omega : unitsOf (rank - 1) + unitsOf rank < 2 * unitsOf rank)

theorem lt_halfWay (rank : Nat) : 2 * unitsOf rank < halfWay rank := by
  have := strictMono_unitsOf (Nat.lt_add_one rank)
  rw [halfWay]
  exact_mod_cast (by omega : 2 * unitsOf rank < unitsOf rank + unitsOf (rank + 1))

theorem lowEnd_lt_halfWay (rank : Nat) : lowEnd rank < halfWay rank :=
  (lowEnd_le rank).trans_lt (lt_halfWay rank)

namespace RoundsTo

variable {q : ℚ} {r s : Nat}

theorem le_high (h : RoundsTo q r) : 2 * q ≤ halfWay r :=
  h.high.elim le_of_lt fun h => h.2.le

theorem low_le (h : RoundsTo q r) : lowEnd r ≤ 2 * q :=
  h.low.elim le_of_lt fun h => h.2.le

/-- The intervals of two ranks do not overlap, not even in their ends. -/
theorem not_lt (h : RoundsTo q r) (h' : RoundsTo q s) : ¬r < s := by
  intro hlt
  obtain ⟨s, rfl⟩ : ∃ t, s = t + 1 := ⟨s - 1, by omega⟩
  have hmono := halfWay_mono (Nat.le_of_lt_succ hlt)
  rcases h'.low with hlow | ⟨heven', hlow⟩ <;> rw [lowEnd_succ] at hlow
  · linarith [h.le_high]
  · rcases h.high with hhigh | ⟨heven, hhigh⟩
    · linarith
    · -- a common end belongs to neighbours, which are not both even
      have hends : halfWay r = halfWay s := by linarith [h.le_high]
      have : r = s := by
        by_contra hne
        have := halfWay_mono (show r + 1 ≤ s by omega)
        have hstep := lowEnd_lt_halfWay (r + 1)
        rw [lowEnd_succ] at hstep
        linarith
      omega

/-- **A number rounds to one rank only.** -/
theorem unique (h : RoundsTo q r) (h' : RoundsTo q s) : r = s :=
  Nat.le_antisymm (Nat.le_of_not_lt (h'.not_lt h)) (Nat.le_of_not_lt (h.not_lt h'))

/-- What lies between two ranks and below their middle rounds to the lower one. -/
theorem of_lt_halfWay (hle : (unitsOf r : ℚ) ≤ q) (hlt : 2 * q < halfWay r) :
    RoundsTo q r := by
  refine ⟨?_, .inl hlt⟩
  rcases Nat.eq_zero_or_pos r with rfl | hr
  · rcases hle.lt_or_eq with h | h
    · exact .inl (by simp [lowEnd] at h ⊢; linarith)
    · exact .inr ⟨rfl, by simp [lowEnd] at h ⊢; linarith⟩
  · have hlow := lowEnd_lt hr
    exact .inl (by linarith)

/-- What lies between two ranks and above their middle rounds to the upper one. -/
theorem of_halfWay_lt (hlt : q < unitsOf (r + 1)) (hgt : halfWay r < 2 * q) :
    RoundsTo q (r + 1) := by
  refine ⟨.inl (lowEnd_succ r ▸ hgt), .inl ?_⟩
  have hhigh := lt_halfWay (r + 1)
  linarith

/-- The middle between two ranks rounds to the even one of them. -/
theorem of_eq_halfWay (heq : 2 * q = halfWay r) : RoundsTo q (r + r % 2) := by
  rcases Nat.mod_two_eq_zero_or_one r with h | h <;> rw [h]
  · -- the middle is the upper end of an even rank, or else the lower end of the next one
    exact ⟨.inl (heq ▸ lowEnd_lt_halfWay r), .inr ⟨h, heq⟩⟩
  · refine ⟨.inr ⟨by omega, by rw [lowEnd_succ, heq]⟩, .inl ?_⟩
    rw [heq, ← lowEnd_succ]
    exact lowEnd_lt_halfWay (r + 1)

/-- A magnitude is nearest to itself. -/
theorem self (r : Nat) : RoundsTo (unitsOf r) r := of_lt_halfWay le_rfl (lt_halfWay r)

theorem zero : RoundsTo 0 0 := by
  simpa using self 0

/-- From the magnitude of a rank on, a number rounds to no rank below it. -/
theorem le_of_unitsOf_le (h : RoundsTo q r) (hq : (unitsOf s : ℚ) ≤ q) : s ≤ r := by
  by_contra hlt
  have hmono := strictMono_unitsOf.monotone (show r + 1 ≤ s by omega)
  have hstep := strictMono_unitsOf (Nat.lt_add_one r)
  have hhalf : halfWay r < 2 * unitsOf s := by
    rw [halfWay]
    exact_mod_cast (by omega : unitsOf r + unitsOf (r + 1) < 2 * unitsOf s)
  linarith [h.le_high]

end RoundsTo

/-! ### Quotients -/

section Quotients

variable {a v d : Nat} (hd : 0 < d)
include hd

theorem natCast_lt_div_iff : (a : ℚ) < v / d ↔ a * d < v := by
  rw [lt_div_iff₀ (Nat.cast_pos.mpr hd)]
  norm_cast

theorem div_lt_natCast_iff : (v : ℚ) / d < a ↔ v < a * d := by
  rw [div_lt_iff₀ (Nat.cast_pos.mpr hd)]
  norm_cast

theorem natCast_eq_div_iff : (a : ℚ) = v / d ↔ a * d = v := by
  rw [eq_div_iff (Nat.cast_pos.mpr hd).ne']
  norm_cast

end Quotients

/-- **The nearest rank** of a quotient is the rank to which it rounds. -/
theorem roundsTo_nearestRank (num : Nat) {den : Nat} (hd : 0 < den) :
    RoundsTo (num / den) (nearestRank num den) := by
  obtain ⟨hle, hlt⟩ := rankBelow_spec (num / den)
  have hle' : (unitsOf (rankBelow (num / den)) : ℚ) ≤ (num : ℚ) / den := by
    rw [← not_lt, div_lt_natCast_iff hd, not_lt]
    exact (Nat.le_div_iff_mul_le hd).mp hle
  have hlt' : (num : ℚ) / den < unitsOf (rankBelow (num / den) + 1) :=
    (div_lt_natCast_iff hd).mpr ((Nat.div_lt_iff_lt_mul hd).mp hlt)
  have htwice : 2 * ((num : ℚ) / den) = (2 * num : Nat) / den := by
    push_cast
    ring
  unfold nearestRank
  simp only
  -- from here on only the two bounds matter, and the search compares twice the quotient
  generalize rankBelow (num / den) = lower at hle' hlt' ⊢
  split
  · rename_i h
    refine .of_lt_halfWay hle' ?_
    rw [htwice]
    exact (div_lt_natCast_iff hd).mpr h
  · split
    · rename_i h
      refine .of_halfWay_lt hlt' ?_
      rw [htwice]
      exact (natCast_lt_div_iff hd).mpr h
    · refine .of_eq_halfWay ?_
      rw [htwice]
      exact ((natCast_eq_div_iff hd).mpr (by omega)).symm

theorem RoundsTo.nearestRank_eq {num den rank : Nat} (hd : 0 < den)
    (h : RoundsTo (num / den) rank) : nearestRank num den = rank :=
  (roundsTo_nearestRank num hd).unique h

/-- The test by which the shortest digits are searched is that of rounding. -/
theorem roundsTo_eq_true_iff {rank value scale : Nat} (hs : 0 < scale) :
    roundsTo rank value scale = true ↔ RoundsTo (value / (2 * scale)) rank := by
  have hscale : (scale : ℚ) ≠ 0 := Nat.cast_ne_zero.mpr hs.ne'
  have htwice : 2 * ((value : ℚ) / (2 * scale)) = value / scale := by field_simp
  have hwidth : (unitsOf (rank - 1) + unitsOf rank) * scale
      < (unitsOf rank + unitsOf (rank + 1)) * scale :=
    Nat.mul_lt_mul_of_pos_right (Nat.cast_lt.mp (lowEnd_lt_halfWay rank)) hs
  rw [roundsTo_def, htwice, lowEnd, halfWay, natCast_lt_div_iff hs, natCast_eq_div_iff hs,
    div_lt_natCast_iff hs, eq_comm (a := (value : ℚ) / scale), natCast_eq_div_iff hs]
  simp only [roundsTo, Bool.or_eq_true, Bool.and_eq_true, decide_eq_true_eq, beq_iff_eq]
  omega

/-! ### Nearest magnitudes -/

section Distances

variable {a b q : ℚ} (hab : a < b)
include hab

/-- From the middle of two numbers on, the greater one is no farther away. -/
theorem distance_upper_le_iff : |q - b| ≤ |q - a| ↔ a + b ≤ 2 * q := by
  have hsquares : (q - a) ^ 2 - (q - b) ^ 2 = (b - a) * (2 * q - (a + b)) := by ring
  rw [← sq_le_sq, ← sub_nonneg, hsquares, mul_nonneg_iff_of_pos_left (sub_pos.mpr hab),
    sub_nonneg]

/-- Up to the middle of two numbers, the lesser one is no farther away. -/
theorem distance_lower_le_iff : |q - a| ≤ |q - b| ↔ 2 * q ≤ a + b := by
  have hsquares : (q - b) ^ 2 - (q - a) ^ 2 = (b - a) * (a + b - 2 * q) := by ring
  rw [← sq_le_sq, ← sub_nonneg, hsquares, mul_nonneg_iff_of_pos_left (sub_pos.mpr hab),
    sub_nonneg]

end Distances

/-- The magnitude of a rank is nearest to a number: none is nearer, and another one is as
near only if the rank is even. -/
structure IsNearest (q : ℚ) (rank : Nat) : Prop where
  le : ∀ other, |q - unitsOf rank| ≤ |q - unitsOf other|
  even : ∀ other, other ≠ rank → |q - unitsOf other| = |q - unitsOf rank| → rank % 2 = 0

theorem cast_unitsOf_lt {r s : Nat} (h : r < s) : (unitsOf r : ℚ) < unitsOf s :=
  Nat.cast_lt.mpr (strictMono_unitsOf h)

theorem add_le_lowEnd {other rank : Nat} (h : other < rank) :
    (unitsOf other + unitsOf rank : ℚ) ≤ lowEnd rank := by
  have hmono := strictMono_unitsOf.monotone (Nat.le_sub_one_of_lt h)
  rw [lowEnd]
  exact_mod_cast Nat.add_le_add_right hmono _

theorem halfWay_le_add {rank other : Nat} (h : rank < other) :
    halfWay rank ≤ (unitsOf rank + unitsOf other : ℚ) := by
  have hmono := strictMono_unitsOf.monotone (Nat.succ_le_of_lt h)
  rw [halfWay]
  exact_mod_cast Nat.add_le_add_left hmono _

variable {q : ℚ} {rank : Nat}

theorem RoundsTo.isNearest (h : RoundsTo q rank) : IsNearest q rank where
  le := by
    intro other
    rcases lt_trichotomy other rank with hlt | rfl | hgt
    · exact (distance_upper_le_iff (cast_unitsOf_lt hlt)).mpr ((add_le_lowEnd hlt).trans h.low_le)
    · exact le_rfl
    · exact (distance_lower_le_iff (cast_unitsOf_lt hgt)).mpr (h.le_high.trans (halfWay_le_add hgt))
  even := by
    intro other hne heq
    -- as near as the rank is only a number at the end of the interval
    rcases lt_or_gt_of_ne hne with hlt | hgt
    · have hend := (distance_lower_le_iff (cast_unitsOf_lt hlt)).mp heq.le
      exact (h.low.resolve_left (hend.trans (add_le_lowEnd hlt)).not_gt).1
    · have hend := (distance_upper_le_iff (cast_unitsOf_lt hgt)).mp heq.le
      exact (h.high.resolve_left ((halfWay_le_add hgt).trans hend).not_gt).1

theorem IsNearest.roundsTo (h : IsNearest q rank) (hq : 0 ≤ q) : RoundsTo q rank where
  low := by
    rcases Nat.eq_zero_or_pos rank with rfl | hpos
    · rcases hq.lt_or_eq with hlt | heq
      · exact .inl (by simpa [lowEnd] using hlt)
      · exact .inr ⟨rfl, by simp [lowEnd, ← heq]⟩
    · have hlt := cast_unitsOf_lt (show rank - 1 < rank by omega)
      have hle := (distance_upper_le_iff hlt).mp (h.le (rank - 1))
      have hend : lowEnd rank = unitsOf (rank - 1) + unitsOf rank := Nat.cast_add ..
      rcases hle.lt_or_eq with hlow | hlow
      · exact .inl (hend ▸ hlow)
      · have hsame := (distance_lower_le_iff hlt).mpr hlow.ge
        exact .inr ⟨h.even _ (by omega) (hsame.antisymm (h.le _)), hend ▸ hlow⟩
  high := by
    have hlt := cast_unitsOf_lt (Nat.lt_add_one rank)
    have hle := (distance_lower_le_iff hlt).mp (h.le (rank + 1))
    have hend : halfWay rank = unitsOf rank + unitsOf (rank + 1) := Nat.cast_add ..
    rcases hle.lt_or_eq with hhigh | hhigh
    · exact .inl (hend ▸ hhigh)
    · have hsame := (distance_upper_le_iff hlt).mpr hhigh.ge
      exact .inr ⟨h.even _ (by omega) (hsame.antisymm (h.le _)), hend ▸ hhigh⟩

/-- **Rounding finds the nearest magnitude**, and an even one of two that are as near. -/
theorem isNearest_iff (hq : 0 ≤ q) : IsNearest q rank ↔ RoundsTo q rank :=
  ⟨fun h => h.roundsTo hq, RoundsTo.isNearest⟩

/-- Each number rounds to a rank. -/
theorem exists_roundsTo (hq : 0 ≤ q) : ∃ rank, RoundsTo q rank := by
  have hquotient : ((q.num.toNat : ℚ) / q.den) = q := by
    have hnum : ((q.num.toNat : Int) : ℚ) = q.num :=
      congrArg Int.cast (Int.toNat_of_nonneg (Rat.num_nonneg.mpr hq))
    rw [← Int.cast_natCast, hnum, Rat.num_div_den]
  exact ⟨_, hquotient ▸ roundsTo_nearestRank q.num.toNat q.den_pos⟩

end Binary64
end IndicatorStrategy

import Mathlib
import IndicatorStrategy.Binary64.Basic
/-!
# IndicatorStrategy.Proofs.Binary64.Rank

**Ranks and magnitudes.** `unitsOf` is strictly increasing: from one rank to the next it
grows by the `spacing` of their block. So ranks are ordered as magnitudes are, and
`rankBelow` finds the greatest rank that does not lie above a number of units.
-/

namespace IndicatorStrategy
namespace Binary64

/-- The number of units from a rank to the next one. -/
def spacing (rank : Nat) : Nat := 2 ^ (rank / blockSize - 1)

theorem spacing_pos (rank : Nat) : 0 < spacing rank := Nat.two_pow_pos _

/-- A rank that is not in the first block counts the significands of its block. -/
theorem unitsOf_block {block m : Nat} (hb : 0 < block) (hm : m < blockSize) :
    unitsOf (block * blockSize + m) = (blockSize + m) * 2 ^ (block - 1) := by
  have hdiv : (block * blockSize + m) / blockSize = block := by
    rw [Nat.mul_comm, Nat.mul_add_div (by decide), Nat.div_eq_of_lt hm, Nat.add_zero]
  have hmod : (block * blockSize + m) % blockSize = m := by
    rw [Nat.mul_comm, Nat.mul_add_mod, Nat.mod_eq_of_lt hm]
  have hle : blockSize ≤ block * blockSize := Nat.le_mul_of_pos_left _ hb
  rw [unitsOf, if_neg (by omega), hdiv, hmod, Nat.pow_eq]

/-- A rank is one of the first block, or a significand in a later block. -/
theorem block_cases (rank : Nat) :
    rank < blockSize ∨
      ∃ block m, 0 < block ∧ m < blockSize ∧ rank = block * blockSize + m := by
  rcases Nat.lt_or_ge rank blockSize with h | h
  · exact .inl h
  · refine .inr ⟨rank / blockSize, rank % blockSize, Nat.div_pos h (by decide),
      Nat.mod_lt _ (by decide), ?_⟩
    rw [Nat.mul_comm, Nat.div_add_mod]

theorem spacing_of_lt {rank : Nat} (h : rank < 2 * blockSize) : spacing rank = 1 := by
  have hdiv : rank / blockSize < 2 := Nat.div_lt_of_lt_mul (by omega)
  rw [spacing, show rank / blockSize - 1 = 0 by omega, pow_zero]

theorem spacing_block {block m : Nat} (hm : m < blockSize) :
    spacing (block * blockSize + m) = 2 ^ (block - 1) := by
  rw [spacing, Nat.mul_comm, Nat.mul_add_div (by decide), Nat.div_eq_of_lt hm, Nat.add_zero]

/-- **From one rank to the next** the magnitude grows by the spacing. -/
theorem unitsOf_succ (rank : Nat) : unitsOf (rank + 1) = unitsOf rank + spacing rank := by
  rcases block_cases rank with h | ⟨block, m, hb, hm, rfl⟩
  · -- ranks of the first block count units, and so does the first rank behind it
    rw [spacing_of_lt (by omega), unitsOf_of_lt h]
    rcases Nat.lt_or_ge (rank + 1) blockSize with h' | h'
    · exact unitsOf_of_lt h'
    · have heq : rank + 1 = 1 * blockSize + 0 := by omega
      rw [heq, unitsOf_block (by omega) (by decide)]
      simp
  · rw [spacing_block hm, unitsOf_block hb hm]
    rcases Nat.lt_or_ge (m + 1) blockSize with h' | h'
    · rw [Nat.add_assoc, unitsOf_block hb h']
      ring
    · -- the first rank of the next block, whose spacing is twice as wide
      have heq : block * blockSize + m + 1 = (block + 1) * blockSize + 0 := by
        rw [Nat.add_mul]
        omega
      have hpow : 2 ^ block = 2 * 2 ^ (block - 1) := (mul_pow_sub_one hb.ne' 2).symm
      rw [heq, unitsOf_block (by omega) (by decide), Nat.add_sub_cancel, hpow]
      have hlast : blockSize + m + 1 = 2 * blockSize := by omega
      calc (blockSize + 0) * (2 * 2 ^ (block - 1))
          = (2 * blockSize) * 2 ^ (block - 1) := by ring
        _ = (blockSize + m) * 2 ^ (block - 1) + 2 ^ (block - 1) := by rw [← hlast]; ring

theorem strictMono_unitsOf : StrictMono unitsOf := by
  refine strictMono_nat_of_lt_succ fun rank => ?_
  have := spacing_pos rank
  rw [unitsOf_succ]
  omega

/-- A magnitude is less than `2 ^ 53` times the spacing of its block. -/
theorem unitsOf_lt_mul_spacing (rank : Nat) : unitsOf rank < 2 ^ 53 * spacing rank := by
  rw [show 2 ^ 53 = 2 * blockSize from rfl]
  rcases block_cases rank with h | ⟨block, m, hb, hm, rfl⟩
  · have := Nat.le_mul_of_pos_right (2 * blockSize) (spacing_pos rank)
    rw [unitsOf_of_lt h]
    omega
  · rw [unitsOf_block hb hm, spacing_block hm]
    exact Nat.mul_lt_mul_of_pos_right (by omega) (Nat.two_pow_pos _)

/-- A magnitude is a multiple of the spacing of its block. -/
theorem spacing_dvd_unitsOf (rank : Nat) : spacing rank ∣ unitsOf rank := by
  rcases block_cases rank with h | ⟨block, m, hb, hm, rfl⟩
  · rw [spacing_of_lt (by omega)]
    exact one_dvd _
  · rw [unitsOf_block hb hm, spacing_block hm]
    exact Nat.dvd_mul_left ..

/-- Unless it counts units, a magnitude is at least `2 ^ 52` times the spacing. -/
theorem mul_spacing_le_unitsOf {rank : Nat} (h : 1 < spacing rank) :
    2 ^ 52 * spacing rank ≤ unitsOf rank := by
  rcases block_cases rank with hlt | ⟨block, m, hb, hm, rfl⟩
  · rw [spacing_of_lt (by omega)] at h
    omega
  · rw [unitsOf_block hb hm, spacing_block hm]
    exact Nat.mul_le_mul_right _ (Nat.le_add_right blockSize m)

/-! ### The rank below a number of units -/

theorem rankBelow_of_lt {u : Nat} (h : u < 2 * blockSize) : rankBelow u = u := by
  have hlog : u.log2 - 52 = 0 := by
    rcases Nat.eq_zero_or_pos u with rfl | hu
    · decide
    · have : u.log2 < 53 := (Nat.log2_lt hu.ne').mpr h
      omega
  simp [rankBelow, hlog]

/-- Above the second block, the rank is the significand with its exponent. -/
theorem rankBelow_of_le {u : Nat} (h : 2 * blockSize ≤ u) :
    ∃ shift q, 0 < shift ∧ q < blockSize ∧ u / 2 ^ shift = blockSize + q ∧
      rankBelow u = (shift + 1) * blockSize + q := by
  have hu : u ≠ 0 := by rintro rfl; exact absurd h (by decide)
  have hlog : 53 ≤ u.log2 := (Nat.le_log2 hu).mpr h
  have hle := Nat.log2_self_le hu
  have hlt := Nat.lt_log2_self (n := u)
  -- the leading bit of `u` is bit `shift + 52`, so the quotient has 53 bits
  generalize hs : u.log2 - 52 = shift
  have hlog' : u.log2 = shift + 52 := by omega
  rw [hlog', Nat.pow_add] at hle
  rw [hlog', show shift + 52 + 1 = shift + 53 by omega, Nat.pow_add] at hlt
  have hge : blockSize ≤ u / 2 ^ shift := by
    rw [Nat.le_div_iff_mul_le (Nat.two_pow_pos _), mul_comm]
    exact hle
  have hbelow : u / 2 ^ shift < 2 * blockSize := Nat.div_lt_of_lt_mul hlt
  refine ⟨shift, u / 2 ^ shift - blockSize, by omega, by omega, by omega, ?_⟩
  simp only [rankBelow, hs, Nat.pow_eq, Nat.add_mul]
  omega

/-- **The rank below** has a magnitude of at most `u` units, and the next rank has more. -/
theorem rankBelow_spec (u : Nat) :
    unitsOf (rankBelow u) ≤ u ∧ u < unitsOf (rankBelow u + 1) := by
  rw [unitsOf_succ]
  rcases Nat.lt_or_ge u (2 * blockSize) with h | h
  · rw [rankBelow_of_lt h, spacing_of_lt h]
    -- the ranks of the first two blocks count units
    have hunits : unitsOf u = u := by
      rcases block_cases u with hb | ⟨block, m, hb, hm, rfl⟩
      · exact unitsOf_of_lt hb
      · have : block = 1 := by
          rcases Nat.lt_or_ge block 2 with hlt | hge
          · omega
          · have := Nat.mul_le_mul_right blockSize hge
            omega
        subst this
        rw [unitsOf_block (by omega) hm]
        simp
    omega
  · obtain ⟨shift, q, hs, hq, hdiv, hrank⟩ := rankBelow_of_le h
    rw [hrank, spacing_block hq, unitsOf_block (by omega) hq, Nat.add_sub_cancel, ← hdiv]
    constructor
    · exact Nat.div_mul_le_self u _
    · have := Nat.lt_div_mul_add (Nat.two_pow_pos shift) (a := u)
      exact this

/-- **A number of 53 bits** times a power of two is the magnitude of a rank. -/
theorem exists_unitsOf_eq {m : Nat} (hm : m < 2 ^ 53) (k : Nat) :
    ∃ rank, unitsOf rank = m * 2 ^ k := by
  obtain ⟨hle, hlt⟩ := rankBelow_spec (m * 2 ^ k)
  generalize rankBelow (m * 2 ^ k) = rank at hle hlt
  rw [unitsOf_succ] at hlt
  -- the number is a multiple of the spacing too, and so is the rest
  have hdvd : spacing rank ∣ m * 2 ^ k := by
    refine Dvd.dvd.mul_left ?_ m
    rw [spacing, Nat.pow_dvd_pow_iff_le_right (by decide)]
    by_contra hgt
    have hpow : 2 * 2 ^ k ≤ spacing rank := by
      rw [← Nat.pow_succ', spacing]
      exact Nat.pow_le_pow_right (by decide) (by omega)
    have hunit := Nat.two_pow_pos k
    have hspacing := mul_spacing_le_unitsOf (show 1 < spacing rank by omega)
    have hbits : m * 2 ^ k < 2 ^ 53 * 2 ^ k := Nat.mul_lt_mul_of_pos_right hm (Nat.two_pow_pos k)
    omega
  obtain ⟨d, hd⟩ := (Nat.dvd_sub_iff_left hle (spacing_dvd_unitsOf rank)).mpr hdvd
  refine ⟨rank, ?_⟩
  rcases Nat.eq_zero_or_pos d with rfl | hpos
  · omega
  · have := Nat.le_mul_of_pos_right (spacing rank) hpos
    omega

end Binary64
end IndicatorStrategy

import IndicatorStrategy.Proofs.Binary64.Rounding
import IndicatorStrategy.Proofs.Binary64.Text
import IndicatorStrategy.Proofs.Numeral
/-!
# IndicatorStrategy.Proofs.Binary64.Shortest

**The shortest digits read back.** Whatever `shortest` finds for a positive rank lies
among the numbers that round to it, and it always finds something: the grid of the
seventeenth digit is finer than the interval of any rank is wide.
-/

namespace IndicatorStrategy
namespace Binary64

theorem one_units_pos : 0 < one := by decide +kernel

-- unification must not count the units; only the kernel does so
attribute [local irreducible] one

/-! ### Points of a grid -/

theorem gridStep_spec (place : Int) :
    0 < (gridStep place).1 ∧ 0 < (gridStep place).2 ∧
      ((gridStep place).1 : ℚ) = 10 ^ place * (2 * one) * (gridStep place).2 := by
  have h10 : ∀ k : Nat, 0 < 10 ^ k := fun k => Nat.pow_pos (by decide)
  have hone := one_units_pos
  unfold gridStep
  split
  · rename_i h
    refine ⟨Nat.mul_pos (h10 _) (by omega), Nat.one_pos, ?_⟩
    obtain ⟨k, rfl⟩ := Int.eq_ofNat_of_zero_le h
    simp
  · rename_i h
    refine ⟨by omega, h10 _, ?_⟩
    obtain ⟨k, rfl⟩ : ∃ k : Nat, place = -(k : Int) := ⟨place.natAbs, by omega⟩
    simp only [neg_neg, Int.toNat_natCast, Nat.pow_eq, zpow_neg, zpow_natCast]
    push_cast
    field_simp

variable {tie : Tie} {rank n : Nat} {place : Int}

theorem roundsTo_multiple_iff :
    roundsTo rank (n * (gridStep place).1) (gridStep place).2 = true ↔
      RoundsTo (n * 10 ^ place * one) rank := by
  obtain ⟨-, hscale, heq⟩ := gridStep_spec place
  have hs : ((gridStep place).2 : ℚ) ≠ 0 := Nat.cast_ne_zero.mpr hscale.ne'
  have hvalue : ((n * (gridStep place).1 : Nat) : ℚ) / (2 * (gridStep place).2)
      = n * 10 ^ place * one := by
    rw [Nat.cast_mul, heq]
    field_simp
  rw [roundsTo_eq_true_iff hscale, hvalue]

/-- The last point of a grid that does not lie above a rank. -/
def gridBelow (rank : Nat) (place : Int) : Nat :=
  center rank * (gridStep place).2 / (gridStep place).1

/-- **What is found on a grid** is this point or the next one. It rounds to the rank, and it
is not farther from it than the other one is, if that rounds to it as well. -/
theorem onGrid?_eq_some (h : onGrid? tie rank place = some n) :
    let value := center rank * (gridStep place).2
    let low := gridBelow rank place * (gridStep place).1
    let high := (gridBelow rank place + 1) * (gridStep place).1
    (n = gridBelow rank place ∧ roundsTo rank low (gridStep place).2 = true ∧
      (roundsTo rank high (gridStep place).2 = true → value - low ≤ high - value)) ∨
    (n = gridBelow rank place + 1 ∧ roundsTo rank high (gridStep place).2 = true ∧
      (roundsTo rank low (gridStep place).2 = true → high - value ≤ value - low)) := by
  intro value low high
  unfold onGrid? at h
  simp only at h
  rw [← gridBelow] at h
  split at h
  · cases h
  · rename_i hlow hhigh
    refine .inl ⟨(Option.some.inj h).symm, hlow, fun hround => ?_⟩
    cases hhigh.symm.trans hround
  · rename_i hlow hhigh
    refine .inr ⟨(Option.some.inj h).symm, hhigh, fun hround => ?_⟩
    cases hlow.symm.trans hround
  · -- both points round to the rank: the nearer one is taken, and the tie decides
    -- where they are equally near
    rename_i hlow hhigh
    split at h
    · rename_i hdown
      exact .inl ⟨(Option.some.inj h).symm, hlow, fun _ => hdown.le⟩
    · rename_i hnotDown
      split at h
      · rename_i hup
        exact .inr ⟨(Option.some.inj h).symm, hhigh, fun _ => hup.le⟩
      · rename_i hnotUp
        cases tie with
        | up => exact .inr ⟨(Option.some.inj h).symm, hhigh, fun _ => Nat.le_of_not_lt hnotDown⟩
        | even =>
          have hn := (Option.some.inj h).symm
          rcases Nat.mod_two_eq_zero_or_one (gridBelow rank place) with heven | hodd
          · rw [heven, Nat.add_zero] at hn
            exact .inl ⟨hn, hlow, fun _ => Nat.le_of_not_lt hnotUp⟩
          · rw [hodd] at hn
            exact .inr ⟨hn, hhigh, fun _ => Nat.le_of_not_lt hnotDown⟩

/-- What is found on a grid rounds to the rank. -/
theorem roundsTo_of_onGrid? (h : onGrid? tie rank place = some n) :
    RoundsTo (n * 10 ^ place * one) rank := by
  rw [← roundsTo_multiple_iff]
  rcases onGrid?_eq_some h with ⟨rfl, hround, -⟩ | ⟨rfl, hround, -⟩
  · exact hround
  · exact hround

/-- If this point or the next one rounds to the rank, one of them is found. -/
theorem exists_onGrid?_of_roundsTo
    (hn : n = gridBelow rank place ∨ n = gridBelow rank place + 1)
    (h : RoundsTo (n * 10 ^ place * one) rank) : ∃ m, onGrid? tie rank place = some m := by
  rw [← roundsTo_multiple_iff] at h
  unfold onGrid?
  simp only
  rw [← gridBelow]
  generalize hbelow : roundsTo rank (gridBelow rank place * (gridStep place).1)
    (gridStep place).2 = below
  generalize habove : roundsTo rank ((gridBelow rank place + 1) * (gridStep place).1)
    (gridStep place).2 = above
  -- by which of the two points round to the rank: at least one of them does
  cases below <;> cases above
  · rcases hn with rfl | rfl
    · cases hbelow.symm.trans h
    · cases habove.symm.trans h
  · exact ⟨_, rfl⟩
  · exact ⟨_, rfl⟩
  · simp only
    split
    · exact ⟨_, rfl⟩
    · split
      · exact ⟨_, rfl⟩
      · cases tie <;> exact ⟨_, rfl⟩

/-- The rank lies between this point and the next one. -/
theorem gridBelow_spec (rank : Nat) (place : Int) :
    (gridBelow rank place : ℚ) * 10 ^ place * one ≤ unitsOf rank ∧
      (unitsOf rank : ℚ) < (gridBelow rank place + 1 : Nat) * 10 ^ place * one := by
  obtain ⟨hstep, hscale, heq⟩ := gridStep_spec place
  have hs : (0 : ℚ) < 2 * (gridStep place).2 := by
    have : (0 : ℚ) < (gridStep place).2 := Nat.cast_pos.mpr hscale
    linarith
  have hle : gridBelow rank place * (gridStep place).1 ≤ center rank * (gridStep place).2 :=
    Nat.div_mul_le_self _ _
  have hlt : center rank * (gridStep place).2
      < (gridBelow rank place + 1) * (gridStep place).1 :=
    Nat.lt_mul_of_div_lt (Nat.lt_add_one _) hstep
  have hle' : (gridBelow rank place : ℚ) * (gridStep place).1
      ≤ 2 * unitsOf rank * (gridStep place).2 := by exact_mod_cast hle
  have hlt' : 2 * (unitsOf rank : ℚ) * (gridStep place).2
      < (gridBelow rank place + 1 : Nat) * (gridStep place).1 := by exact_mod_cast hlt
  rw [heq] at hle' hlt'
  constructor
  · refine le_of_mul_le_mul_right ?_ hs
    linarith
  · refine lt_of_mul_lt_mul_right ?_ hs.le
    linarith

/-- A grid finer than the interval of a rank has a point in it: the last one below the
rank, or else the next one. -/
theorem exists_onGrid? (h : 10 ^ place * (2 * one) < halfWay rank - lowEnd rank) :
    ∃ n, onGrid? tie rank place = some n := by
  obtain ⟨hle, hlt⟩ := gridBelow_spec rank place
  have hlow := lowEnd_le rank
  have hhigh := lt_halfWay rank
  by_cases hbelow : lowEnd rank < 2 * (gridBelow rank place * 10 ^ place * one)
  · exact exists_onGrid?_of_roundsTo (.inl rfl) ⟨.inl hbelow, .inl (by linarith)⟩
  · refine exists_onGrid?_of_roundsTo (.inr rfl) ⟨.inl (by linarith), .inl ?_⟩
    push_cast
    linarith

/-! ### The first digit -/

theorem one_le_leadingPlace {units : Nat} (fuel start : Nat)
    (h : one ≤ units * 10 ^ (start + fuel)) :
    one ≤ units * 10 ^ leadingPlace units fuel start := by
  induction fuel generalizing start with
  | zero => exact h
  | succ fuel ih =>
    rw [leadingPlace]
    split
    · assumption
    · exact ih (start + 1) (by rwa [Nat.add_right_comm, Nat.add_assoc])

/-- The place of the first digit is not above the number. -/
theorem pow_leadingExponent_le {units : Nat} (h : 0 < units) :
    (10 : ℚ) ^ leadingExponent units * one ≤ units := by
  unfold leadingExponent
  split
  · rename_i hle
    have hq : 0 < units / one := Nat.div_pos hle one_units_pos
    have hlen : 0 < (Numeral.digits (units / one)).length :=
      List.length_pos_iff.mpr (Numeral.digits_ne_nil _)
    have hpow := Nat.mul_le_of_le_div _ _ _ (Numeral.pow_length_digits_le hq)
    rw [show ((Numeral.digits (units / one)).length : Int) - 1
      = ((Numeral.digits (units / one)).length - 1 : Nat) by omega, zpow_natCast]
    exact_mod_cast hpow
  · have hfuel : one ≤ 10 ^ (1 + 324) := by decide +kernel
    have hpow := one_le_leadingPlace 324 1 (hfuel.trans (Nat.le_mul_of_pos_left _ h))
    rw [zpow_neg, zpow_natCast, inv_mul_le_iff₀ (by positivity), mul_comm]
    exact_mod_cast hpow

/-! ### The search -/

/-- The interval of a positive rank is wider than the rank's seventeenth digit. -/
theorem unitsOf_lt_width (h : 0 < rank) :
    2 * (unitsOf rank : ℚ) < 10 ^ 16 * (halfWay rank - lowEnd rank) := by
  obtain ⟨r, rfl⟩ : ∃ r, rank = r + 1 := ⟨rank - 1, by omega⟩
  have h1 := unitsOf_succ r
  have h2 := unitsOf_succ (r + 1)
  have h3 := unitsOf_lt_mul_spacing r
  have h4 := unitsOf_lt_mul_spacing (r + 1)
  have hnat : 2 * unitsOf (r + 1) + 10 ^ 16 * (unitsOf r + unitsOf (r + 1))
      < 10 ^ 16 * (unitsOf (r + 1) + unitsOf (r + 1 + 1)) := by omega
  rw [mul_sub, lt_sub_iff_add_lt, lowEnd, halfWay, Nat.add_sub_cancel]
  exact_mod_cast hnat

/-- The grid of the seventeenth digit is fine enough. -/
theorem exists_onGrid?_last (tie : Tie) (h : 0 < rank) :
    ∃ n, onGrid? tie rank (leadingExponent (unitsOf rank) - (16 : Nat)) = some n := by
  have hle := pow_leadingExponent_le (strictMono_unitsOf h)
  have hwidth := unitsOf_lt_width h
  generalize leadingExponent (unitsOf rank) = first at hle ⊢
  have hplace : (10 : ℚ) ^ first = 10 ^ 16 * 10 ^ (first - (16 : Nat)) := by
    rw [← zpow_natCast, ← zpow_add₀ (by norm_num), add_sub_cancel]
  rw [hplace] at hle
  refine exists_onGrid? ?_
  generalize (one : ℚ) = u at hle ⊢
  linarith

/-- **The search** ends at the first grid that has a point which rounds to the rank. -/
theorem shortest_search (tie : Tie) (h : 0 < rank) :
    ∃ (n k : Nat), let first := leadingExponent (unitsOf rank)
      shortest tie rank = .ofMultiple n (first - k) ∧ onGrid? tie rank (first - k) = some n ∧
        ∀ j < k, onGrid? tie rank (first - j) = none := by
  unfold shortest
  simp only
  obtain ⟨m, hm⟩ := exists_onGrid?_last tie h
  generalize leadingExponent (unitsOf rank) = first at hm ⊢
  split
  · rename_i n place hfind
    rw [List.findSome?_map] at hfind
    obtain ⟨before, k, after, hrange, hk, hbefore⟩ := List.findSome?_eq_some_iff.mp hfind
    obtain ⟨n', hn', heq⟩ := Option.map_eq_some_iff.mp hk
    cases heq
    refine ⟨n, k, rfl, hn', fun j hj => ?_⟩
    -- the places tried before are those of the smaller numbers
    have hmem : j ∈ before := by
      rw [List.range_eq_range', List.range'_eq_append_iff] at hrange
      obtain ⟨m, -, rfl, hrest⟩ := hrange
      have hk := (List.range'_eq_cons_iff.mp hrest.symm).1
      rw [List.mem_range'_1]
      omega
    simpa using hbefore j hmem
  · rename_i hnone
    rw [List.findSome?_eq_none_iff] at hnone
    have hlast := hnone (first - (16 : Nat)) (List.mem_map.mpr ⟨16, by simp, rfl⟩)
    rw [hm] at hlast
    cases hlast

/-- The search ends at a grid that has a point which rounds to the rank, if the coarser ones
have none. -/
theorem shortest_eq_of_onGrid? {first : Int} {k : Nat} (h : 0 < rank)
    (hfirst : leadingExponent (unitsOf rank) = first)
    (hcoarse : ∀ j : Nat, j < k → onGrid? tie rank (first - j) = none)
    (hfine : onGrid? tie rank (first - k) = some n) :
    shortest tie rank = .ofMultiple n (first - k) := by
  obtain ⟨m, i, heq, hfound, hnone⟩ := shortest_search tie h
  simp only [hfirst] at heq hfound hnone
  have hi : i = k := by
    rcases Nat.lt_trichotomy i k with hlt | hi | hgt
    · rw [hcoarse i hlt] at hfound
      cases hfound
    · exact hi
    · have hlast := hnone k hgt
      rw [hfine] at hlast
      cases hlast
  subst hi
  rw [heq, Option.some.inj (hfound.symm.trans hfine)]

/-- **What is found rounds to the rank.** -/
theorem shortest_eq (tie : Tie) (h : 0 < rank) :
    ∃ n place, 0 < n ∧ shortest tie rank = .ofMultiple n place ∧
      RoundsTo (n * 10 ^ place * one) rank := by
  obtain ⟨n, k, heq, hfound, -⟩ := shortest_search tie h
  have hr := roundsTo_of_onGrid? hfound
  refine ⟨n, _, ?_, heq, hr⟩
  rcases Nat.eq_zero_or_pos n with rfl | hn
  · have := RoundsTo.zero.unique (by simpa using hr)
    omega
  · exact hn

/-! ### Digits with an exponent -/

/-- The number that digits with an exponent stand for. -/
def Scientific.magnitude (s : Scientific) : ℚ :=
  Numeral.value s.digits * 10 ^ (s.exponent + 1 - s.digits.length)

/-- Digits that start with the first one that counts. -/
structure Scientific.IsNormal (s : Scientific) : Prop where
  nonempty : s.digits ≠ []
  isDigit : ∀ c ∈ s.digits, c.isDigit = true
  head : s.digits.head? ≠ some '0'

theorem exists_dropZeros_append (ds : List Char) :
    ∃ k, dropZeros ds ++ List.replicate k '0' = ds := by
  refine ⟨(ds.reverse.takeWhile (· == '0')).length, ?_⟩
  have hzeros : ds.reverse.takeWhile (· == '0')
      = List.replicate (ds.reverse.takeWhile (· == '0')).length '0' := by
    refine List.eq_replicate_of_mem fun c hc => ?_
    simpa using List.all_eq_true.mp List.all_takeWhile c hc
  have hsplit := List.takeWhile_append_dropWhile (p := (· == '0')) (l := ds.reverse)
  have hrev := congrArg List.reverse hsplit
  rw [List.reverse_append, List.reverse_reverse] at hrev
  rw [hzeros, List.reverse_replicate] at hrev
  exact hrev

variable (p : Int)

theorem isNormal_ofMultiple {m : Nat} (h : 0 < m) : (Scientific.ofMultiple m p).IsNormal := by
  obtain ⟨k, hk⟩ := exists_dropZeros_append (Numeral.digits m)
  have hne : dropZeros (Numeral.digits m) ≠ [] := by
    intro hnil
    rw [hnil, List.nil_append] at hk
    have hvalue := Numeral.value_digits m
    rw [← hk, Numeral.value_zeros] at hvalue
    omega
  refine ⟨hne, isDigit_of_mem_dropZeros (Numeral.isDigit_of_mem_digits m), ?_⟩
  have hhead := Numeral.head?_digits_ne_zero h
  rwa [← hk, List.head?_append, Option.or_of_isSome (List.isSome_head?.mpr hne)] at hhead

/-- Leaving zeros out at the end does not change the number. -/
theorem magnitude_ofMultiple (m : Nat) :
    (Scientific.ofMultiple m p).magnitude = m * 10 ^ p := by
  obtain ⟨k, hk⟩ := exists_dropZeros_append (Numeral.digits m)
  have hvalue : m = Numeral.value (dropZeros (Numeral.digits m)) * 10 ^ k := by
    rw [← Numeral.value_append_zeros, hk, Numeral.value_digits]
  have hlen : (Numeral.digits m).length = (dropZeros (Numeral.digits m)).length + k := by
    conv_lhs => rw [← hk]
    simp
  have hexp : p + (Numeral.digits m).length - 1 + 1 - (dropZeros (Numeral.digits m)).length
      = k + p := by omega
  rw [Scientific.magnitude, Scientific.ofMultiple]
  simp only
  rw [hexp, zpow_add₀ (by norm_num), zpow_natCast, ← mul_assoc]
  congr 1
  exact_mod_cast hvalue.symm

/-- **The shortest digits** of a positive rank stand for a number that rounds to it. -/
theorem shortest_spec (tie : Tie) (h : 0 < rank) :
    (shortest tie rank).IsNormal ∧ RoundsTo ((shortest tie rank).magnitude * one) rank := by
  obtain ⟨n, place, hn, heq, hr⟩ := shortest_eq tie h
  rw [heq, magnitude_ofMultiple]
  exact ⟨isNormal_ofMultiple place hn, hr⟩

end Binary64
end IndicatorStrategy

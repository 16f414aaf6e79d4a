import IndicatorStrategy.Proofs.Binary64.Shortest
/-!
# IndicatorStrategy.Proofs.Binary64.Fewest

**The shortest digits are the fewest.** No number with fewer digits than `shortest` finds
rounds to the rank, and of those with as many digits none is nearer to it.

The search tries one grid after the other, each ten times as fine as the one before, so the
points of a grid are points of all finer ones. A number with as many digits as a place of
the search allows is a point of the grid of that place, unless it lies below the leading
place of the rank; then that place itself is nearer to the rank. So where the search goes
on from a grid, no number with so few digits rounds to the rank.
-/

namespace IndicatorStrategy
namespace Binary64

-- unification must not count the units
attribute [local irreducible] one

variable {tie : Tie} {rank n : Nat} {place : Int}

/-- Between two numbers that round to a rank all do. -/
theorem RoundsTo.convex {p q r : ℚ} (hp : RoundsTo p rank) (hr : RoundsTo r rank)
    (hpq : p ≤ q) (hqr : q ≤ r) : RoundsTo q rank where
  low := by
    rcases hp.low with h | ⟨heven, h⟩
    · exact .inl (by linarith)
    · rcases hpq.lt_or_eq with hlt | rfl
      · exact .inl (by linarith)
      · exact .inr ⟨heven, h⟩
  high := by
    rcases hr.high with h | ⟨heven, h⟩
    · exact .inl (by linarith)
    · rcases hqr.lt_or_eq with hlt | rfl
      · exact .inl (by linarith)
      · exact .inr ⟨heven, h⟩

/-! ### Points of a grid -/

/-- A point of a grid. -/
def gridPoint (n : Nat) (place : Int) : ℚ := n * 10 ^ place * one

theorem gridPoint_mono {m : Nat} (h : m ≤ n) : gridPoint m place ≤ gridPoint n place := by
  have hone : (0 : ℚ) < one := Nat.cast_pos.mpr one_units_pos
  have hcast : (m : ℚ) ≤ n := Nat.cast_le.mpr h
  unfold gridPoint
  gcongr

theorem lt_of_gridPoint_lt {m : Nat} (h : gridPoint m place < gridPoint n place) : m < n :=
  Nat.lt_of_not_le fun hle => absurd (gridPoint_mono hle) (not_le.mpr h)

/-- The power of ten at a place that is not below that of a grid is a point of the grid. -/
theorem mul_pow_eq_gridPoint (m j : Nat) {e : Int} (he : e = j + place) :
    (m : ℚ) * 10 ^ e * one = gridPoint (m * 10 ^ j) place := by
  rw [gridPoint, he, zpow_add₀ (by norm_num), zpow_natCast]
  push_cast
  ring

theorem pow_eq_gridPoint (j : Nat) {e : Int} (he : e = j + place) :
    (10 : ℚ) ^ e * one = gridPoint (10 ^ j) place := by
  have h := mul_pow_eq_gridPoint 1 j he
  rwa [Nat.cast_one, one_mul, Nat.one_mul] at h

/-- A number does not lie between the two points of a grid that are next to the rank. -/
def Beside (rank : Nat) (place : Int) (q : ℚ) : Prop :=
  q ≤ gridPoint (gridBelow rank place) place ∨ gridPoint (gridBelow rank place + 1) place ≤ q

theorem beside_gridPoint (rank m : Nat) (place : Int) :
    Beside rank place (gridPoint m place) := by
  rcases Nat.lt_or_ge (gridBelow rank place) m with h | h
  · exact .inr (gridPoint_mono h)
  · exact .inl (gridPoint_mono h)

theorem beside_of_le {m : Nat} {q : ℚ} (hq : q ≤ gridPoint m place)
    (hm : gridPoint m place ≤ unitsOf rank) : Beside rank place q := by
  refine .inl (hq.trans ?_)
  rcases beside_gridPoint rank m place with h | h
  · exact h
  · exact absurd (hm.trans_lt (gridBelow_spec rank place).2) (not_lt.mpr h)

/-- If a number beside the rank rounds to it, some point of the grid does. -/
theorem exists_onGrid?_of_beside {q : ℚ} (hq : RoundsTo q rank) (h : Beside rank place q) :
    ∃ n, onGrid? tie rank place = some n := by
  obtain ⟨hle, hlt⟩ := gridBelow_spec rank place
  rcases h with h | h
  · exact exists_onGrid?_of_roundsTo (.inl rfl) (hq.convex (.self rank) h hle)
  · exact exists_onGrid?_of_roundsTo (.inr rfl) (RoundsTo.self rank |>.convex hq hlt.le h)

/-- The distances that the search compares, as numbers of units. -/
theorem grid_distances (rank : Nat) (place : Int) :
    let scale : ℚ := 2 * (gridStep place).2
    let value := center rank * (gridStep place).2
    let below := gridBelow rank place
    ((value - below * (gridStep place).1 : Nat) : ℚ)
        = (unitsOf rank - gridPoint below place) * scale ∧
      (((below + 1) * (gridStep place).1 - value : Nat) : ℚ)
        = (gridPoint (below + 1) place - unitsOf rank) * scale := by
  intro scale value below
  obtain ⟨hstep, -, heq⟩ := gridStep_spec place
  have hle : below * (gridStep place).1 ≤ value := Nat.div_mul_le_self _ _
  have hlt : value < (below + 1) * (gridStep place).1 :=
    Nat.lt_mul_of_div_lt (Nat.lt_add_one _) hstep
  rw [Nat.cast_sub hle, Nat.cast_sub hlt.le]
  simp only [scale, value, center, gridPoint]
  push_cast
  rw [heq]
  constructor <;> ring

/-- What is found is one of the two points next to the rank, and not farther from it than
the other one is, if that rounds to it as well. -/
theorem onGrid?_cases (h : onGrid? tie rank place = some n) :
    let below := gridBelow rank place
    let down : ℚ := unitsOf rank - gridPoint below place
    let up : ℚ := gridPoint (below + 1) place - unitsOf rank
    (n = below ∧ (RoundsTo (gridPoint (below + 1) place) rank → down ≤ up)) ∨
      (n = below + 1 ∧ (RoundsTo (gridPoint below place) rank → up ≤ down)) := by
  intro below down up
  obtain ⟨-, hscale, -⟩ := gridStep_spec place
  obtain ⟨hdown, hup⟩ := grid_distances rank place
  have hpos : (0 : ℚ) < 2 * (gridStep place).2 :=
    mul_pos two_pos (Nat.cast_pos.mpr hscale)
  -- the search compares whole numbers, which are the distances times one scale
  have hle {a b : Nat} {p q : ℚ} (ha : (a : ℚ) = p * (2 * (gridStep place).2))
      (hb : (b : ℚ) = q * (2 * (gridStep place).2)) (hab : a ≤ b) : p ≤ q := by
    refine le_of_mul_le_mul_right ?_ hpos
    rw [← ha, ← hb]
    exact Nat.cast_le.mpr hab
  rcases onGrid?_eq_some h with ⟨hn, -, hnear⟩ | ⟨hn, -, hnear⟩
  · refine .inl ⟨hn, fun hround => hle hdown hup (hnear ?_)⟩
    exact roundsTo_multiple_iff.mpr hround
  · refine .inr ⟨hn, fun hround => hle hup hdown (hnear ?_)⟩
    exact roundsTo_multiple_iff.mpr hround

/-- How far a number of units is from a rank. -/
def distance (rank : Nat) (q : ℚ) : ℚ := |q - unitsOf rank|

theorem distance_of_le {q : ℚ} (h : q ≤ unitsOf rank) : distance rank q = unitsOf rank - q := by
  rw [distance, abs_of_nonpos (by linarith)]
  ring

theorem distance_of_ge {q : ℚ} (h : (unitsOf rank : ℚ) ≤ q) :
    distance rank q = q - unitsOf rank :=
  abs_of_nonneg (by linarith)

/-- **No number beside the rank** that rounds to it is nearer to it than the point that is
found. -/
theorem distance_onGrid?_le (h : onGrid? tie rank place = some n) {q : ℚ}
    (hq : RoundsTo q rank) (hbeside : Beside rank place q) :
    distance rank (gridPoint n place) ≤ distance rank q := by
  obtain ⟨hle, hlt⟩ := gridBelow_spec rank place
  have hself := RoundsTo.self rank
  have hbelow := distance_of_le hle
  have habove := distance_of_ge hlt.le
  rcases hbeside with hq' | hq'
  · have hround := hq.convex hself hq' hle
    rw [distance_of_le (hq'.trans hle)]
    rcases onGrid?_cases h with ⟨rfl, -⟩ | ⟨rfl, hnear⟩
    · rw [gridPoint, hbelow]
      exact sub_le_sub_left hq' _
    · rw [gridPoint, habove]
      exact (hnear hround).trans (sub_le_sub_left hq' _)
  · have hround := hself.convex hq hlt.le hq'
    rw [distance_of_ge (hlt.le.trans hq')]
    rcases onGrid?_cases h with ⟨rfl, hnear⟩ | ⟨rfl, -⟩
    · rw [gridPoint, hbelow]
      exact (hnear hround).trans (sub_le_sub_right hq' _)
    · rw [gridPoint, habove]
      exact sub_le_sub_right hq' _

/-! ### Digits and places -/

variable {s t : Scientific}

/-- Normal digits stand for a number between the power of ten at their first digit and the
next one. -/
theorem Scientific.IsNormal.magnitude_bounds (h : s.IsNormal) :
    10 ^ s.exponent ≤ s.magnitude ∧ s.magnitude < 10 ^ (s.exponent + 1) := by
  have hlen : 0 < s.digits.length := List.length_pos_iff.mpr h.nonempty
  have hlow := Numeral.pow_le_value h.nonempty h.isDigit h.head
  have hhigh := Numeral.value_lt h.isDigit
  have hpow (k : Nat) (e : Int) (he : e = k + (s.exponent + 1 - s.digits.length)) :
      (10 : ℚ) ^ e = (10 ^ k : Nat) * 10 ^ (s.exponent + 1 - s.digits.length) := by
    rw [he, zpow_add₀ (by norm_num), zpow_natCast, Nat.cast_pow, Nat.cast_ofNat]
  rw [Scientific.magnitude, hpow (s.digits.length - 1) s.exponent (by omega),
    hpow s.digits.length (s.exponent + 1) (by omega)]
  constructor
  · gcongr
  · gcongr

theorem Scientific.IsNormal.magnitude_lt (h : s.IsNormal) {e : Int} (he : s.exponent < e) :
    s.magnitude < 10 ^ e :=
  h.magnitude_bounds.2.trans_le (zpow_le_zpow_right₀ (by norm_num) he)

theorem Scientific.IsNormal.le_magnitude (h : s.IsNormal) {e : Int} (he : e ≤ s.exponent) :
    10 ^ e ≤ s.magnitude :=
  (zpow_le_zpow_right₀ (by norm_num) he).trans h.magnitude_bounds.1

theorem le_leadingPlace (units fuel start : Nat) : start ≤ leadingPlace units fuel start := by
  induction fuel generalizing start with
  | zero => exact le_rfl
  | succ fuel ih =>
    rw [leadingPlace]
    split
    · exact le_rfl
    · exact (Nat.le_succ start).trans (ih (start + 1))

/-- The search for the leading place goes on only where the place before is too high. -/
theorem leadingPlace_lt {units : Nat} (fuel start : Nat) (h : units * 10 ^ start < one) :
    units * 10 ^ (leadingPlace units fuel (start + 1) - 1) < one := by
  induction fuel generalizing start with
  | zero => exact h
  | succ fuel ih =>
    rw [leadingPlace]
    split
    · exact h
    · rename_i hlt
      exact ih (start + 1) (Nat.lt_of_not_le hlt)

/-- The number is below the place above its first digit. -/
theorem lt_pow_leadingExponent (units : Nat) :
    (units : ℚ) < 10 ^ (leadingExponent units + 1) * one := by
  unfold leadingExponent
  split
  · have hvalue := Numeral.value_lt (Numeral.isDigit_of_mem_digits (units / one))
    rw [Numeral.value_digits, Nat.div_lt_iff_lt_mul one_units_pos] at hvalue
    rw [sub_add_cancel, zpow_natCast]
    exact_mod_cast hvalue
  · rename_i hlt
    have hplace := leadingPlace_lt 324 0 (by simpa using Nat.lt_of_not_le hlt)
    have hstart := le_leadingPlace units 324 1
    rw [Nat.zero_add] at hplace
    have hexp : -(leadingPlace units 324 1 : Int) + 1
        = -((leadingPlace units 324 1 - 1 : Nat) : Int) := by omega
    rw [hexp, zpow_neg, zpow_natCast, inv_mul_eq_div, lt_div_iff₀ (by positivity)]
    exact_mod_cast hplace

/-- Normal digits, if there are few enough of them, do not lie between the points of a grid
that are next to the rank. -/
theorem Scientific.IsNormal.beside (ht : t.IsNormal) (h : 0 < rank) {k : Nat}
    (hlen : t.digits.length ≤ k + 1) :
    Beside rank (leadingExponent (unitsOf rank) - k) (t.magnitude * one) := by
  have hfirst := pow_leadingExponent_le (strictMono_unitsOf h)
  generalize leadingExponent (unitsOf rank) = first at hfirst ⊢
  rcases Int.lt_or_le t.exponent first with hlt | hge
  · -- the leading place of the rank lies between the number and the rank
    have hpow : (10 : ℚ) ^ first * one = gridPoint (10 ^ k) (first - k) :=
      pow_eq_gridPoint k (by omega)
    rw [hpow] at hfirst
    refine beside_of_le ?_ hfirst
    rw [← hpow]
    have hmag := (ht.magnitude_lt hlt).le
    gcongr
  · obtain ⟨j, hj⟩ := Int.eq_ofNat_of_zero_le
      (show 0 ≤ t.exponent + 1 - t.digits.length - (first - k) by omega)
    have hplace : t.exponent + 1 - t.digits.length = j + (first - k) := by omega
    rw [Scientific.magnitude, mul_pow_eq_gridPoint _ j hplace]
    exact beside_gridPoint ..

/-! ### The fewest digits -/

theorem dropZeros_append_zeros (ds : List Char) (k : Nat) :
    dropZeros (ds ++ List.replicate k '0') = dropZeros ds := by
  rw [dropZeros, List.reverse_append, List.reverse_replicate,
    List.dropWhile_append_of_pos (by simp), dropZeros]

theorem length_dropZeros_le (ds : List Char) : (dropZeros ds).length ≤ ds.length := by
  obtain ⟨k, hk⟩ := exists_dropZeros_append ds
  conv_rhs => rw [← hk]
  simp

/-- The zeros at the end of a whole number need not be written. -/
theorem length_dropZeros_mul_pow {m j : Nat} (hm : 0 < m) (hlt : m < 10 ^ j) (k : Nat) :
    (dropZeros (Numeral.digits (m * 10 ^ k))).length ≤ j := by
  rw [Numeral.digits_mul_pow hm, dropZeros_append_zeros]
  exact (length_dropZeros_le _).trans (Numeral.length_digits_le hm hlt)

/-- A number up to a power of ten has no more digits than that has zeros, if the zeros at
its end are left out. -/
theorem length_ofMultiple_le {k : Nat} (hn : 0 < n) (h : n ≤ 10 ^ (k + 1)) (place : Int) :
    (Scientific.ofMultiple n place).digits.length ≤ k + 1 := by
  show (dropZeros (Numeral.digits n)).length ≤ k + 1
  rcases h.lt_or_eq with hlt | rfl
  · exact (length_dropZeros_le _).trans (Numeral.length_digits_le hn hlt)
  · have hone := length_dropZeros_mul_pow Nat.one_pos (show 1 < 10 ^ 1 by decide) (k + 1)
    rw [Nat.one_mul] at hone
    omega

/-- **The fewest digits** that stand for a number which rounds to a rank, and of these the
ones whose number is nearest to it. -/
structure Scientific.IsShortest (rank : Nat) (s : Scientific) : Prop where
  normal : s.IsNormal
  rounds : RoundsTo (s.magnitude * one) rank
  fewest : ∀ t : Scientific, t.IsNormal → RoundsTo (t.magnitude * one) rank →
    s.digits.length ≤ t.digits.length
  nearest : ∀ t : Scientific, t.IsNormal → RoundsTo (t.magnitude * one) rank →
    t.digits.length = s.digits.length →
      distance rank (s.magnitude * one) ≤ distance rank (t.magnitude * one)

/-- The place of the first digit that is found, and how many there can be. -/
theorem onGrid?_bounds {k : Nat} (h : 0 < rank)
    (hn : onGrid? tie rank (leadingExponent (unitsOf rank) - k) = some n) :
    10 ^ k ≤ n ∧ n ≤ 10 ^ (k + 1) := by
  have hfirst := pow_leadingExponent_le (strictMono_unitsOf h)
  have hnext := lt_pow_leadingExponent (unitsOf rank)
  generalize leadingExponent (unitsOf rank) = first at hn hfirst hnext
  rw [pow_eq_gridPoint k (show first = k + (first - k) by omega)] at hfirst
  rw [pow_eq_gridPoint (k + 1) (show first + 1 = (k + 1 : Nat) + (first - k) by omega)] at hnext
  obtain ⟨hle, hlt⟩ := gridBelow_spec rank (first - k)
  have hlow := lt_of_gridPoint_lt (hfirst.trans_lt hlt)
  have hhigh := lt_of_gridPoint_lt (hle.trans_lt hnext)
  rcases onGrid?_cases hn with ⟨rfl, -⟩ | ⟨rfl, -⟩
  · omega
  · omega

/-- **What the search finds** are the fewest digits, and the nearest ones. -/
theorem isShortest_shortest (tie : Tie) (h : 0 < rank) : (shortest tie rank).IsShortest rank := by
  obtain ⟨n, k, heq, hfound, hnone⟩ := shortest_search tie h
  obtain ⟨hlow, hhigh⟩ := onGrid?_bounds h hfound
  have hn : 0 < n := (Nat.pow_pos (by decide)).trans_le hlow
  have hlen := length_ofMultiple_le hn hhigh (leadingExponent (unitsOf rank) - k)
  -- on a coarser grid nothing was found
  have hfewest : ∀ t : Scientific, t.IsNormal → RoundsTo (t.magnitude * one) rank →
      k + 1 ≤ t.digits.length := by
    intro t ht hround
    by_contra hfew
    obtain ⟨j, rfl⟩ : ∃ j, k = j + 1 := ⟨k - 1, by
      have := List.length_pos_iff.mpr ht.nonempty
      omega⟩
    obtain ⟨m, hm⟩ : ∃ m, onGrid? tie rank (leadingExponent (unitsOf rank) - j) = some m :=
      exists_onGrid?_of_beside hround (ht.beside h (by omega))
    rw [hnone j (by omega)] at hm
    cases hm
  rw [heq]
  refine ⟨isNormal_ofMultiple _ hn, ?_, fun t ht hround => hlen.trans (hfewest t ht hround),
    fun t ht hround hsame => ?_⟩
  · rw [magnitude_ofMultiple]
    exact roundsTo_of_onGrid? hfound
  · rw [magnitude_ofMultiple]
    exact distance_onGrid?_le hfound hround (ht.beside h (hsame.trans_le hlen))

/-! ### The exponent of the fewest digits -/

/-- A power of ten has one digit. -/
theorem isNormal_power (e : Int) : (⟨['1'], e⟩ : Scientific).IsNormal :=
  ⟨by simp, by simp, by simp⟩

theorem magnitude_power (e : Int) : (⟨['1'], e⟩ : Scientific).magnitude = 10 ^ e := by
  have hvalue : Numeral.value ['1'] = 1 := rfl
  simp [Scientific.magnitude, hvalue]

namespace Scientific.IsShortest

variable (h : s.IsShortest rank) {e : Int}
include h

/-- The fewest digits begin no lower than the rank does: a power of ten between them and
the rank would be nearer. -/
theorem le_exponent (he : 10 ^ e * one ≤ (unitsOf rank : ℚ)) : e ≤ s.exponent := by
  by_contra hlt
  have hone : (0 : ℚ) < one := Nat.cast_pos.mpr one_units_pos
  have hmag : s.magnitude * one < 10 ^ e * one := by
    have hbound := h.normal.magnitude_lt (Int.not_le.mp hlt)
    gcongr
  have hround : RoundsTo ((⟨['1'], e⟩ : Scientific).magnitude * one) rank := by
    rw [magnitude_power]
    exact h.rounds.convex (.self rank) hmag.le he
  have hfew := h.fewest _ (isNormal_power e) hround
  have hsome := List.length_pos_iff.mpr h.normal.nonempty
  have hnear := h.nearest _ (isNormal_power e) hround (by simp at hfew ⊢; omega)
  rw [magnitude_power, distance_of_le (hmag.le.trans he), distance_of_le he] at hnear
  linarith

/-- The fewest digits begin no higher than the rank does, unless a power of ten above the
rank rounds to it. -/
theorem exponent_lt (he : (unitsOf rank : ℚ) ≤ 10 ^ e * one)
    (hpower : ¬ RoundsTo (10 ^ e * one) rank) : s.exponent < e := by
  by_contra hge
  refine hpower ((RoundsTo.self rank).convex h.rounds he ?_)
  have hbound := h.normal.le_magnitude (Int.not_lt.mp hge)
  gcongr

end Scientific.IsShortest

end Binary64
end IndicatorStrategy

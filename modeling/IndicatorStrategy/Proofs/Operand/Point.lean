import IndicatorStrategy.Proofs.Operand.Digits
/-!
# IndicatorStrategy.Proofs.Operand.Point

**Points in the JSON texts of whole numbers.** Below `2 ^ 53` a whole number is written as an
integer. From there on it is written as a double: up to sixteen digits in front of a point and
a zero behind it, and with more of them by an exponent, where a point stands behind the first
digit if that is not the only one.

So there are whole numbers whose text has a point, and `2 ^ 53` is the least of them.
-/

namespace IndicatorStrategy
namespace Binary64

-- unification must not count the units
attribute [local irreducible] one unitsOf

/-! ### Texts with a point -/

theorem not_mem_of_isDigit {ds : List Char} (h : ∀ c ∈ ds, c.isDigit = true) : '.' ∉ ds :=
  fun hmem => absurd (h '.' hmem) (by decide)

theorem not_mem_sign (negative : Bool) : '.' ∉ (sign negative).toList := by
  cases negative <;> decide

theorem not_mem_ofInt (n : Int) : '.' ∉ (Numeral.ofInt n).toList := by
  rw [toList_ofInt, List.mem_append, not_or]
  exact ⟨not_mem_sign _, not_mem_of_isDigit (Numeral.isDigit_of_mem_digits _)⟩

/-- A positional text has a point. -/
theorem mem_positional (s : Scientific) : '.' ∈ s.positional := by
  unfold Scientific.positional
  split
  · simp
  · simp only
    split <;> simp

/-- A text with an exponent has a point if it has more than one digit. -/
theorem mem_exponential_iff {s : Scientific} (h : s.IsNormal) :
    '.' ∈ s.exponential ↔ s.digits.length ≠ 1 := by
  have hexponent : '.' ∉ 'e' :: (if s.exponent < 0 then '-' else '+') ::
      Numeral.digits s.exponent.natAbs := by
    have hdigits := not_mem_of_isDigit (Numeral.isDigit_of_mem_digits s.exponent.natAbs)
    have hsign : '.' ≠ (if s.exponent < 0 then '-' else '+') := by
      split <;> decide
    simp [hdigits, hsign]
  have hdigits := not_mem_of_isDigit h.isDigit
  rw [Scientific.exponential, List.mem_append, or_iff_left hexponent]
  cases hds : s.digits with
  | nil => exact absurd hds h.nonempty
  | cons d ds =>
    rw [hds, List.mem_cons, not_or] at hdigits
    cases ds with
    | nil => simp [fraction, hdigits.1]
    | cons e es => simp [fraction]

/-! ### A single digit -/

variable {s : Scientific} {rank : Nat}

/-- A digit with zeros behind it rounds to a rank. -/
def RoundsToDigit (rank : Nat) : Prop :=
  ∃ d k : Nat, d < 10 ∧ RoundsTo ((d * 10 ^ k : Nat) * one) rank

/-- The fewest digits of a number that is not below one are a single one if a digit with
zeros behind it will do. -/
theorem length_eq_one_iff (h : 0 < rank) (hs : s.IsShortest rank) (hexponent : 0 ≤ s.exponent) :
    s.digits.length = 1 ↔ RoundsToDigit rank := by
  constructor
  · intro hlen
    obtain ⟨k, hk⟩ := exists_magnitude_eq (s := s) (by omega)
    have hvalue := Numeral.value_lt hs.normal.isDigit
    have hrounds := hs.rounds
    rw [hlen, Nat.pow_one] at hvalue
    rw [hk] at hrounds
    exact ⟨_, k, hvalue, hrounds⟩
  · intro hdigit
    obtain ⟨d, k, hd, hrounds⟩ := hdigit
    -- zero rounds to rank zero only
    have hpos : 0 < d := by
      by_contra hzero
      rw [Nat.eq_zero_of_not_pos hzero, Nat.zero_mul, Nat.cast_zero, zero_mul] at hrounds
      have := RoundsTo.zero.unique hrounds
      omega
    have hnormal := isNormal_ofMultiple k hpos
    have hmagnitude : (Scientific.ofMultiple d k).magnitude = (d * 10 ^ k : Nat) := by
      rw [magnitude_ofMultiple]
      norm_num
    have hfew := hs.fewest _ hnormal (by rw [hmagnitude]; exact hrounds)
    have hone := length_ofMultiple_le (k := 0) hpos (by omega) k
    have hsome := List.length_pos_iff.mpr hs.normal.nonempty
    omega

/-! ### JSON texts -/

theorem magnitude_doubleLayout (rank : Nat) :
    Json.doubleLayout.magnitude rank =
      let s := shortest .even rank
      if s.exponent < -5 ∨ 16 ≤ s.exponent then s.exponential else s.positional :=
  rfl

variable {n : Nat}

/-- As a double, a whole number is written without a point just if it has more than sixteen
digits and one of them with zeros will do. -/
theorem mem_magnitude_iff (h : 0 < rank) (hunits : unitsOf rank = n * one) (hn : 0 < n) :
    '.' ∈ Json.doubleLayout.magnitude rank ↔ (10 ^ 16 ≤ n → ¬ RoundsToDigit rank) := by
  have hs : (shortest .even rank).IsShortest rank := isShortest_shortest .even h
  have hlow := le_exponent_of_pow_le (k := 0) hunits hs hn
  have hlimit := exponent_lt_iff (k := 16) hunits hs (by decide)
  rw [magnitude_doubleLayout]
  simp only
  split
  · rename_i hexponent
    have hlarge : 10 ^ 16 ≤ n := Nat.le_of_not_lt fun hlt => by
      have := hlimit.mpr hlt
      omega
    rw [mem_exponential_iff hs.normal, Ne, length_eq_one_iff h hs (by omega)]
    exact ⟨fun hmem _ => hmem, fun hmem => hmem hlarge⟩
  · rename_i hexponent
    have hsmall : n < 10 ^ 16 := hlimit.mp (by omega)
    exact iff_of_true (mem_positional _) fun hge => absurd hsmall (Nat.not_lt.mpr hge)

variable {negative : Bool} {rank : Fin infinityRank} {n : Int}

/-- **The JSON text of a whole number** has a point just if the number is `2 ^ 53` or more, and
either has no more than sixteen digits or cannot be told by one of them. -/
theorem mem_compact_toJson_iff (h : (finite negative rank).toInt? = some n) :
    '.' ∈ (finite negative rank).toJson.compact.toList ↔
      2 ^ 53 ≤ n.natAbs ∧ (10 ^ 16 ≤ n.natAbs → ¬ RoundsToDigit rank) := by
  have hunits := natAbs_of_toInt? h
  have hlimit : n.natAbs ≤ maxSafeInteger ↔ n.natAbs < 2 ^ 53 := Nat.lt_succ_iff.symm
  rw [toJson, h]
  simp only [hlimit]
  rcases Nat.lt_or_ge n.natAbs (2 ^ 53) with hlt | hge
  · rw [if_pos hlt, Json.compact]
    exact iff_of_false (not_mem_ofInt n) fun hlarge => absurd hlt (Nat.not_lt.mpr hlarge.1)
  · have hpos : 0 < (rank : Nat) := (ne_zero_iff h).mp (by omega)
    rw [if_neg (Nat.not_lt.mpr hge), toJsonDouble, Json.compact, Layout.finite,
      if_neg hpos.ne', String.toList_append, String.toList_ofList, List.mem_append,
      or_iff_right (not_mem_sign negative), mem_magnitude_iff hpos hunits (by omega)]
    exact (and_iff_right hge).symm

/-- A one with sixteen zeros is written with an exponent and no point. -/
theorem not_mem_compact_toJson_tenPow16 :
    let x := finite false ⟨0x4341c37937e08000, by decide⟩
    x.toInt? = some (10 ^ 16) ∧ '.' ∉ x.toJson.compact.toList := by
  intro x
  have hwhole : x.toInt? = some (10 ^ 16) := by decide +kernel
  have hunits : unitsOf 0x4341c37937e08000 = 1 * 10 ^ 16 * one := by decide +kernel
  have hdigit : RoundsToDigit 0x4341c37937e08000 := by
    refine ⟨1, 16, by decide, ?_⟩
    have hself := RoundsTo.self 0x4341c37937e08000
    rw [hunits, Nat.cast_mul] at hself
    exact hself
  refine ⟨hwhole, fun hmem => ?_⟩
  exact ((mem_compact_toJson_iff hwhole).mp hmem).2 (by decide) hdigit

/-- The least whole number whose text has a point. -/
theorem compact_toJson_twoPow53 :
    let x := finite false ⟨0x4340000000000000, by decide⟩
    x.toInt? = some (2 ^ 53) ∧ x.toJson.compact = "9007199254740992.0" := by
  intro x
  have hwhole : x.toInt? = some 9007199254740992 := by decide +kernel
  have hquotient : unitsOf 0x4340000000000000 / one = 9007199254740992 := by decide +kernel
  have hfirst : leadingExponent (unitsOf 0x4340000000000000) = 15 := by
    rw [leadingExponent, if_pos (by decide +kernel), hquotient]
    cbv
  have hcoarse : ∀ j : Nat, j < 15 → onGrid? .even 0x4340000000000000 (15 - j) = none := by
    decide +kernel
  have hfine : onGrid? .even 0x4340000000000000 (15 - (15 : Nat)) = some 9007199254740992 := by
    decide +kernel
  have hshortest := shortest_eq_of_onGrid? (by decide) hfirst hcoarse hfine
  have hjson : x.toJson = .double false ⟨0x4340000000000000, by decide⟩ := by
    rw [toJson, hwhole]
    rfl
  refine ⟨hwhole, ?_⟩
  rw [hjson, Json.compact, Layout.finite, if_neg (by decide), magnitude_doubleLayout, hshortest]
  cbv

end Binary64
end IndicatorStrategy

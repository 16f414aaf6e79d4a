import IndicatorStrategy.Numeral
import IndicatorStrategy.Binary64.Basic
/-!
# IndicatorStrategy.Binary64.Shortest

**The fewest digits that read back.** The values that round to a finite double
`r` fill an interval, from half-way to the double below to half-way to the double
above; the ends belong to it exactly when the rank is even. Among the decimals
with the fewest digits inside this interval, `shortest` picks the one nearest to
`r`; of two equally near ones the caller's rule picks.

Everything is counted in half units, so the ends of the interval are integers,
and scaled by a power of ten when the decimal has a fraction.
-/

namespace IndicatorStrategy
namespace Binary64

/-- Which of two equally near decimals is written. -/
inductive Tie
  | up
  | even
  deriving DecidableEq

/-- Digits `d₀ d₁ d₂ …` standing for `d₀.d₁d₂… × 10 ^ exponent`. -/
structure Scientific where
  digits : List Char
  exponent : Int
  deriving DecidableEq

/-- Twice the magnitude of a rank, in half units. -/
def center (rank : Nat) : Nat := 2 * unitsOf rank

/-- Whether `value / scale` half units round to a positive rank. -/
def roundsTo (rank value scale : Nat) : Bool :=
  let low := (unitsOf (rank - 1) + unitsOf rank) * scale
  let high := (unitsOf rank + unitsOf (rank + 1)) * scale
  (low < value && value < high) || (rank % 2 == 0 && (low == value || high == value))

/-- A power of ten in half units, with the scale that makes it a natural number. -/
def gridStep (place : Int) : Nat × Nat :=
  if 0 ≤ place then (Nat.pow 10 place.toNat * (2 * one), 1)
  else (2 * one, Nat.pow 10 (-place).toNat)

/-- The multiple of `10 ^ place` written for a rank, if one rounds to it. -/
def onGrid? (tie : Tie) (rank : Nat) (place : Int) : Option Nat :=
  let (step, scale) := gridStep place
  let value := center rank * scale
  let below := value / step
  let above := below + 1
  match roundsTo rank (below * step) scale, roundsTo rank (above * step) scale with
  | false, false => none
  | true, false => some below
  | false, true => some above
  | true, true =>
    -- both read back, so the nearer one is written
    let down := value - below * step
    let up := above * step - value
    if down < up then some below
    else if up < down then some above
    else match tie with
      | .up => some above
      | .even => some (below + below % 2)

/-- The least `k ≥ start` with `one ≤ units * 10 ^ k`, searching `fuel` places. -/
def leadingPlace (units : Nat) : Nat → Nat → Nat
  | 0, start => start
  | fuel + 1, start =>
    if one ≤ units * Nat.pow 10 start then start else leadingPlace units fuel (start + 1)

/-- The decimal exponent of the first digit of a positive number of units; no
double needs more than 324 places after the point. -/
def leadingExponent (units : Nat) : Int :=
  if one ≤ units then (Numeral.digits (units / one)).length - 1
  else -(leadingPlace units 324 1 : Nat)

/-- Drops the zeros at the end of a run of digits. -/
def dropZeros (ds : List Char) : List Char := (ds.reverse.dropWhile (· == '0')).reverse

/-- A multiple of a power of ten, normalised. -/
def Scientific.ofMultiple (n : Nat) (place : Int) : Scientific :=
  let ds := Numeral.digits n
  ⟨dropZeros ds, place + ds.length - 1⟩

/-- The shortest decimal that reads back as a positive rank: the coarsest grid
with a point in the interval wins. Seventeen digits always suffice. -/
def shortest (tie : Tie) (rank : Nat) : Scientific :=
  let first := leadingExponent (unitsOf rank)
  let places : List Int := (List.range 17).map fun i => first - Int.ofNat i
  match places.findSome? fun p => (onGrid? tie rank p).map fun n => (n, p) with
  | some (n, p) => .ofMultiple n p
  | none => ⟨['0'], 0⟩

end Binary64
end IndicatorStrategy

import IndicatorStrategy.Binary64.Shortest
/-!
# IndicatorStrategy.Binary64.Layout

**Number texts.** A `Layout` holds the decisions a format takes about finite
doubles: which exponents are written positionally, how whole numbers look, and
which of two equally near decimals is chosen. The digits themselves are always
the shortest that read back, whole numbers in an exact layout apart.
-/

namespace IndicatorStrategy
namespace Binary64

/-- How a whole number is written positionally. -/
inductive Whole
  /-- By all digits of its exact value; zero carries no sign. -/
  | exact
  /-- By its shortest digits, padded with zeros, and `.0`. -/
  | pointed
  deriving DecidableEq

/-- The decisions of a number format. Numbers are positional when the exponent of
their first digit lies from `least` up to, and not including, `limit`. -/
structure Layout where
  least : Int
  limit : Int
  whole : Whole
  tie : Tie

/-- A minus sign for a negative number. -/
def sign (negative : Bool) : String := if negative then "-" else ""

/-- Zeros in a row. -/
def zeros (n : Nat) : List Char := List.replicate n '0'

/-- The fraction of a number: a point and digits, or nothing. -/
def fraction : List Char → List Char
  | [] => []
  | ds => '.' :: ds

/-- Digits with the point where the exponent puts it; `.0` after a whole number. -/
def Scientific.positional (s : Scientific) : List Char :=
  if s.exponent < 0 then '0' :: '.' :: zeros (-s.exponent - 1).toNat ++ s.digits
  else
    let places := s.exponent.toNat + 1
    if s.digits.length ≤ places then
      s.digits ++ zeros (places - s.digits.length) ++ ['.', '0']
    else s.digits.take places ++ '.' :: s.digits.drop places

/-- Digits with the point after the first and a signed exponent. -/
def Scientific.exponential (s : Scientific) : List Char :=
  s.digits.take 1 ++ fraction (s.digits.drop 1) ++ 'e' ::
    (if s.exponent < 0 then '-' else '+') :: Numeral.digits s.exponent.natAbs

/-- The text of a finite magnitude that is not zero. -/
def Layout.magnitude (layout : Layout) (rank : Nat) : List Char :=
  let s := shortest layout.tie rank
  let units := unitsOf rank
  if s.exponent < layout.least ∨ layout.limit ≤ s.exponent then s.exponential
  else match layout.whole with
    | .exact => if units % one = 0 then Numeral.digits (units / one) else s.positional
    | .pointed => s.positional

/-- The text of a finite double. -/
def Layout.finite (layout : Layout) (negative : Bool) (rank : Nat) : String :=
  if rank = 0 then
    match layout.whole with
    | .exact => "0"
    | .pointed => sign negative ++ "0.0"
  else sign negative ++ String.ofList (layout.magnitude rank)

end Binary64
end IndicatorStrategy

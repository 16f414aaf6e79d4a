import IndicatorStrategy.Numeral
import IndicatorStrategy.Binary64.Basic
/-!
# IndicatorStrategy.Binary64.Decimal

**Decimal literals** and the doubles they name. A literal is an optional sign,
digits with an optional point and at least one digit, and an optional exponent;
it names the double nearest to its value, and an infinity when that is too large.
The words for infinity and not-a-number are read by `Binary64.read?` as well, in
any case.
-/

namespace IndicatorStrategy

/-- The number `± digits × 10 ^ scale`. -/
structure Decimal where
  negative : Bool
  digits : List Char
  scale : Int

namespace Decimal

/-- Splits an optional sign off; `true` for a minus. -/
def splitSign : List Char → Bool × List Char
  | '+' :: cs => (false, cs)
  | '-' :: cs => (true, cs)
  | cs => (false, cs)

/-- Splits a fraction off: the digits after a point. -/
def splitFraction : List Char → List Char × List Char
  | '.' :: cs => (cs.takeWhile Char.isDigit, cs.dropWhile Char.isDigit)
  | cs => ([], cs)

/-- The exponent at the end of a literal, which may be absent. -/
def exponent? : List Char → Option Int
  | [] => some 0
  | c :: cs => if c = 'e' ∨ c = 'E' then Numeral.integer? cs else none

/-- The decimal a whole text writes. -/
def read? (cs : List Char) : Option Decimal :=
  let (negative, cs) := splitSign cs
  let whole := cs.takeWhile Char.isDigit
  let (fraction, cs) := splitFraction (cs.dropWhile Char.isDigit)
  if whole.isEmpty && fraction.isEmpty then none
  else (exponent? cs).map fun e => ⟨negative, whole ++ fraction, e - fraction.length⟩

/-- The double nearest to a decimal. A scale of 310 or more puts any non-zero
value beyond the finite doubles; a value below `10 ^ (-330)` is nearest to zero. -/
def toBinary64 (d : Decimal) : Binary64 :=
  let n := Numeral.value d.digits
  if n = 0 then .ofRank d.negative 0
  else if 310 ≤ d.scale then .infinite d.negative
  else if d.scale + d.digits.length < -330 then .ofRank d.negative 0
  else if 0 ≤ d.scale then .ofRatio d.negative (n * Nat.pow 10 d.scale.toNat) 1
  else .ofRatio d.negative n (Nat.pow 10 (-d.scale).toNat)

end Decimal

namespace Binary64

/-- The double named by a word without its sign. -/
def word? (negative : Bool) (cs : List Char) : Option Binary64 :=
  let word := String.ofList (cs.map Char.toLower)
  if word = "inf" ∨ word = "infinity" then some (.infinite negative)
  else if word = "nan" then some nan
  else none

/-- The double a whole text names: a decimal literal, or a word for infinity or
not-a-number with an optional sign. -/
def read? (cs : List Char) : Option Binary64 :=
  let (negative, rest) := Decimal.splitSign cs
  (word? negative rest).or ((Decimal.read? cs).map Decimal.toBinary64)

/-- The double a text names. -/
def ofString? (s : String) : Option Binary64 := read? s.toList

end Binary64
end IndicatorStrategy

import IndicatorStrategy.Binary64.Decimal
import IndicatorStrategy.Binary64.Layout
import IndicatorStrategy.Json.Basic
import IndicatorStrategy.Text.WhiteSpace
/-!
# IndicatorStrategy.Operand.Number

**Numbers of a strategy**: how the text of a form field becomes a number, how a
number is written in an expression, and which JSON value stands for it.

* A blank field is zero. A field that starts with `0x`, `0o` or `0b` is read in
  that radix. Any other field is a decimal, and what is no number is
  not-a-number. An infinity is only accepted when it is spelt `Infinity`, so a
  decimal beyond the doubles is not-a-number too.
* In an expression a number up to `10 ^ 21` is positional and a whole number has
  no point.
* In JSON a whole number is an integer as long as its neighbours are doubles.
-/

namespace IndicatorStrategy
namespace Binary64

/-! ### Reading a form field -/

/-- The value of a digit in a radix up to sixteen. -/
def radixDigit? (radix : Nat) (c : Char) : Option Nat :=
  let n := c.toNat
  let d? :=
    if 48 ≤ n && n ≤ 57 then some (n - 48)
    else if 97 ≤ n && n ≤ 102 then some (n - 87)
    else if 65 ≤ n && n ≤ 70 then some (n - 55)
    else none
  d?.filter (· < radix)

/-- The number built from digits, most significant first; each step rounds twice. -/
def radixValue (radix : Nat) (x : Binary64) : List Char → Binary64
  | [] => x
  | c :: cs =>
    match radixDigit? radix c with
    | some d => radixValue radix ((x.mulNat radix).addNat d) cs
    | none => nan

/-- The radix that a leading `0x`, `0o` or `0b` announces, and what follows it. -/
def splitRadix? : List Char → Option (Nat × List Char)
  | '0' :: c :: cs =>
    if c = 'x' ∨ c = 'X' then some (16, cs)
    else if c = 'o' ∨ c = 'O' then some (8, cs)
    else if c = 'b' ∨ c = 'B' then some (2, cs)
    else none
  | _ => none

/-- The number written after the mark of a radix; without digits it is none. -/
def ofRadixDigits (radix : Nat) (cs : List Char) : Binary64 :=
  if cs.isEmpty then nan else radixValue radix zero cs

/-- The number a trimmed text without a radix mark writes. -/
def ofDecimalField (cs : List Char) : Binary64 :=
  match read? cs with
  | none => nan
  | some (.infinite negative) =>
    if (Decimal.splitSign cs).2 = "Infinity".toList then .infinite negative else nan
  | some x => x

/-- The number entered in a form field. -/
def ofField (raw : String) : Binary64 :=
  match trimChars raw.toList with
  | [] => zero
  | cs =>
    match splitRadix? cs with
    | some (radix, digits) => ofRadixDigits radix digits
    | none => ofDecimalField cs

/-! ### Writing in an expression -/

/-- Expressions write exponents from -6 to 20 positionally and whole numbers in
full. -/
def expressionLayout : Layout := ⟨-6, 21, .exact, .up⟩

/-- The text of a number in an expression. -/
def expressionText : Binary64 → String
  | nan => "NaN"
  | infinite negative => sign negative ++ "Infinity"
  | finite negative rank => expressionLayout.finite negative rank

/-! ### Writing in JSON -/

/-- The greatest magnitude written as a JSON integer. -/
def maxSafeInteger : Nat := 9007199254740991

/-- A number as a JSON double; `null` for what JSON cannot express. -/
def toJsonDouble : Binary64 → Json
  | finite negative rank => .double negative rank
  | _ => .null

/-- The JSON value of a number: an integer if possible, else a double. -/
def toJson (x : Binary64) : Json :=
  match x.toInt? with
  | some n => if n.natAbs ≤ maxSafeInteger then .int n else x.toJsonDouble
  | none => x.toJsonDouble

end Binary64
end IndicatorStrategy

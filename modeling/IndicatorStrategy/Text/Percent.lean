import IndicatorStrategy.Numeral
/-!
# IndicatorStrategy.Text.Percent

**Percent escapes**: a percent sign and two hexadecimal digits stand for a byte, and
every other character for its own bytes. An escaped null byte ends the text.
-/

namespace IndicatorStrategy
namespace Percent

/-- The byte that two characters denote as hexadecimal digits. -/
def byte? (high low : Char) : Option Nat := do
  return 16 * (← Numeral.hexValue? high) + (← Numeral.hexValue? low)

/-- The bytes of an escaped text. -/
def bytes : List Char → List UInt8
  | [] => []
  | '%' :: high :: low :: cs =>
    match byte? high low with
    | some 0 => []
    | some n => UInt8.ofNat n :: bytes cs
    | none => String.utf8EncodeChar '%' ++ bytes (high :: low :: cs)
  | c :: cs => String.utf8EncodeChar c ++ bytes cs

/-- The text of some bytes; bytes that encode no text leave a replacement character
for each byte outside ASCII. -/
def textOf (bs : List UInt8) : String :=
  (String.fromUTF8? ⟨bs.toArray⟩).getD <|
    String.ofList (bs.map fun b => if b < 128 then Char.ofNat b.toNat else '\uFFFD')

/-- The text that an escaped text stands for. -/
def decode (cs : List Char) : String := textOf (bytes cs)

end Percent
end IndicatorStrategy

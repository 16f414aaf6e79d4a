import IndicatorStrategy.Text.VisibleTable
import IndicatorStrategy.Text.CaseTable
/-!
# IndicatorStrategy.Text.Quoted

**Texts in quotes for reading by people**: what cannot be seen is escaped, so that
two different texts never look alike. Short escapes exist for the quote, the
backslash, the null character and the common controls; everything else without a
shape of its own is written by its code point.
-/

namespace IndicatorStrategy

/-- Whether a character is shown as it is. -/
def isVisible (c : Char) : Bool :=
  if c.toNat < 128 then 0x20 ≤ c.toNat && c.toNat < 0x7F
  else !inRanges graphemeExtendRanges c && !inRanges unprintableRanges c

/-- A character inside quotes. -/
def showChar (c : Char) : List Char :=
  match c with
  | '\x00' => ['\\', '0']
  | '\t' => ['\\', 't']
  | '\r' => ['\\', 'r']
  | '\n' => ['\\', 'n']
  | '"' => ['\\', '"']
  | '\\' => ['\\', '\\']
  | c =>
    if isVisible c then [c]
    else ['\\', 'u', '\x7b'] ++ Nat.toDigits 16 c.toNat ++ ['\x7d']

/-- A text in quotes. -/
def showQuoted (s : String) : String :=
  String.ofList ('"' :: s.toList.flatMap showChar ++ ['"'])

end IndicatorStrategy

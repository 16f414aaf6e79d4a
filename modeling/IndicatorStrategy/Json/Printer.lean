import IndicatorStrategy.Binary64.Layout
import IndicatorStrategy.Json.Basic
/-!
# IndicatorStrategy.Json.Printer

**JSON texts.** `Json.compact` writes a value without any blanks, `Json.pretty`
with one item or member on a line, indented by two spaces a level; empty arrays
and objects stay closed up.

In a string only the quote, the backslash and the control characters below the
space are escaped. A double is positional for exponents from -5 to 15 and always
shows a point or an exponent, so that it reads back as a double.
-/

namespace IndicatorStrategy
namespace Json

/-! ### Strings and numbers -/

/-- A lower-case hexadecimal digit. -/
def hexDigit (d : Nat) : Char := if d < 10 then Char.ofNat (48 + d) else Char.ofNat (87 + d)

/-- A character inside a string. -/
def escapeChar (c : Char) : List Char :=
  match c with
  | '"' => ['\\', '"']
  | '\\' => ['\\', '\\']
  | '\n' => ['\\', 'n']
  | '\r' => ['\\', 'r']
  | '\t' => ['\\', 't']
  | '\x08' => ['\\', 'b']
  | '\x0c' => ['\\', 'f']
  | c =>
    if c.toNat < 0x20 then
      ['\\', 'u', '0', '0', hexDigit (c.toNat / 16), hexDigit (c.toNat % 16)]
    else [c]

/-- A string in quotes. -/
def quote (s : String) : String :=
  String.ofList ('"' :: s.toList.flatMap escapeChar ++ ['"'])

/-- How doubles are written. -/
def doubleLayout : Binary64.Layout := ⟨-5, 16, .pointed, .even⟩

/-! ### Compact texts -/

mutual

/-- A value without blanks. -/
def compact : Json → String
  | null => "null"
  | bool b => if b then "true" else "false"
  | int n => Numeral.ofInt n
  | double negative rank => doubleLayout.finite negative rank
  | string s => quote s
  | array items => "[" ++ compactItems items ++ "]"
  | object members => "\x7b" ++ compactMembers members ++ "\x7d"

/-- The items of an array, separated by commas. -/
def compactItems : List Json → String
  | [] => ""
  | [v] => v.compact
  | v :: vs => v.compact ++ "," ++ compactItems vs

/-- The members of an object, separated by commas. -/
def compactMembers : List (String × Json) → String
  | [] => ""
  | [(k, v)] => quote k ++ ":" ++ v.compact
  | (k, v) :: ms => quote k ++ ":" ++ v.compact ++ "," ++ compactMembers ms

end

/-! ### Indented texts -/

/-- A new line at a depth of nesting. -/
def newLine (depth : Nat) : String := "\n" ++ String.ofList (List.replicate (2 * depth) ' ')

mutual

/-- A value on lines of its own, at a depth of nesting. -/
def prettyAt (depth : Nat) : Json → String
  | array [] => "[]"
  | array (v :: vs) =>
    "[" ++ newLine (depth + 1) ++ v.prettyAt (depth + 1) ++ prettyItems (depth + 1) vs
      ++ newLine depth ++ "]"
  | object [] => "\x7b\x7d"
  | object ((k, v) :: ms) =>
    "\x7b" ++ newLine (depth + 1) ++ quote k ++ ": " ++ v.prettyAt (depth + 1)
      ++ prettyMembers (depth + 1) ms ++ newLine depth ++ "\x7d"
  | v => v.compact

/-- The further items of an array. -/
def prettyItems (depth : Nat) : List Json → String
  | [] => ""
  | v :: vs => "," ++ newLine depth ++ v.prettyAt depth ++ prettyItems depth vs

/-- The further members of an object. -/
def prettyMembers (depth : Nat) : List (String × Json) → String
  | [] => ""
  | (k, v) :: ms =>
    "," ++ newLine depth ++ quote k ++ ": " ++ v.prettyAt depth ++ prettyMembers depth ms

end

/-- A value on indented lines. -/
def pretty (v : Json) : String := v.prettyAt 0

end Json
end IndicatorStrategy

import IndicatorStrategy.Configuration.Basic
import IndicatorStrategy.Text.Join
import IndicatorStrategy.Text.WhiteSpace
/-!
# IndicatorStrategy.Configuration.Ini

**Configuration files** in INI form, read line by line.

* A comment reaches from `;` or `#` to the end of its line; blanks around a line,
  a name, a key and a value do not count.
* `[name]` starts a section, which may be continued later; what follows the last
  bracket is ignored. Keys in front of all sections belong to `default`.
* Any other line is a key, with a value behind the first `=` or `:` if there is
  one. A later line for the same key wins.

Names and keys are kept in small letters, values as they are.
-/

namespace IndicatorStrategy

/-- What is wrong with a line of a file; lines count from one. -/
inductive IniFault
  | unclosedName (line : Nat)
  | emptyKey (line : Nat)
  deriving DecidableEq

/-- The fault and its place. A key is empty only in front of a delimiter in the
first column. -/
def IniFault.message : IniFault → String
  | unclosedName line =>
    "line " ++ Numeral.ofNat line
      ++ ": Found opening bracket for section name but no closing bracket"
  | emptyKey line => "line " ++ Numeral.ofNat line ++ ":0: Key cannot be empty"

namespace Ini

/-- What a line of a file says. -/
inductive Line
  | nothing
  | name (name : String)
  | entry (key : String) (value? : Option String)
  | unclosedName
  | emptyKey
  deriving DecidableEq

/-- Whether a comment starts with a character. -/
def isComment (c : Char) : Bool := c == ';' || c == '#'

/-- Whether a character separates a key from its value. -/
def isDelimiter (c : Char) : Bool := c == '=' || c == ':'

/-- The text of a name or key in small letters. -/
def normalName (cs : List Char) : String := lower (String.ofList (trimChars cs))

/-- The section name in front of the last closing bracket. -/
def readName (cs : List Char) : Line :=
  match cs.reverse.dropWhile (· != ']') with
  | [] => .unclosedName
  | _ :: back => .name (normalName back.reverse)

/-- The key and its value. -/
def readEntry (cs : List Char) : Line :=
  match cs.dropWhile (!isDelimiter ·) with
  | [] => .entry (normalName cs) none
  | _ :: value =>
    let key := cs.takeWhile (!isDelimiter ·)
    if (trimChars key).isEmpty then .emptyKey
    else .entry (normalName key) (some (String.ofList (trimChars value)))

/-- What a line says. -/
def readLine (cs : List Char) : Line :=
  match trimChars ((trimChars cs).takeWhile (!isComment ·)) with
  | [] => .nothing
  | '[' :: cs => readName cs
  | cs => readEntry cs

/-- Adds the lines of a file, the next being line `n` in section `current`. -/
def readLines (n : Nat) (current : String) (c : Configuration) :
    List (List Char) → Except IniFault Configuration
  | [] => .ok c
  | line :: lines =>
    match readLine line with
    | .nothing => readLines (n + 1) current c lines
    | .name name => readLines (n + 1) name (c.addSection name) lines
    | .entry key value? => readLines (n + 1) current (c.put current key value?) lines
    | .unclosedName => .error (.unclosedName n)
    | .emptyKey => .error (.emptyKey n)

/-- The section of the keys in front of all section names. -/
def defaultSection : String := "default"

end Ini

/-- The configuration that a file writes. -/
def Configuration.ofText (text : String) : Except IniFault Configuration :=
  Ini.readLines 1 Ini.defaultSection .empty (splitAtChar '\n' text.toList)

end IndicatorStrategy

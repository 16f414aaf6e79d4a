import IndicatorStrategy.Expression.Basic
import IndicatorStrategy.Numeral
import IndicatorStrategy.Text.Quoted
/-!
# IndicatorStrategy.CommandLine.Listing

**Listings for reading by people**: the catalog with one indicator on a line, and
an expression with one condition on a line. Every line ends in a line break.
-/

namespace IndicatorStrategy

/-- A text with blanks up to a width in characters; a longer text stays whole. -/
def padRight (width : Nat) (s : String) : String :=
  s ++ String.ofList (List.replicate (width - s.length) ' ')

/-- Lines one after the other. -/
def unlines (lines : List String) : String := String.join (lines.map (· ++ "\n"))

@[simp] theorem unlines_nil : unlines [] = "" := rfl

/-! ### The catalog -/

/-- A short name of a type. -/
def FieldType.abbreviation : FieldType → String
  | integer => "int"
  | text => "str"

/-- A parameter with its type. -/
def Field.summary (f : Field) : String := f.key ++ ":" ++ f.type.abbreviation

/-- An indicator with its wire key, label and parameters, in columns. -/
def Indicator.line (i : Indicator) : String :=
  padRight 12 i.kind ++ " " ++ padRight 12 (wireKey i.kind) ++ " " ++ padRight 26 i.label
    ++ " " ++ joinWith ", " (i.fields.map Field.summary)

/-- All indicators. -/
def Catalog.listing : String := unlines (Catalog.indicators.map Indicator.line)

/-! ### Expressions -/

/-- A condition, marked if no indicator has its key. -/
def Term.line (t : Term) : String :=
  "  " ++ t.key ++ " operands=" ++ showQuoted t.operands ++ " trend=" ++ t.trend.wire
    ++ if t.isKnown then "" else " (unknown key)"

/-- The clause with a given number. -/
def Clause.lines (number : Nat) (c : Clause) : List String :=
  let heading := "group " ++ Numeral.ofNat number ++ ":"
  match c with
  | placeholder => [heading ++ " empty"]
  | terms ts => heading :: ts.map Term.line

/-- The clauses of an expression, numbered from one. -/
def Expression.listing (e : Expression) : String :=
  unlines ((e.clauses.zipIdx 1).flatMap fun p => p.1.lines p.2)

end IndicatorStrategy

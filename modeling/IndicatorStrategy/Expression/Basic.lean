import IndicatorStrategy.Catalog
import IndicatorStrategy.Text.Join
import IndicatorStrategy.Vocabulary
/-!
# IndicatorStrategy.Expression.Basic

**Expressions**: the text form of one side that the backtest engine evaluates.

```text
expression := clause ( " | " clause )*
clause     := "___" | term | "(" term ( " & " term )+ ")"
term       := KEY operands trend
```

Operands follow each other without separators, so a term keeps them as one opaque
text. `Expression.text` writes an expression in this grammar.
-/

namespace IndicatorStrategy

/-- One condition of an expression. -/
structure Term where
  key : String
  operands : String
  trend : Trend
  deriving DecidableEq

namespace Term

/-- The text of a term. -/
def text (t : Term) : String := t.key ++ t.operands ++ t.trend.wire

/-- Whether the key is the wire key of an indicator. -/
def isKnown (t : Term) : Bool := Catalog.wireKeys.contains t.key

end Term

/-- A part of an expression: a place without conditions, or conditions that must
hold together. -/
inductive Clause
  | placeholder
  | terms (terms : List Term)
  deriving DecidableEq

namespace Clause

/-- What stands for a clause without conditions. -/
def placeholderText : String := "___"

/-- What stands between conditions that must hold together. -/
def separator : String := " & "

/-- Pieces that must hold together, in parentheses. -/
def parenthesized (pieces : List String) : String := "(" ++ joinWith separator pieces ++ ")"

/-- The text of a clause. -/
def text : Clause → String
  | placeholder => placeholderText
  | terms [t] => t.text
  | terms ts => parenthesized (ts.map Term.text)

/-- The conditions of a clause. -/
def toTerms : Clause → List Term
  | placeholder => []
  | terms ts => ts

end Clause

/-- One side of a strategy: it holds when one of its clauses does. -/
structure Expression where
  clauses : List Clause
  deriving DecidableEq

namespace Expression

/-- What stands between clauses. -/
def separator : String := " | "

/-- The text of an expression. -/
def text (e : Expression) : String := joinWith separator (e.clauses.map Clause.text)

/-- The conditions of all clauses. -/
def terms (e : Expression) : List Term := e.clauses.flatMap Clause.toTerms

end Expression
end IndicatorStrategy

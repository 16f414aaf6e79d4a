import IndicatorStrategy.Assoc
import IndicatorStrategy.Catalog
import IndicatorStrategy.Operand.Number
/-!
# IndicatorStrategy.Operand.Basic

**Operands**: the parameter values of an indicator. An integer field holds
whatever number its text coerces to, not-a-number included; every other field
holds text. `Parameters` keep them in the order in which they were first set.
-/

namespace IndicatorStrategy

/-- The value of one parameter. -/
inductive Operand
  | number (value : Binary64)
  | text (value : String)
  deriving DecidableEq

namespace Operand

/-- Empty text counts as no value. -/
def isEmpty : Operand → Bool
  | number _ => false
  | text s => s.isEmpty

/-- The text of a value inside an expression. -/
def render : Operand → String
  | number x => x.expressionText
  | text s => s

/-- The JSON value of a parameter. -/
def toJson : Operand → Json
  | number x => x.toJson
  | text s => .string s

/-- The value a form field starts with. -/
def initial : FieldType → Operand
  | .integer => number .zero
  | .text => text ""

/-- Equality of values; numbers are compared numerically. -/
def equals : Operand → Operand → Bool
  | number x, number y => x.equals y
  | text s, text t => s == t
  | _, _ => false

@[simp] theorem isEmpty_number (x : Binary64) : (number x).isEmpty = false := rfl

end Operand

/-- Parameter values in the order in which they were first set. -/
abbrev Parameters := Assoc String Operand

namespace Parameters

/-- The parameters a kind starts with. -/
def initial (kind : String) : Parameters :=
  (Catalog.fields kind).foldl (fun ps f => Assoc.put ps f.key (Operand.initial f.type)) []

/-- Whether two lists of parameters hold equal values under the same keys. -/
def equals : Parameters → Parameters → Bool
  | [], [] => true
  | (k, v) :: ps, (l, w) :: qs => k == l && v.equals w && equals ps qs
  | _, _ => false

end Parameters
end IndicatorStrategy

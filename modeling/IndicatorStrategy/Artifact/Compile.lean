import IndicatorStrategy.Artifact.Basic
import IndicatorStrategy.Draft.Basic
import IndicatorStrategy.Expression.Basic
/-!
# IndicatorStrategy.Artifact.Compile

**Compiling a draft.** Both artifacts are functions of the draft alone.

* A condition becomes an object with its values in the order in which they were
  set, empty ones left out, and then what it is compared with.
* A condition becomes a term with its values in the order of the catalog. The
  engine can only tell them apart because their number and order never vary.
-/

namespace IndicatorStrategy

namespace Entry

/-- The values of a condition without the empty ones. -/
def givenValues (e : Entry) : Assoc String Json :=
  (e.parameters.filter fun p => !p.2.isEmpty).foldl
    (fun m p => Assoc.put m p.1 p.2.toJson) []

/-- How a condition stands to its reference. -/
def comparison (e : Entry) : Assoc String Json :=
  ("trend", .string e.trend.wire) ::
    match e.reference with
    | .close => []
    | .constant =>
      ("compareTo", .string e.reference.wire) ::
        (e.constant?.map fun x => ("compareValue", x.toJson)).toList

/-- The parameter set of a condition: its values, then its comparison. A member of
the comparison takes the place of a value with the same key. -/
def parameterSet (e : Entry) : ParameterSet :=
  ⟨wireKey e.kind,
    e.comparison.foldl (fun m p => Assoc.put m p.1 p.2) e.givenValues⟩

/-- The texts of a condition's values, in the order of the catalog. -/
def operandTexts (e : Entry) : List String :=
  (Catalog.fields e.kind).filterMap fun f =>
    ((Assoc.get? e.parameters f.key).filter (!·.isEmpty)).map Operand.render

/-- The text of the constant a condition is compared with. -/
def constantText (e : Entry) : String :=
  match e.comparedConstant? with
  | some x => x.expressionText
  | none => ""

/-- The term of an entry, if it is a condition. -/
def term? (e : Entry) : Option String :=
  if e.isActive then
    some (wireKey e.kind ++ joinWith "" e.operandTexts ++ e.constantText ++ e.trend.wire)
  else none

end Entry

/-- The clause that holds the given terms. -/
def Clause.ofPieces : List String → String
  | [] => Clause.placeholderText
  | [piece] => piece
  | pieces => Clause.parenthesized pieces

/-- The clause of a group. -/
def Group.clause (g : Group) : String := Clause.ofPieces (g.entries.filterMap Entry.term?)

namespace Draft

/-- One parameter set for each condition. -/
def parameterSets (d : Draft) : List ParameterSet := d.active.map Entry.parameterSet

/-- One clause for each group. -/
def expression (d : Draft) : String :=
  joinWith Expression.separator (d.groups.map Group.clause)

/-- The artifacts of a draft. -/
def compile (d : Draft) : Artifact := ⟨d.parameterSets, d.expression⟩

end Draft
end IndicatorStrategy

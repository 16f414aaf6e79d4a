import IndicatorStrategy.Assoc
import IndicatorStrategy.Json.Printer
/-!
# IndicatorStrategy.Artifact.Basic

The **artifacts** that the backtest engine consumes for one side: the parameter
array, with one object for each condition, and the expression.
-/

namespace IndicatorStrategy

/-- The parameters of one condition under the wire key of its indicator. -/
structure ParameterSet where
  key : String
  values : Assoc String Json

/-- An object whose only member is the wire key. -/
def ParameterSet.toJson (p : ParameterSet) : Json := .object [(p.key, .object p.values)]

/-- The compiled form of one side. -/
structure Artifact where
  parameters : List ParameterSet
  expression : String

namespace Artifact

/-- The parameter array. -/
def parametersJson (a : Artifact) : Json := .array (a.parameters.map ParameterSet.toJson)

/-- The parameter array as it is stored. -/
def parametersText (a : Artifact) : String := a.parametersJson.compact

/-- Both artifacts in one object. -/
def toJson (a : Artifact) : Json :=
  .object [("paramArray", a.parametersJson), ("expression", .string a.expression)]

end Artifact
end IndicatorStrategy

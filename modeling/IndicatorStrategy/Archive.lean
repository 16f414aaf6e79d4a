import IndicatorStrategy.Artifact.Decode
import IndicatorStrategy.Store.Action
import IndicatorStrategy.Vocabulary
/-!
# IndicatorStrategy.Archive

**Artifacts in a store.** Each side has two keys, one for the parameter array and
one for the expression. Stored artifacts are for display and for requests only: no
draft is ever rebuilt from them. An expression is kept as it is and not checked.
-/

namespace IndicatorStrategy
namespace Archive

variable {σ : Type} [KeyValue σ]

/-- Stores the artifacts of a side, the parameters first. -/
def write (side : Side) (artifact : Artifact) : Action σ Unit := do
  Action.set side.parametersKey artifact.parametersText
  Action.set side.expressionKey artifact.expression
  Action.log .persisted

/-- The text under a key, unless it is empty or cannot be read. -/
def lookUp (key : String) : Action σ (Option String) := do
  match ← Action.attempt (Action.get key) with
  | .ok value? => return value?.filter (!·.isEmpty)
  | .error _ =>
    Action.log .readFailed
    return none

/-- The artifacts that two stored texts hold, if the first is a parameter array. -/
def restore (parameters expression : String) : Action σ (Option Artifact) :=
  match ParameterSet.listOfText parameters with
  | .ok sets => return some ⟨sets, expression⟩
  | .error _ => do
    Action.log .corruptIgnored
    return none

/-- The stored artifacts of a side. What is missing, unreadable or corrupt counts as
not stored. -/
def read (side : Side) : Action σ (Option Artifact) := do
  match ← lookUp side.parametersKey with
  | none => return none
  | some parameters =>
    match ← lookUp side.expressionKey with
    | none => return none
    | some expression => restore parameters expression

end Archive
end IndicatorStrategy

import IndicatorStrategy.Artifact.Basic
import IndicatorStrategy.Json.Decode
/-!
# IndicatorStrategy.Artifact.Decode

**Decoding artifacts** and other records from JSON. A record is an object whose
fields may come in any order, or an array of the fields in their order. In an
object a field must come exactly once and unknown fields are passed over; an array
holds the fields and nothing else.
-/

namespace IndicatorStrategy

open Json (DecodeError Tree)

namespace ParameterSet

/-- The parameter set that an object with a single member is. -/
def ofMembers? : Assoc String Json → Except DecodeError ParameterSet
  | [(key, .object values)] => .ok ⟨key, values⟩
  | [(key, v)] => .error (.notObject key v)
  | members => .error (.notSingle members.length)

/-- The parameter set of a tree; its object is read whole before it is judged. -/
def ofTree (depth : Nat) : Tree → Except DecodeError ParameterSet
  | .object members closed =>
    match Tree.toJson depth (.object members closed) with
    | .ok (.object ms) => ofMembers? ms
    | .ok _ => .error .mismatched
    | .error e => .error e
  | t => .error t.objection

/-- The parameter sets that a text lists. -/
def listOfText (text : String) : Except DecodeError (List ParameterSet) :=
  Json.decode (Tree.toList ofTree Json.maxDepth) text

end ParameterSet

/-! ### Records -/

/-- The type of a field of a record. -/
inductive FieldShape
  | text
  | count
  | parameters

/-- The value of a field of a record. -/
inductive FieldValue
  | text (value : String)
  | count (value : Nat)
  | parameters (sets : List ParameterSet)

/-- The fields of a record in their order. -/
abbrev Shape := List (String × FieldShape)

/-- The value of a field. -/
def FieldShape.decode (depth : Nat) (t : Tree) : FieldShape → Except DecodeError FieldValue
  | text => t.toText.map .text
  | count => t.toWord32.map .count
  | parameters => (Tree.toList ParameterSet.ofTree depth t).map .parameters

namespace Shape

/-- The fields among the members of an object. -/
def ofMembers (shape : Shape) (depth : Nat) (found : Assoc String FieldValue) :
    List (Option String × Tree) → Except DecodeError (Assoc String FieldValue)
  | [] => .ok found
  | (none, _) :: _ => .error .malformed
  | (some k, t) :: ms =>
    match Assoc.get? shape k with
    | none => if t.isSound then ofMembers shape depth found ms else .error .malformed
    | some type =>
      if (Assoc.get? found k).isSome then .error .mismatched
      else
        match type.decode depth t with
        | .error e => .error e
        | .ok v => ofMembers shape depth (Assoc.put found k v) ms

/-- The fields in the items of an array. -/
def ofItems (depth : Nat) (closed : Bool) :
    Shape → List Tree → Except DecodeError (List FieldValue)
  | [], items => if items.isEmpty && closed then .ok [] else .error .malformed
  | _ :: _, [] => .error (if closed then .mismatched else .malformed)
  | (_, type) :: shape, t :: ts =>
    match type.decode depth t with
    | .error e => .error e
    | .ok v => (ofItems depth closed shape ts).map (v :: ·)

/-- The values of all fields in their order. -/
def inOrder (shape : Shape) (found : Assoc String FieldValue) :
    Except DecodeError (List FieldValue) :=
  match shape.mapM fun f => Assoc.get? found f.1 with
  | some vs => .ok vs
  | none => .error .mismatched

/-- The fields of a record, in their order. -/
def decode (shape : Shape) (depth : Nat) (t : Tree) : Except DecodeError (List FieldValue) :=
  match t, depth with
  | .object .., 0 | .array .., 0 => .error .malformed
  | .object members closed, depth + 1 =>
    match ofMembers shape depth [] members with
    | .error e => .error e
    | .ok found => if closed then inOrder shape found else .error .malformed
  | .array items closed, depth + 1 => ofItems depth closed shape items
  | t, _ => .error t.objection

end Shape

/-! ### Artifacts -/

namespace Artifact

/-- The fields of both artifacts. -/
def shape : Shape := [("paramArray", .parameters), ("expression", .text)]

/-- The artifacts with given fields. -/
def ofFields : List FieldValue → Except DecodeError Artifact
  | [.parameters ps, .text e] => .ok ⟨ps, e⟩
  | _ => .error .mismatched

/-- The artifacts that a text holds. -/
def ofText (text : String) : Except DecodeError Artifact :=
  Json.decode (fun t => (shape.decode Json.maxDepth t).bind ofFields) text

end Artifact
end IndicatorStrategy

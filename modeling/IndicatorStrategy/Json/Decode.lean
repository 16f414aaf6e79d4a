import IndicatorStrategy.Assoc
import IndicatorStrategy.Json.Printer
import IndicatorStrategy.Json.Tree
/-!
# IndicatorStrategy.Json.Decode

**Decoding** syntax trees. A decoder reports the first thing it objects to in the
order of the text: a place where the text is no JSON, or a value of the wrong kind.

Arrays and objects may be nested at most `maxDepth` deep; the opening of a deeper
one is a fault. A repeated key keeps its first place and its last value.
-/

namespace IndicatorStrategy
namespace Json

/-- Why a text does not decode. -/
inductive DecodeError
  /-- The text is no JSON. -/
  | malformed
  /-- A value of the wrong type or size, or a missing or repeated field. -/
  | mismatched
  /-- A parameter set with a number of keys other than one. -/
  | notSingle (count : Nat)
  /-- A parameter set whose parameters are no object. -/
  | notObject (key : String) (found : Json)

namespace DecodeError

/-- Whether the text itself is at fault, and not the values in it. -/
def isSyntactic : DecodeError → Bool
  | malformed => true
  | _ => false

/-- The description of the two faults of a parameter set. -/
def message? : DecodeError → Option String
  | notSingle count =>
    some ("invalid length " ++ Numeral.ofNat count ++ ", expected a single-key object")
  | notObject key found =>
    some ("parameters for " ++ key ++ " must be an object, found " ++ found.compact)
  | _ => none

end DecodeError

/-- How deep arrays and objects may be nested. -/
def maxDepth : Nat := 127

namespace Tree

/-- The objection to a value that should have another type. -/
def objection : Tree → DecodeError
  | fault | number none | string none => .malformed
  | _ => .mismatched

mutual

/-- The value of a tree, with `depth` levels of nesting left. -/
def toJson (depth : Nat) : Tree → Except DecodeError Json
  | null => .ok .null
  | bool b => .ok (.bool b)
  | number (some v) => .ok v
  | string (some s) => .ok (.string s)
  | array items closed =>
    match depth with
    | 0 => .error .malformed
    | depth + 1 =>
      match toItems depth items with
      | .error e => .error e
      | .ok vs => if closed then .ok (.array vs) else .error .malformed
  | object members closed =>
    match depth with
    | 0 => .error .malformed
    | depth + 1 =>
      match toMembers depth [] members with
      | .error e => .error e
      | .ok ms => if closed then .ok (.object ms) else .error .malformed
  | fault | number none | string none => .error .malformed

/-- The values of the items of an array. -/
def toItems (depth : Nat) : List Tree → Except DecodeError (List Json)
  | [] => .ok []
  | t :: ts =>
    match t.toJson depth with
    | .error e => .error e
    | .ok v =>
      match toItems depth ts with
      | .error e => .error e
      | .ok vs => .ok (v :: vs)

/-- The members of an object, added to those before them. -/
def toMembers (depth : Nat) (before : Assoc String Json) :
    List (Option String × Tree) → Except DecodeError (Assoc String Json)
  | [] => .ok before
  | (none, _) :: _ => .error .malformed
  | (some k, t) :: ms =>
    match t.toJson depth with
    | .error e => .error e
    | .ok v => toMembers depth (Assoc.put before k v) ms

end

/-- The items of an array, each decoded by `decode`. -/
def toList {α : Type} (decode : Nat → Tree → Except DecodeError α) (depth : Nat) :
    Tree → Except DecodeError (List α)
  | array items closed =>
    match depth with
    | 0 => .error .malformed
    | depth + 1 =>
      match items.mapM (decode depth) with
      | .error e => .error e
      | .ok vs => if closed then .ok vs else .error .malformed
  | t => .error t.objection

/-- The contents of a string. -/
def toText : Tree → Except DecodeError String
  | string (some s) => .ok s
  | t => .error t.objection

/-- A natural number of 32 bits. -/
def toWord32 : Tree → Except DecodeError Nat
  | number (some (.int n)) =>
    if 0 ≤ n && n < Numeral.limit32 then .ok n.toNat else .error .mismatched
  | t => .error t.objection

/-- The members of an object of strings, ascending by key. -/
def toTexts : Tree → Except DecodeError (Assoc String String)
  | object members closed => do
    let pairs ← members.mapM fun
      | (none, _) => .error .malformed
      | (some k, t) => t.toText.map (k, ·)
    if closed then .ok (pairs.foldl (fun m p => Assoc.putSorted m p.1 p.2) [])
    else .error .malformed
  | t => .error t.objection

end Tree

/-- Decodes a whole text. -/
def decode {α : Type} (decoder : Tree → Except DecodeError α) (text : String) :
    Except DecodeError α :=
  let document := Document.ofText text
  match decoder document.root with
  | .error e => .error e
  | .ok v => if document.complete then .ok v else .error .malformed

end Json
end IndicatorStrategy

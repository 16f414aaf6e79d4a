import IndicatorStrategy.Json.Token
/-!
# IndicatorStrategy.Json.Tree

**Syntax trees of JSON texts**, faulty ones included. Reading a text never fails:
where the text stops being JSON the tree ends in a `fault`, or in an array or
object that is not closed, and nothing follows that place. A decoder walks the tree
from left to right, so that it meets its own objections and the faults of the text
in the order of the text.

A tree keeps every member of an object, repeated keys as well.
-/

namespace IndicatorStrategy
namespace Json

/-- The syntax tree of a text. -/
inductive Tree
  | null
  | bool (value : Bool)
  | number (value? : Option Json)
  | string (value? : Option String)
  | array (items : List Tree) (closed : Bool)
  | object (members : List (Option String × Tree)) (closed : Bool)
  /-- No value starts here. -/
  | fault

/-- The tree of a whole text; `complete` when nothing follows its value. -/
structure Document where
  root : Tree
  complete : Bool

namespace Tree

/-- An array or object that is being read: what it holds so far, last first, and
the key whose value is being read. -/
inductive Frame
  | array (items : List Tree)
  | object (members : List (Option String × Tree)) (key : Option String)

/-- The unfinished array or object whose last part is `t`. -/
def Frame.leave (frame : Frame) (t : Tree) : Tree :=
  match frame with
  | array items => .array (t :: items).reverse false
  | object members key => .object ((key, t) :: members).reverse false

/-- The document whose reading stopped after `t` inside some frames. -/
def abandon (stack : List Frame) (t : Tree) : Document :=
  ⟨stack.foldl (fun t frame => frame.leave t) t, false⟩

mutual

/-- Reads on where a value must come. -/
def value (stack : List Frame) : List Token → Document
  | .null :: ts => after .null stack ts
  | .bool b :: ts => after (.bool b) stack ts
  | .number n :: ts => after (.number n) stack ts
  | .string s :: ts => after (.string s) stack ts
  | .openArray :: .closeArray :: ts => after (.array [] true) stack ts
  | .openArray :: ts => value (.array [] :: stack) ts
  | .openObject :: .closeObject :: ts => after (.object [] true) stack ts
  | .openObject :: .string k :: .colon :: ts => value (.object [] k :: stack) ts
  | .openObject :: .string k :: _ => abandon (.object [] k :: stack) .fault
  | .openObject :: _ => abandon stack (.object [] false)
  | _ => abandon stack .fault

/-- Reads on after a value. -/
def after (t : Tree) : List Frame → List Token → Document
  | [], ts => ⟨t, ts.isEmpty⟩
  | .array items :: stack, .comma :: ts => value (.array (t :: items) :: stack) ts
  | .array items :: stack, .closeArray :: ts =>
    after (.array (t :: items).reverse true) stack ts
  | .object members key :: stack, .comma :: .string k :: .colon :: ts =>
    value (.object ((key, t) :: members) k :: stack) ts
  -- a key without its colon still leaves its member behind
  | .object members key :: stack, .comma :: .string k :: _ =>
    abandon (.object ((key, t) :: members) k :: stack) .fault
  | .object members key :: stack, .closeObject :: ts =>
    after (.object ((key, t) :: members).reverse true) stack ts
  | frame :: stack, _ => abandon stack (frame.leave t)

end

/-- Whether a tree has no fault; lexemes without a value are none. -/
def isSound : Tree → Bool
  | fault => false
  | array items closed => closed && soundItems items
  | object members closed => closed && soundMembers members
  | _ => true
where
  soundItems : List Tree → Bool
    | [] => true
    | t :: ts => t.isSound && soundItems ts
  soundMembers : List (Option String × Tree) → Bool
    | [] => true
    | (_, t) :: ms => t.isSound && soundMembers ms

end Tree

/-- The document of a text. -/
def Document.ofText (text : String) : Document := Tree.value [] (tokens text.toList)

end Json
end IndicatorStrategy

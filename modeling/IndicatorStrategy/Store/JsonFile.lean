import IndicatorStrategy.Json.Decode
import IndicatorStrategy.Store.Disk
import IndicatorStrategy.Store.Memory
/-!
# IndicatorStrategy.Store.JsonFile

**JSON files as stores**: one object of strings, with its keys ascending. The file is
read before every operation and written after every change. A blank or absent file is
an empty store, and any other text is refused and left alone.
-/

namespace IndicatorStrategy
namespace JsonFile

/-- The failure of a file that is no object of strings. -/
def corrupt (path : String) : Failure := .store (path ++ ": not an object of strings")

/-- The contents that a text holds. -/
def parse (path text : String) : Except Failure Contents :=
  if isBlank text then .ok []
  else match Json.decode Json.Tree.toTexts text with
    | .ok contents => .ok contents
    | .error _ => .error (corrupt path)

/-- The contents of a file. -/
def load (d : Disk) (path : String) : Except Failure Contents :=
  if d.contains path then
    match d.read path with
    | .ok text => parse path text
    | .error e => .error (.system e)
  else .ok []

/-- The text of a file with given contents. -/
def render (contents : Contents) : String :=
  (Json.object (contents.map fun p => (p.1, .string p.2))).pretty

/-- The files after storing a value. -/
def store (d : Disk) (path key value : String) : Except Failure Disk :=
  match load d path with
  | .error e => .error e
  | .ok contents =>
    match d.write path (render (Assoc.putSorted contents key value)) with
    | .ok d => .ok d
    | .error e => .error (.system e)

end JsonFile

end IndicatorStrategy

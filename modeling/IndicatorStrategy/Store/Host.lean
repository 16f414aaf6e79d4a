import IndicatorStrategy.Store.Backend
/-!
# IndicatorStrategy.Store.Host

**Files as the host keeps them.** The host knows texts only, so what is no text is kept
as one behind a heading of its own, with its rows if it has any. A text without a heading
stands for itself.
-/

namespace IndicatorStrategy

namespace Database

/-- The first line of a database. -/
def heading : String := "key-value database\n"

/-- The first line of a log. -/
def logHeading : String := "key-value log\n"

/-- All of any other file without a text. -/
def dataHeading : String := "key-value data\n"

/-- A table as a text. -/
def render (heading : String) (t : Table) : String := heading ++ JsonFile.render t.rows

/-- The table that a text keeps behind a heading, if it does. -/
def parse? (heading text : String) : Option Table :=
  if heading.toList.isPrefixOf text.toList then
    let body := String.ofList (text.toList.drop heading.length)
    (Json.decode Json.Tree.toTexts body).toOption.map Table.ofRows
  else none

end Database

namespace Node

/-- The text that the host keeps for a node. -/
def hostText? : Node → Option String
  | file text => some text
  | database t => some (Database.render Database.heading t)
  | log t => some (Database.render Database.logHeading t)
  | data => some Database.dataHeading
  | directory => none

/-- The node that a text of the host stands for. -/
def ofHostText (text : String) : Node :=
  if text = Database.dataHeading then .data
  else
    match Database.parse? Database.heading text, Database.parse? Database.logHeading text with
    | some t, _ => .database t
    | none, some t => .log t
    | none, none => .file text

end Node

namespace Disk

/-- The path of a place. -/
def pathOf : List String → String
  | [] => "."
  | name :: names =>
    if name = rootName then rootName ++ joinWith "/" names else joinWith "/" (name :: names)

/-- The files that differ from those before, with their texts. -/
def changes (before after : Disk) : List (String × String) :=
  (after.nodes.filter fun p => Assoc.get? before.nodes p.1 != some p.2).filterMap fun p =>
    p.2.hostText?.map fun text => (pathOf p.1, text)

/-- The files that are there no more. -/
def removals (before after : Disk) : List String :=
  (before.nodes.filter fun p => (Assoc.get? after.nodes p.1).isNone).map (pathOf ·.1)

end Disk
end IndicatorStrategy

import IndicatorStrategy.Store.Connection
/-!
# IndicatorStrategy.Store.Database

**Databases**: one table of strings under string keys, in a file or in memory. The
file is made when it is opened, if its access allows that. A file that holds other
text is refused, then or whenever it takes the place of an open database.

One database is opened in the place of another, which is closed after that. A shared
database stays open then if it is the same, with the access it was first opened with. So
do the contents of a memory that is found by its name.
-/

namespace IndicatorStrategy
namespace Database

/-- What comes of opening a database, and the files then. -/
inductive Opening
  | opened (c : Connection) (d : Disk)
  /-- A connection that has to be closed, for it is of no use. -/
  | failed (e : Failure) (c : Connection) (d : Disk)
  /-- No connection at all. -/
  | refused (e : Failure) (d : Disk)

/-- The table of an open memory, if that is found by a name. -/
def tableNamed? (held? : Option Connection) (name : String) : Option Table :=
  held?.bind fun c =>
    match c.medium with
    | .memory name? table? => if name? = some name then table? else none
    | .file _ => none

/-- Opens a database, or joins the one that is held, and makes sure of its table. -/
def connect (held? : Option Connection) (fresh : Connection) (d : Disk) : Opening :=
  let joined := (held?.filter (·.isSame fresh)).getD fresh
  match joined.ensureTable (held?.any (·.logsFor fresh)) d with
  | (.error e, c, d) => .failed e c d
  | (.ok (), c, d) =>
    let c := if c.location.isFixed && c.copy?.isNone then c.keepCopy d else c
    .opened ((held?.filter (!·.isSame c)).elim c c.follow) d

/-- The files once there is one at a place, if there can be. -/
def makeFile? (d : Disk) (names : List String) (access : Access) : Option Disk :=
  match d.nodeAt? names with
  | some .directory => none
  | some _ => some d
  | none => if access = .create then some (d.put names (.file "")) else none

/-- Opens the database at a location that a text leads to. -/
def openLocation (held? : Option Connection) (text : String) (l : Location) (d : Disk) :
    Opening :=
  match l.place with
  | .memory => connect held? (.fresh held? l (.memory none none)) d
  | .named name =>
    connect held? (.fresh held? l (.memory (some name) (tableNamed? held? name))) d
  | .file path =>
    match d.settle path with
    | .error _ => .refused (unopened text) d
    | .ok names =>
      let c : Connection := .fresh held? l (.file names)
      match if held?.any (·.isSame c) then some d else makeFile? d names l.access with
      | none => .refused (unopened text) d
      | some d => connect held? c d

/-- Opens the database that a text leads to. -/
def openText (held? : Option Connection) (text : String) (d : Disk) : Opening :=
  match Location.ofText text with
  | .error reason => .refused (unreachable reason) d
  | .ok l => openLocation held? text l d

/-- A connection that is held, unless another one is the same. -/
def others (held? : Option Connection) (c : Connection) : Option Connection :=
  held?.filter (!c.isSame ·)

/-- The opened database, once the one that was held is closed. -/
def Opening.finish (held? : Option Connection) : Opening → Except Failure Connection × Disk
  | opened c d => (.ok c, (others held? c).elim d (·.close (some c) d))
  | failed e c d =>
    let d := c.close (others held? c) d
    (.error e, (others held? c).elim d (·.close none d))
  | refused e d => (.error e, held?.elim d (·.close none d))

/-- Opens the database that a text leads to in the place of one that is held. The files
afterwards, also if that fails. -/
def openAt (held? : Option Connection) (text : String) (d : Disk) :
    Except Failure Connection × Disk := (openText held? text d).finish held?

end Database
end IndicatorStrategy

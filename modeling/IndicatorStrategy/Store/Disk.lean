import IndicatorStrategy.Failure
import IndicatorStrategy.Store.Table
/-!
# IndicatorStrategy.Store.Disk

The **files around a working directory**, as far as stores and configurations see
them: text files, databases and directories. A place is known by the names that lead
to it from the working directory, or from the root. The working directory lies in
others that exist, and so does the root; what else lies outside counts as absent
until it is written.

Two ways of following a path are told apart. `Disk.locate` enters one directory after
the other, so that each must exist. `Disk.settle` lets a parent take back the name
before it, whether or not that name stands for anything.
-/

namespace IndicatorStrategy

/-- What a name stands for. -/
inductive Node
  | file (text : String)
  | database (table : Table)
  /-- The changes that were made to a database, and the table that they lead to. -/
  | log (table : Table)
  /-- Any other file that holds no text. -/
  | data
  | directory
  deriving DecidableEq

/-- All files, by the names that lead to them. The names of a place below the root
begin with a slash, and those of a place above the working directory with two dots
for every step. -/
structure Disk where
  nodes : Assoc (List String) Node
  deriving DecidableEq

namespace Disk

/-- The working directory without files. -/
def empty : Disk := ⟨[]⟩

/-! ### Names -/

/-- The name of the root. -/
def rootName : String := "/"

/-- The name of the directory above. -/
def parentName : String := ".."

/-- The names of a path; a path that ends in a slash ends in an empty name. -/
def namesOf (path : String) : List String :=
  (splitAtChar '/' path.toList).map String.ofList

/-- Where a path begins. -/
def start (path : String) : List String :=
  if path.toList.head? == some '/' then [rootName] else []

/-- Whether a name stays where it is. -/
def isHere (name : String) : Bool := name.isEmpty || name == "."

/-- Whether a name leads to a directory only. -/
def isStep (name : String) : Bool := isHere name || name == parentName

/-- Whether names end at the root, at the working directory or above it. -/
def isFixed (names : List String) : Bool :=
  match names.getLast? with
  | none => true
  | some name => name == rootName || name == parentName

/-- The directory above a place. The root lies in itself. -/
def parent (names : List String) : List String :=
  if names.getLast? = some rootName then names
  else if isFixed names then names ++ [parentName]
  else names.dropLast

/-- The place that a name leads to from a directory. -/
def step (directory : List String) (name : String) : List String :=
  if isHere name then directory
  else if name = parentName then parent directory
  else directory ++ [name]

/-- The places that names pass from a directory on. -/
def placesFrom (directory : List String) : List String → List (List String)
  | [] => []
  | name :: names => step directory name :: placesFrom (step directory name) names

/-- The places that a path passes, down to its own. -/
def places (path : String) : List (List String) := placesFrom (start path) (namesOf path)

/-! ### Following paths -/

/-- What there is at a place. -/
def nodeAt? (d : Disk) (names : List String) : Option Node :=
  if isFixed names then some .directory else Assoc.get? d.nodes names

/-- Whether a name is too long for any file. -/
def isTooLong (name : String) : Bool := 255 < name.utf8ByteSize

/-- The directory that a name leads to from another. -/
def enter (d : Disk) (directory : List String) (name : String) :
    Except SystemFault (List String) :=
  if isStep name then .ok (step directory name)
  else if isTooLong name then .error .nameTooLong
  else match d.nodeAt? (step directory name) with
    | some .directory => .ok (step directory name)
    | some _ => .error .notDirectory
    | none => .error .notFound

/-- Where a path leads: the directory of its last name, and that name. -/
def follow (d : Disk) (directory : List String) :
    List String → Except SystemFault (List String × String)
  | [] => .ok (directory, "")
  | [name] => .ok (directory, name)
  | name :: names =>
    match d.enter directory name with
    | .ok directory => d.follow directory names
    | .error e => .error e

/-- Why a text cannot be a path, if it cannot. -/
def pathFault? (path : String) : Option SystemFault :=
  if path.toList.contains '\x00' then some .nullInName
  else if path.isEmpty then some .notFound
  else if 4096 ≤ path.utf8ByteSize then some .nameTooLong
  else none

/-- Where a whole path leads. -/
def locate (d : Disk) (path : String) : Except SystemFault (List String × String) :=
  match pathFault? path with
  | some fault => .error fault
  | none => d.follow (start path) (namesOf path)

/-- What a path stands for. -/
def find (d : Disk) (path : String) : Except SystemFault Node :=
  match d.locate path with
  | .error e => .error e
  | .ok (directory, name) =>
    if isStep name then .ok .directory
    else if isTooLong name then .error .nameTooLong
    else match d.nodeAt? (step directory name) with
      | some node => .ok node
      | none => .error .notFound

/-- Whether a path stands for anything. -/
def contains (d : Disk) (path : String) : Bool := (d.find path).toBool

/-! ### Reading and writing -/

/-- The text of a file. The contents of a database are no text. -/
def read (d : Disk) (path : String) : Except SystemFault String :=
  match d.find path with
  | .ok (.file text) => .ok text
  | .ok (.database _) | .ok (.log _) | .ok .data => .error .notText
  | .ok .directory => .error .isDirectory
  | .error e => .error e

/-- A path without slashes at its end; that of the root keeps one. -/
def withoutSlashes (path : String) : String :=
  match (path.toList.reverse.dropWhile (· == '/')).reverse with
  | [] => String.ofList (path.toList.take 1)
  | cs => String.ofList cs

/-- The place of a new or existing file at a path; a path that ends in a slash can
only be a directory. -/
def place (d : Disk) (path : String) : Except SystemFault (List String) :=
  match (pathFault? path).elim (d.locate (withoutSlashes path)) .error with
  | .error e => .error e
  | .ok (directory, name) =>
    if isStep name || path != withoutSlashes path then .error .isDirectory
    else if isTooLong name then .error .nameTooLong
    else if d.nodeAt? (step directory name) = some .directory then .error .isDirectory
    else .ok (step directory name)

/-- Puts a node at a place. -/
def put (d : Disk) (names : List String) (node : Node) : Disk :=
  ⟨Assoc.putSorted d.nodes names node⟩

/-- Takes away what is at a place. -/
def erase (d : Disk) (names : List String) : Disk := ⟨d.nodes.filter (·.1 ≠ names)⟩

/-- Writes a text file over whatever file was there. -/
def write (d : Disk) (path text : String) : Except SystemFault Disk :=
  (d.place path).map fun names => d.put names (.file text)

/-- Makes the directories of a path that do not exist. -/
def makeDirectories (d : Disk) (path : String) : Disk :=
  (places path).foldl (fun d names =>
    if (d.nodeAt? names).isSome then d else d.put names .directory) d

/-! ### Places that need not be passed -/

/-- The bytes that the full path of a place may have. -/
def pathLimit : Nat := 504

/-- The bytes set aside for the full path of the working directory. -/
def workingBytes : Nat := 15

/-- The bytes of the full path of a place, about those of its names and the slashes. -/
def pathBytes (names : List String) : Nat :=
  names.foldl (fun n name => if name = rootName then 0 else n + 1 + name.utf8ByteSize)
    workingBytes

/-- Where a name leads to from a place that need not be there. Nothing lies in a file,
a directory holds no name that is too long, and a full path must not be too long. -/
def pass (d : Disk) (directory : List String) (name : String) :
    Except SystemFault (List String) :=
  if isStep name then .ok (step directory name)
  else if pathLimit < pathBytes (step directory name) then .error .nameTooLong
  else match d.nodeAt? directory with
    | some .directory =>
      if isTooLong name then .error .nameTooLong else .ok (step directory name)
    | some _ => .error .notDirectory
    | none => .ok (step directory name)

/-- The place of a new or existing file, where parents take back the names before
them. A slash at the end of the path changes nothing. -/
def settle (d : Disk) (path : String) : Except SystemFault (List String) :=
  match (namesOf path).foldlM d.pass (start path) with
  | .error e => .error e
  | .ok names =>
    if d.nodeAt? names = some .directory then .error .isDirectory
    else if d.nodeAt? (parent names) = some .directory then .ok names
    else .error .notFound

end Disk
end IndicatorStrategy

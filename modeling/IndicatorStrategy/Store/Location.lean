import IndicatorStrategy.Text.Join
import IndicatorStrategy.Text.Percent
/-!
# IndicatorStrategy.Store.Location

**Where a database is kept**, as a text says it. Most texts are the path of a file.
Two ask for a database in memory: the empty text and `:memory:`. A text that begins
with `file:` is an address, with percent escapes in all its parts.

* A host may stand in front of the path, between two slashes and the next one. Only
  the local host has files.
* The path goes as far as the first question mark, behind which options stand between
  ampersands, each a name, an equals sign and a value. Options without a name and
  unknown ones are ignored.
* A number sign ends the address.

The options say what may be done with the database (`mode`), whether it is opened once
for all who share it (`cache`), how files are reached (`vfs`), whether the file is
known never to change (`immutable`), and whether nobody has to be kept off it
(`nolock`).
-/

namespace IndicatorStrategy
namespace Database

/-- What may be done with a database. -/
inductive Access
  | readOnly
  | readWrite
  /-- Reading and writing, and making a file where there is none. -/
  | create
  deriving DecidableEq

/-- How much an access allows. -/
def Access.rank : Access → Nat
  | readOnly => 1
  | readWrite => 2
  | create => 3

/-- How files are reached, and how others are kept off them meanwhile. -/
inductive Reach
  /-- By locks on the file, with the index of a log in a file of its own. -/
  | shared
  /-- By locks on the file, which one process holds. -/
  | exclusive
  /-- By a lock beside the file, for as long as the file is read or written. -/
  | dotted
  /-- Not at all. -/
  | free
  /-- Memory in the place of files. -/
  | memory
  deriving DecidableEq

/-- The way to reach files that a name stands for. -/
def Reach.ofName? : String → Option Reach
  | "unix" => some shared
  | "unix-excl" => some exclusive
  | "unix-dotfile" => some dotted
  | "unix-none" => some free
  | "memdb" => some memory
  | _ => none

/-- What holds a database. -/
inductive Place
  /-- A memory that only its store finds. -/
  | memory
  /-- A memory that is found by its name as long as a store has it open. -/
  | named (name : String)
  | file (path : String)
  deriving DecidableEq

/-- Where a database is kept, and how it is opened there. -/
structure Location where
  place : Place
  access : Access
  reach : Reach
  /-- The name under which the open database is shared, if it is. -/
  sharedAs? : Option String
  /-- Whether the file is known never to change. -/
  isFixed : Bool
  /-- Whether nobody is kept off the file. -/
  isUnlocked : Bool
  deriving DecidableEq

/-! ### Addresses -/

/-- The parts of an address. -/
structure Locator where
  path : String
  options : List (String × String)
  deriving DecidableEq

namespace Locator

/-- The beginning of an address. -/
def scheme : String := "file:"

/-- The host whose files can be reached. -/
def localHost : String := "localhost"

/-- What follows the host of an address. -/
def afterHost : List Char → Except String (List Char)
  | '/' :: '/' :: cs =>
    let host := String.ofList (cs.takeWhile (· != '/'))
    if host.isEmpty || host == localHost then .ok (cs.dropWhile (· != '/'))
    else .error s!"invalid uri authority: {host}"
  | cs => .ok cs

/-- The name and the value of an option. -/
def splitOption (cs : List Char) : String × String :=
  (Percent.decode (cs.takeWhile (· != '=')),
    Percent.decode ((cs.dropWhile (· != '=')).drop 1))

/-- The options behind a question mark; those without a name are left out. -/
def splitOptions (cs : List Char) : List (String × String) :=
  ((splitAtChar '&' cs).map splitOption).filter (!·.1.isEmpty)

/-- The address in a text behind the scheme. -/
def ofText (cs : List Char) : Except String Locator :=
  (afterHost cs).map fun cs =>
    let cs := cs.takeWhile (· != '#')
    ⟨Percent.decode (cs.takeWhile (· != '?')),
      splitOptions ((cs.dropWhile (· != '?')).drop 1)⟩

end Locator

/-! ### Switches -/

namespace Switch

/-- The words that turn a switch on, in small letters. -/
def words : List String := ["on", "yes", "true"]

/-- Whether a character marks hexadecimal digits behind a zero. -/
def isMark (c : Char) : Bool := c == 'x' || c == 'X'

/-- The number that a value begins with; one that takes more than 31 bits counts as
zero. -/
def number (cs : List Char) : Nat :=
  let n := match cs with
    | '0' :: mark :: c :: rest =>
      if isMark mark && (Numeral.hexValue? c).isSome then
        Numeral.leadingHex (c :: rest)
      else Numeral.value (cs.takeWhile Char.isDigit)
    | cs => Numeral.value (cs.takeWhile Char.isDigit)
  if n < Numeral.limit31 then n else 0

/-- Whether a value turns a switch on: a word, or a number whose lowest eight bits are
not all zero. -/
def isOn (value : String) : Bool :=
  match value.toList with
  | [] => false
  | c :: cs =>
    if c.isDigit then number (c :: cs) % 256 != 0
    else words.contains (String.ofList ((c :: cs).map Char.toLower))

end Switch

/-! ### Options -/

/-- The path that stands for no file. -/
def memoryPath : String := ":memory:"

/-- What the options of an address ask for. No access is that of a memory. -/
structure Options where
  access? : Option Access
  isShared : Bool
  /-- The name of the way in which files are reached. -/
  reach : String
  /-- Whether the file never changes, if that was said; the first to say so counts. -/
  isFixed? : Option Bool
  /-- Whether nobody is kept off the file, likewise. -/
  isUnlocked? : Option Bool
  deriving DecidableEq

namespace Options

/-- What is asked for without options. -/
def default : Options := ⟨some .create, false, "unix", none, none⟩

/-- The access that a word names; none is that of a memory. -/
def accessOfWord? : String → Option (Option Access)
  | "ro" => some (some .readOnly)
  | "rw" => some (some .readWrite)
  | "rwc" => some (some .create)
  | "memory" => some none
  | _ => none

/-- Whether an access may take the place of another: it must not allow more. Memory
may be given up and taken at any time. -/
def mayReplace : Option Access → Option Access → Bool
  | some new, some old => new.rank ≤ old.rank
  | _, _ => true

/-- What is asked for after one more option. -/
def add (o : Options) (name value : String) : Except String Options :=
  if name = "mode" then
    match accessOfWord? value with
    | none => .error s!"no such access mode: {value}"
    | some access? =>
      if mayReplace access? o.access? then .ok { o with access? }
      else .error s!"access mode not allowed: {value}"
  else if name = "cache" then
    if value = "shared" then .ok { o with isShared := true }
    else if value = "private" then .ok { o with isShared := false }
    else .error s!"no such cache mode: {value}"
  else if name = "vfs" then .ok { o with reach := value }
  else if name = "immutable" then
    .ok { o with isFixed? := some (o.isFixed?.getD (Switch.isOn value)) }
  else if name = "nolock" then
    .ok { o with isUnlocked? := some (o.isUnlocked?.getD (Switch.isOn value)) }
  else .ok o

/-- What options ask for, from left to right. -/
def ofList (pairs : List (String × String)) : Except String Options :=
  pairs.foldlM (fun o p => o.add p.1 p.2) default

/-- Whether a name is known to all who reach memory by it: it begins as a full path. -/
def isGlobal (name : String) : Bool :=
  1 < name.length && (name.toList.head? == some '/' || name.toList.head? == some '\\')

/-- Whether no file is asked for. Where memory is reached as files are, one is. -/
def isFileless (o : Options) (path : String) : Bool :=
  path.isEmpty || path = memoryPath || o.access? = none

/-- What holds a database at a path. -/
def place (o : Options) (reach : Reach) (path : String) : Place :=
  if o.isFileless path then .memory
  else if reach = .memory then
    if isGlobal path then .named path else .memory
  else .file path

/-- Where a database at a path is kept. -/
def location (o : Options) (path : String) : Except String Location :=
  match Reach.ofName? o.reach with
  | none => .error s!"no such vfs: {o.reach}"
  | some reach => .ok {
    place := o.place reach path
    access := o.access?.getD .create
    reach := reach
    sharedAs? := if o.isShared && !path.isEmpty then some path else none
    isFixed := !o.isFileless path && o.isFixed?.getD false
    isUnlocked := o.isUnlocked?.getD false }

end Options

/-! ### Reading -/

namespace Location

/-- The location of a text that is no address. -/
def plain (text : String) : Location where
  place := if text.isEmpty || text == memoryPath then .memory else .file text
  access := .create
  reach := .shared
  sharedAs? := none
  isFixed := false
  isUnlocked := false

/-- Where a text says that a database is kept, or why no database can be there. -/
def ofText (text : String) : Except String Location :=
  if text.toList.contains '\x00' then
    let before := String.ofList (text.toList.takeWhile (· != '\x00'))
    .error s!"nul byte found in provided data at position: {before.utf8ByteSize}"
  else if Locator.scheme.toList.isPrefixOf text.toList then do
    let locator ← Locator.ofText (text.toList.drop Locator.scheme.length)
    let options ← Options.ofList locator.options
    options.location locator.path
  else .ok (plain text)

/-- The path of the file that holds a database, if one does. -/
def filePath? (l : Location) : Option String :=
  match l.place with
  | .file path => some path
  | _ => none

/-- Whether nothing may be written. -/
def isReadOnly (l : Location) : Bool := l.access = .readOnly || l.isFixed

end Location
end Database
end IndicatorStrategy

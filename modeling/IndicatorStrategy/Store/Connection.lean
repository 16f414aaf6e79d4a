import IndicatorStrategy.Store.Companion
import IndicatorStrategy.Store.Copy
/-!
# IndicatorStrategy.Store.Connection

**Open databases.** What one answers depends on more than its file, for not everything
is read each time.

* Whether there is a table is remembered until a read shows that there is none.
  Writing is refused to a reader before anything is read.
* A copy is kept of what was read from a file that is known never to change, or from a
  log that has changes. It outlasts the file, as far as it goes.
* As long as others keep a log, the file may be read but not written.
-/

namespace IndicatorStrategy
namespace Database

/-- What holds an open database. -/
inductive Medium
  /-- A memory, with a name if others can find it, and with a table once there is one. -/
  | memory (name? : Option String) (table? : Option Table)
  | file (names : List String)
  deriving DecidableEq

/-- What makes two openings share one open database. -/
inductive Share
  | memory (reach : Reach) (name : String)
  | file (reach : Reach) (names : List String)
  deriving DecidableEq

/-- What is known of the table of a database. -/
inductive Knowledge
  | unread
  | present
  | absent
  deriving DecidableEq

/-- An open database. -/
structure Connection where
  location : Location
  medium : Medium
  isReadOnly : Bool
  /-- Whether the process holds the file by itself. -/
  isAlone : Bool
  knowledge : Knowledge
  /-- Whether changes go to a log. -/
  isLogged : Bool
  copy? : Option Copy
  deriving DecidableEq

/-- What a medium turns out to hold. -/
inductive Finding
  | table (t : Table)
  /-- No table, for there is nothing at all. -/
  | nothing
  /-- Any other text. -/
  | text (head : Head)
  deriving DecidableEq

namespace Connection

/-- A database that was not open before, while another one may be. A process that holds
a file goes on doing so for those who open it next. -/
def fresh (held? : Option Connection) (l : Location) (medium : Medium) : Connection where
  location := l
  medium := medium
  isReadOnly := l.isReadOnly
  isAlone := l.claims || l.locksFile && held?.any fun c => c.isAlone && c.medium = medium
  knowledge := .unread
  isLogged := false
  copy? := none

/-- What others share the open database as, if they may. -/
def share? (c : Connection) : Option Share :=
  c.location.sharedAs?.map fun name =>
    match c.medium with
    | .memory .. => .memory c.location.reach name
    | .file names => .file c.location.reach names

/-- Whether two names stand for one open database. -/
def isSame (c other : Connection) : Bool := c.share?.isSome && c.share? = other.share?

/-! ### Finding out what there is -/

/-- The table of a database file, with the changes in its log. -/
def tableAt (c : Connection) (d : Disk) (names : List String) (t : Table) : Table :=
  if c.isLogged then
    match d.nodeAt? (logOf names) with
    | some (.log t) => t
    | _ => t
  else t

/-- What there is to be read. -/
def finding (c : Connection) (d : Disk) : Finding :=
  match c.medium with
  | .memory _ (some t) => .table t
  | .memory _ none => .nothing
  | .file names =>
    match d.nodeAt? names with
    | some (.database t) => .table (c.tableAt d names t)
    | some (.file text) => if Head.isVoid text then .nothing else .text (Head.ofText text)
    | some (.log _) | some .data => .text ⟨true, false⟩
    | _ => .nothing

/-- The table that the changes in the log lead to. A log that was removed is still there
for those who have it open. -/
def ahead? (c : Connection) (d : Disk) : Option Table :=
  match c.medium with
  | .memory .. => none
  | .file names =>
    match d.nodeAt? (logOf names) with
    | some (.log t) => if c.isLogged then some t else none
    | some _ => none
    | none => (c.copy?.filter (·.isAhead)).map (·.table)

/-- Keeps the pages of the table, none of which was read so far. -/
def keepCopy (c : Connection) (d : Disk) : Connection :=
  match c.finding d with
  | .table t => { c with copy? := some ⟨t, [], (c.ahead? d).isSome⟩ }
  | _ => c

/-- The table, where pages that are not held can be read; otherwise the failure of
reading them. -/
def source (c : Connection) (copy : Copy) (d : Disk) : Except Failure Table :=
  if copy.isAhead then if (c.ahead? d).isSome then .ok copy.table else .error broken
  else match c.finding d with
    | .table t => .ok t
    | _ => .error damaged

/-- Settles what lies beside the file, while others read it or not. -/
def settle (c : Connection) (isRead : Bool) (d : Disk) : Except Failure Unit × Connection × Disk :=
  match c.medium with
  | .memory .. => (.ok (), c, d)
  | .file names =>
    if c.location.isFixed || c.isLogged then (.ok (), c, d)
    else match (settleLock c.location names d).bind fun _ =>
        settleJournal c.location isRead names d with
      | .error e => (.error e, c, d)
      | .ok d =>
        match settleLog c.location c.isAlone names d with
        | .error e => (.error e, c, d)
        | .ok (false, d) => (.ok (), c, d)
        | .ok (true, d) => (.ok (), ({ c with isLogged := true } : Connection).keepCopy d, d)

/-- The failure of a statement that could not read what it needs. A table that is known
to be absent is missed first. -/
def blame (c : Connection) (e : Failure) : Failure :=
  if c.knowledge = .absent then tableless else e

/-- The table as it is read each time. -/
def read (c : Connection) (d : Disk) : Except Failure Table × Connection :=
  match c.finding d with
  | .table t => (.ok t, { c with knowledge := .present })
  | .nothing => (.error tableless, { c with knowledge := .absent })
  | .text head =>
    let isReadOnly := c.isReadOnly || head.isSealed
    if head.isForeign then (.error (c.blame foreign), { c with isReadOnly })
    else (.error damaged, { c with isReadOnly, knowledge := .unread })

/-! ### Reading and writing -/

/-- The value under a key. -/
def get (c : Connection) (d : Disk) (key : String) :
    Except Failure (Option String) × Connection × Disk :=
  match c.settle false d with
  | (.error e, c, d) => (.error (c.blame e), c, d)
  | (.ok (), c, d) =>
    match c.copy? with
    | some copy =>
      match c.source copy d with
      | .ok t =>
        -- pages are held where the file cannot change or the log already has changes
        let keeps := c.location.isFixed || copy.isAhead
        (.ok (t.get? key), { c with copy? := if keeps then copy.hold t key else copy }, d)
      | .error lost => (copy.get lost key, c, d)
    | none =>
      let (table, c) := c.read d
      (table.map (·.get? key), c, d)

/-- Puts a table in the place of the one there was. -/
def write (c : Connection) (d : Disk) (t : Table) : Except Failure Unit × Connection × Disk :=
  match c.medium with
  | .memory name? _ => (.ok (), { c with medium := .memory name? (some t) }, d)
  | .file names =>
    if c.isLogged then
      (.ok (), { c with copy? := some ⟨t, t.allPages, true⟩ }, d.put (logOf names) (.log t))
    else match overwrite d names t with
      | .ok d => (.ok (), c, d)
      | .error e => (.error e, c, d)

/-- The table with a value stored under a key. -/
def changed (c : Connection) (d : Disk) (key value : String) :
    Except Failure Table × Connection :=
  match c.copy? with
  | some copy =>
    match c.source copy d with
    | .ok t => (.ok (t.store key value), c)
    | .error lost => (copy.store lost key value, c)
  | none =>
    let (table, c) := c.read d
    (table.map (·.store key value), c)

/-- Begins a change. Where there are no pages, that makes the first one, which takes a
journal, before it turns out that there is no table. -/
def begin (c : Connection) (d : Disk) : Except Failure Disk :=
  match c.medium, c.finding d with
  | .file names, .nothing =>
    if c.isLogged || c.knowledge ≠ .present then .ok d
    else if canJournal d names then .ok (d.erase (journalOf names))
    else .error obstructed
  | _, _ => .ok d

/-- Stores a value under a key. -/
def store (c : Connection) (d : Disk) (key value : String) :
    Except Failure Unit × Connection × Disk :=
  if c.isReadOnly && c.knowledge = .present then (.error unwritable, c, d)
  else match c.settle false d with
    | (.error e, c, d) => (.error (c.blame e), c, d)
    | (.ok (), c, d) =>
      match c.begin d with
      | .error e => (.error e, c, d)
      | .ok d =>
        match c.changed d key value with
        | (.error e, c) => (.error e, c, d)
        | (.ok t, c) => if c.isReadOnly then (.error unwritable, c, d) else c.write d t

/-! ### Opening and closing -/

/-- Makes the table of a database without one, unless others keep the file from being
written. -/
def makeTable (c : Connection) (isRead : Bool) (d : Disk) :
    Except Failure Unit × Connection × Disk :=
  let c := { c with knowledge := .present }
  if c.isReadOnly then (.error unwritable, c, d)
  else match c.begin d with
    | .error e => (.error e, c, d)
    | .ok d => if isRead && c.location.canLog then (.error busy, c, d) else c.write d .empty

/-- Makes sure that there is a table, while others read the file or not. -/
def ensureTable (c : Connection) (isRead : Bool) (d : Disk) :
    Except Failure Unit × Connection × Disk :=
  if c.isReadOnly && c.knowledge = .absent then (.error unwritable, c, d)
  else match c.settle isRead d with
    | (.error e, c, d) => (.error e, c, d)
    | (.ok (), c, d) =>
      if c.copy?.isSome then (.ok (), { c with knowledge := .present }, d)
      else match c.finding d with
        | .table _ => (.ok (), { c with knowledge := .present }, d)
        | .nothing => c.makeTable isRead d
        | .text head => (.error (if head.isForeign then foreign else damaged), c, d)

/-- Whether a connection keeps a log of the same file. -/
def logsFor (other c : Connection) : Bool := other.isLogged && other.medium = c.medium

/-- Goes on with a log as another connection knows it. -/
def follow (c other : Connection) : Connection :=
  match c.copy?, other.copy? with
  | some _, some copy =>
    if c.isLogged && other.logsFor c then { c with copy? := some { copy with held := [] } }
    else c
  | _, _ => c

/-- Whether the log of a connection lost its changes. -/
def hasLost (c : Connection) (d : Disk) : Bool :=
  c.copy?.any (·.isAhead) && (c.ahead? d).isNone

/-- Ends a connection, while another one may stay open. The last one that keeps a log
ends that too, if it may write and if nothing of the log is lost. -/
def close (c : Connection) (other? : Option Connection) (d : Disk) : Disk :=
  match c.medium with
  | .memory .. => d
  | .file names =>
    let isLast := !other?.any (·.logsFor c)
    if c.isLogged && c.location.access ≠ .readOnly && isLast && !c.hasLost d then
      endLog c.isAlone names (c.ahead? d) d
    else d

end Connection
end Database
end IndicatorStrategy

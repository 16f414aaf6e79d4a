import IndicatorStrategy.Store.DatabaseFailure
import IndicatorStrategy.Store.Disk
import IndicatorStrategy.Store.Head
import IndicatorStrategy.Store.Location
/-!
# IndicatorStrategy.Store.Companion

**Files beside a database.** Four files are named after that of a database.

* The *journal* has what a change overwrites. One that is left over, and begins with
  anything but a null, is taken back before the file is read, and then removed.
* The *log* has changes instead of the file. If there is one, all later changes go there.
* The *index* says where in the log a page is.
* The *lock* is there while somebody uses the database, where that is the way to keep
  others off it.

Beside a file without pages a journal and a log mean nothing and are removed.
-/

namespace IndicatorStrategy
namespace Database

/-- The place of a file that is named after another one. -/
def beside (names : List String) (ending : String) : List String :=
  names.dropLast ++ [names.getLastD "" ++ ending]

/-- What the name of a journal ends in. -/
def journalEnding : String := "-journal"

/-- What the name of a log ends in. -/
def logEnding : String := "-wal"

/-- What the name of an index ends in. -/
def indexEnding : String := "-shm"

/-- What the name of a lock ends in. -/
def lockEnding : String := ".lock"

/-- The place of the journal. -/
def journalOf (names : List String) : List String := beside names journalEnding

/-- The place of the log. -/
def logOf (names : List String) : List String := beside names logEnding

/-- The place of the index. -/
def indexOf (names : List String) : List String := beside names indexEnding

/-- The place of the lock. -/
def lockOf (names : List String) : List String := beside names lockEnding

/-- The paths of a database file and of the files beside it. -/
def paths (path : String) : List String :=
  ["", journalEnding, logEnding, indexEnding, lockEnding].map (path ++ ·)

end Database

namespace Node

/-- Whether a file holds nothing. -/
def isEmpty : Node → Bool
  | file text => text.isEmpty
  | _ => false

/-- Whether a file begins with a null. -/
def beginsNull : Node → Bool
  | file text => text.toList.head? = some '\x00'
  | _ => false

/-- Whether a file has no pages. -/
def isVoid : Node → Bool
  | file text => Head.isVoid text
  | _ => false

end Node

namespace Database
namespace Location

/-- Whether a lock beside the file keeps others off it. -/
def locksBeside (l : Location) : Bool := l.reach = .dotted && !l.isUnlocked

/-- Whether the file can be claimed for writing, also if it is not to be written. -/
def mayClaim (l : Location) : Bool := l.access ≠ .readOnly || l.reach = .free || l.isUnlocked

/-- Whether locks belong to the file itself. -/
def locksFile (l : Location) : Bool := l.reach = .shared || l.reach = .exclusive

/-- Whether the file is locked, so that readers keep others from writing and changes can
be kept in a log. -/
def canLog (l : Location) : Bool := l.locksFile && !l.isUnlocked

/-- Whether opening the database makes the process hold the file by itself. -/
def claims (l : Location) : Bool :=
  l.reach = .exclusive && l.access ≠ .readOnly && !l.isFixed && !l.isUnlocked

end Location

/-- Whether there are no pages at a place. -/
def isVoidAt (d : Disk) (names : List String) : Bool := (d.nodeAt? names).all Node.isVoid

/-- Finds out whether a lock can be made for as long as it is needed. -/
def settleLock (l : Location) (names : List String) (d : Disk) : Except Failure Unit :=
  if !l.locksBeside then .ok ()
  else if Disk.isTooLong ((lockOf names).getLastD "") then .error broken
  else if (d.nodeAt? (lockOf names)).isSome then .error busy
  else .ok ()

/-- Whether it looks as if somebody was about to write, so that a journal is not one that
was left over. -/
def Location.seemsClaimed (l : Location) (names : List String) (d : Disk) : Bool :=
  l.reach = .dotted && (l.locksBeside || (d.nodeAt? (lockOf names)).isSome)

/-- Takes back what a journal says was not finished. Nobody else may read the file
then. -/
def settleJournal (l : Location) (isRead : Bool) (names : List String) (d : Disk) :
    Except Failure Disk :=
  match d.nodeAt? (journalOf names) with
  | none => .ok d
  | some node =>
    if l.seemsClaimed names d || node.isEmpty then .ok d
    else if isVoidAt d names then
      .ok (if l.mayClaim && node ≠ .directory then d.erase (journalOf names) else d)
    else if node = .directory then .error broken
    else if node.beginsNull then .ok d
    else if l.access = .readOnly then .error unwritable
    else if isRead && l.canLog then .error busy
    else .ok (d.erase (journalOf names))

/-- Finds out whether there is a log to go on with. Its index is a file unless the
process holds the database by itself. -/
def settleLog (l : Location) (isAlone : Bool) (names : List String) (d : Disk) :
    Except Failure (Bool × Disk) :=
  match d.nodeAt? (logOf names) with
  | none => .ok (false, d)
  | some node =>
    if node.isEmpty then .ok (false, d)
    else if isVoidAt d names then
      if node = .directory then .error broken else .ok (false, d.erase (logOf names))
    else if node = .directory || !l.canLog then .error obstructed
    else if !isAlone && d.nodeAt? (indexOf names) = some .directory then .error unindexed
    else .ok (true, if isAlone then d else d.put (indexOf names) .data)

/-- Whether a journal can be made. -/
def canJournal (d : Disk) (names : List String) : Bool :=
  !Disk.isTooLong ((journalOf names).getLastD "") &&
    d.nodeAt? (journalOf names) ≠ some .directory

/-- The file of a database with other contents, once that is finished. -/
def overwrite (d : Disk) (names : List String) (t : Table) : Except Failure Disk :=
  if canJournal d names then .ok ((d.put names (.database t)).erase (journalOf names))
  else .error obstructed

/-- Moves the changes of a log into the file, if that is still a database. -/
def applyLog (names : List String) (t : Table) (d : Disk) : Disk :=
  match d.nodeAt? names with
  | some (.database _) => d.put names (.database t)
  | _ => d.put names .data

/-- Ends a log, with the table that its changes lead to, and its index if that is a
file. -/
def endLog (isAlone : Bool) (names : List String) (ahead? : Option Table) (d : Disk) : Disk :=
  let d := (ahead?.elim d (applyLog names · d)).erase (logOf names)
  if isAlone && d.nodeAt? (indexOf names) ≠ some .data then d else d.erase (indexOf names)

end Database
end IndicatorStrategy

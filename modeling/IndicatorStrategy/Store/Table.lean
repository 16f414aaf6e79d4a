import IndicatorStrategy.Store.Memory
import IndicatorStrategy.Store.Pages
/-!
# IndicatorStrategy.Store.Table

**Tables**: the rows of a database, ascending by key, and the pages that they lie on.

Storing a value puts its row at the end, with the next number, and takes out the row
that the key had before. One tree of pages has the rows by number, another one the keys
with the numbers of their rows. A row too long for a page goes on elsewhere.
-/

namespace IndicatorStrategy

/-- A row as it is written: the lengths of its parts stand before them. -/
structure Record where
  payload : Nat
  deriving DecidableEq

namespace Record

/-- The number that stands for a text of some bytes. -/
def textMark (bytes : Nat) : Nat := 2 * bytes + 13

/-- The bytes of a whole number that is not negative; none for one. -/
def wholeSize (n : Nat) : Nat :=
  if n = 1 then 0
  else if n < Nat.pow 2 7 then 1
  else if n < Nat.pow 2 15 then 2
  else if n < Nat.pow 2 23 then 3
  else if n < Nat.pow 2 31 then 4
  else if n < Nat.pow 2 47 then 6
  else 8

/-- A row of a key and a value. -/
def ofRow (key value : String) : Record :=
  let marks := [key, value].map fun s => PageTree.numberSize (textMark s.utf8ByteSize)
  ⟨1 + marks.foldl (· + ·) 0 + key.utf8ByteSize + value.utf8ByteSize⟩

/-- A key with the number of its row. -/
def ofKey (key : String) (number : Nat) : Record :=
  ⟨2 + PageTree.numberSize (textMark key.utf8ByteSize) + key.utf8ByteSize + wholeSize number⟩

/-- The longest row that fits on a leaf. -/
def rowLimit : Nat := Page.bytes - 35

/-- The longest key that fits on a page. -/
def keyLimit : Nat := (Page.bytes - 12) * 64 / 255 - 23

/-- The least part of a record that stays on its page. -/
def leastKept : Nat := (Page.bytes - 12) * 32 / 255 - 23

/-- The bytes of a record that stay on its page: those that do not fill other pages,
if there is room for them. -/
def kept (r : Record) (limit : Nat) : Nat :=
  if r.payload ≤ limit then r.payload
  else
    let n := leastKept + (r.payload - leastKept) % (Page.bytes - Page.linkSize)
    if n ≤ limit then n else leastKept

/-- The bytes that a record takes on its page. -/
def size (r : Record) (limit : Nat) : Nat :=
  PageTree.numberSize r.payload + r.kept limit
    + (if limit < r.payload then Page.linkSize else 0)

/-- Whether a row does not fit on a leaf. -/
def isLong (r : Record) : Bool := rowLimit < r.payload

end Record

/-- The rows of a database and their pages. -/
structure Table where
  rows : Contents
  byNumber : PageTree
  byKey : PageTree
  deriving DecidableEq

/-- A page: the tree it belongs to, its level, counted from the leaves, and its place. -/
structure PagePlace where
  byNumber : Bool
  height : Nat
  place : Nat
  deriving DecidableEq

namespace Table

/-- A table without rows. -/
def empty : Table := ⟨[], .empty true, .empty false⟩

/-- The value under a key. -/
def get? (t : Table) (key : String) : Option String := Assoc.get? t.rows key

/-- The number of the row of a key. -/
def number? (t : Table) (key : String) : Option Nat :=
  (t.byKey.cells.find? fun c => c.key = key).map (·.number)

/-- The number of the next row. -/
def nextNumber (t : Table) : Nat :=
  (((t.byNumber.levels.headD []).getLastD []).getLast?.elim 0 (·.number)) + 1

/-- Takes out the row of a key, if it has one. -/
def vacate (t : Table) (key : String) : PageTree × PageTree :=
  match t.number? key with
  | none => (t.byNumber, t.byKey)
  | some number =>
    (t.byNumber.erase (·.number < number) (·.number = number),
      t.byKey.erase (·.key < key) (·.key = key))

/-- Stores a value under a key. -/
def store (t : Table) (key value : String) : Table :=
  -- a row that is stored again goes to the end, under a new number
  let number := t.nextNumber
  let (byNumber, byKey) := t.vacate key
  let row : Cell := ⟨"", number,
    PageTree.numberSize number + (Record.ofRow key value).size Record.rowLimit⟩
  let entry : Cell := ⟨key, number, (Record.ofKey key number).size Record.keyLimit⟩
  { rows := Assoc.putSorted t.rows key value
    byNumber := byNumber.insert (·.number < number) row
    byKey := byKey.insert (·.key < key) entry }

/-- The table of given rows, stored one after the other. -/
def ofRows (rows : Contents) : Table := rows.foldl (fun t p => t.store p.1 p.2) empty

/-! ### Pages that are read -/

/-- The pages on a path from the leaf up. -/
def pagesOn (byNumber : Bool) (path : List Nat) : List PagePlace :=
  path.zipIdx.map fun p => ⟨byNumber, p.2, p.1⟩

/-- The pages read to find a key. -/
def keyPages (t : Table) (key : String) : List PagePlace :=
  pagesOn false (t.byKey.path (·.key < key))

/-- The pages read to find the row of a key. -/
def rowPages (t : Table) (key : String) : List PagePlace :=
  match t.number? key with
  | some number => pagesOn true (t.byNumber.path (·.number < number))
  | none => []

/-- The pages read to find the end of the rows. -/
def endPages (t : Table) : List PagePlace := pagesOn true (t.byNumber.path fun _ => true)

/-- All pages. -/
def allPages (t : Table) : List PagePlace :=
  [t.byNumber, t.byKey].flatMap fun tree =>
    tree.levels.zipIdx.flatMap fun level =>
      (List.range level.1.length).map fun i => ⟨tree.byNumber, level.2, i⟩

/-- Whether the row of a key goes on behind its page. -/
def isLong (t : Table) (key : String) : Bool :=
  (t.get? key).any fun value => (Record.ofRow key value).isLong

end Table
end IndicatorStrategy

import IndicatorStrategy.Store.DatabaseFailure
import IndicatorStrategy.Store.Table
/-!
# IndicatorStrategy.Store.Copy

**Copies of what was read**, page by page. A page that is held is not read again, so it
can still be used once its file is overwritten. A page that was not held by then is lost,
and so are the parts of long rows behind their pages, which are read each time.
-/

namespace IndicatorStrategy
namespace Database

/-- What is kept of a file whose pages are read at most once. -/
structure Copy where
  table : Table
  held : List PagePlace
  /-- Whether the log has changes, so that the pages are read from there. -/
  isAhead : Bool
  deriving DecidableEq

namespace Copy

/-- Whether pages are held. -/
def holds (c : Copy) (pages : List PagePlace) : Bool := pages.all (· ∈ c.held)

/-- The copy with the pages that a key leads to. -/
def hold (c : Copy) (t : Table) (key : String) : Copy :=
  { c with
    table := t
    held := c.held ++ (t.keyPages key ++ t.rowPages key).filter (· ∉ c.held) }

/-- The value under a key, where only the pages that are held can be read. -/
def get (c : Copy) (lost : Failure) (key : String) : Except Failure (Option String) :=
  if !c.holds (c.table.keyPages key) then .error lost
  else match c.table.get? key with
    | none => .ok none
    | some value =>
      if !c.holds (c.table.rowPages key) then .error lost
      else if c.table.isLong key then .error broken
      else .ok (some value)

/-- The table after storing a value, where only the pages that are held can be read. -/
def store (c : Copy) (lost : Failure) (key value : String) : Except Failure Table :=
  if c.holds (c.table.keyPages key ++ c.table.rowPages key ++ c.table.endPages) then
    .ok (c.table.store key value)
  else .error lost

end Copy

end Database
end IndicatorStrategy

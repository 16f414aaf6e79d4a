import IndicatorStrategy.Failure
/-!
# IndicatorStrategy.Store.DatabaseFailure

**Failures of databases** by their cause.
-/

namespace IndicatorStrategy
namespace Database

/-- The failure of a file that is not a database. -/
def foreign : Failure := .query "file is not a database"

/-- The failure of a database without its table. -/
def tableless : Failure := .query "no such table: kv"

/-- The failure of writing to a database that may only be read. -/
def unwritable : Failure := .query "attempt to write a readonly database"

/-- The failure of a database that lost parts which were not yet read. -/
def damaged : Failure := .query "database disk image is malformed"

/-- The failure of a file that breaks off. -/
def broken : Failure := .query "disk I/O error"

/-- The failure of a file that cannot be made or opened beside a database. -/
def obstructed : Failure := .query "unable to open database file"

/-- The failure of a database that another one keeps busy. -/
def busy : Failure := .query "database is locked"

/-- The failure of a log whose index is no file. -/
def unindexed : Failure := .query "locking protocol"

/-- The failure of a database that cannot be reached. -/
def unreachable (reason : String) : Failure :=
  .store ("timed out waiting for connection: " ++ reason)

/-- The failure of a text that leads to no database file. -/
def unopened (text : String) : Failure :=
  unreachable ("unable to open database file: " ++ text)

end Database
end IndicatorStrategy

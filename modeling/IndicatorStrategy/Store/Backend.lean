import IndicatorStrategy.Configuration.Validation
import IndicatorStrategy.Store.Database
import IndicatorStrategy.Store.JsonFile
/-!
# IndicatorStrategy.Store.Backend

The **store backends** and their opening. All of them hold strings under string
keys; they differ in where these live: in memory, in a JSON file, or in a database.
-/

namespace IndicatorStrategy

/-- Where the contents of an open store live. -/
inductive Backend
  | memory (contents : Contents)
  | jsonFile (path : String)
  | database (connection : Database.Connection)
  deriving DecidableEq

/-- An open store together with the files it may use. -/
structure Workspace where
  disk : Disk
  backend : Backend
  deriving DecidableEq

/-! ### Reading and writing -/

namespace Workspace

/-- The value under a key, and the store after reading it. -/
def get (w : Workspace) (key : String) : Except Failure (Option String) × Workspace :=
  match w.backend with
  | .memory contents => (.ok (Assoc.get? contents key), w)
  | .jsonFile path => ((JsonFile.load w.disk path).map (Assoc.get? · key), w)
  | .database c =>
    let (value, c, disk) := c.get w.disk key
    (value, ⟨disk, .database c⟩)

/-- Stores a value under a key. -/
def store (w : Workspace) (key value : String) : Except Failure Unit × Workspace :=
  match w.backend with
  | .memory contents =>
    (.ok (), { w with backend := .memory (Assoc.putSorted contents key value) })
  | .jsonFile path =>
    match JsonFile.store w.disk path key value with
    | .ok disk => (.ok (), { w with disk })
    | .error e => (.error e, w)
  | .database c =>
    let (stored, c, disk) := c.store w.disk key value
    (stored, ⟨disk, .database c⟩)

instance : KeyValue Workspace where
  get := get
  set := store

/-- The open database of a store, if it has one. -/
def connection? (w : Workspace) : Option Database.Connection :=
  match w.backend with
  | .database c => some c
  | _ => none

/-- The files once the store is closed. -/
def close (w : Workspace) : Disk := w.connection?.elim w.disk (·.close none w.disk)

end Workspace

/-! ### Opening -/

namespace Configuration

/-- The backend if none is named. -/
def defaultBackend : String := "json"

/-- The file of a JSON store that is not told its path. -/
def defaultJsonPath : String := "stratbuilder.json"

/-- The file of a JSON store. -/
def jsonPath (c : Configuration) : String :=
  ((c.get? storeSection "path").filter (!isBlank ·)).getD defaultJsonPath

/-- The files that the configured store may use. -/
def storePaths (c : Configuration) : List String :=
  let backend := c.backend?.getD defaultBackend
  if backend = "json" then [c.jsonPath]
  else if backend = "sqlite" then
    match (c.get? storeSection "path").map Database.Location.ofText with
    | some (.ok l) => l.filePath?.elim [] Database.paths
    | _ => []
  else []

/-- Opens the configured database in the place of one that is held. -/
def openDatabase (c : Configuration) (held? : Option Database.Connection) (d : Disk) :
    Except Failure Backend × Disk :=
  match c.get? storeSection "path" with
  | none => (.error (.missing storeSection "path"), held?.elim d (·.close none d))
  | some text =>
    let (opened, d) := Database.openAt held? text d
    (opened.map .database, d)

/-- What there is to open without a database. -/
def openPlain (c : Configuration) (backend : String) : Except Failure Backend :=
  if backend = "json" then .ok (.jsonFile c.jsonPath)
  else if backend = "memory" then .ok (.memory [])
  else .error (.invalid storeSection "backend" (.unknownBackend backend))

/-- Opens the configured store in the place of one whose database is held. The files
afterwards, also if that fails. -/
def openStore (c : Configuration) (held? : Option Database.Connection) (d : Disk) :
    Except Failure Backend × Disk :=
  let backend := c.backend?.getD defaultBackend
  if backend = "sqlite" then c.openDatabase held? d
  else (c.openPlain backend, held?.elim d (·.close none d))

end Configuration
end IndicatorStrategy

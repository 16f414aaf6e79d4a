import IndicatorStrategy.CommandLine.Arguments
import IndicatorStrategy.CommandLine.Listing
import IndicatorStrategy.Configuration.Replay
import IndicatorStrategy.Session
import IndicatorStrategy.Store.Backend
/-!
# IndicatorStrategy.CommandLine.Run

**Running commands** on the files of a working directory. A command is an action on
these files that ends with the text it prints, or with a failure. Only compiling
writes: the files of the configured store.
-/

namespace IndicatorStrategy

/-! ### Configurations and stores -/

/-- The configuration that a file holds. -/
def Disk.readConfiguration (d : Disk) (path : String) : Except FileFault Configuration :=
  match d.read path with
  | .error fault => .error (.system fault)
  | .ok text =>
    match Configuration.ofText text with
    | .error fault => .error (.ini fault)
    | .ok c => .ok c

namespace Configuration

/-- Loads a configuration. -/
def load (path : String) : Action Disk Configuration := do
  Action.log (.loadingConfiguration path)
  fun d => ⟨(d.readConfiguration path).mapError (.unreadable path), d, []⟩

/-- Loads a configuration and checks it. -/
def loadValidated (path : String) : Action Disk Configuration := do
  let c ← load path
  Action.ofExcept c.validate
  return c

/-- Opens the configured store for an action, and closes it after that. -/
def withStore {α : Type} (c : Configuration) (x : Action Workspace α) : Action Disk α :=
  fun d =>
    match c.openStore none d with
    | (.error e, d) => ⟨.error e, d, []⟩
    | (.ok backend, d) =>
      let o := x.run ⟨d, backend⟩
      ⟨o.result, o.store.close, o.log⟩

end Configuration

namespace Command

variable {σ : Type} [KeyValue σ]

/-- A value as it is printed. -/
def printed (v : Json) : String := v.pretty ++ "\n"

/-! ### Compiling -/

/-- Stores the configured ticker and window, if there is any. -/
def storeSelection (c : Configuration) : Action σ Unit :=
  let selection := Selection.configured c ⟨none, none⟩
  if selection.ticker?.isSome || selection.days?.isSome then
    Selection.store selection.ticker? (selection.days?.getD Selection.defaultDays)
  else return ()

/-- Compiles one side and stores its artifacts after every edit. -/
def compileSide (c : Configuration) (side : Side) : Action σ Artifact := do
  let edits ← Action.ofExcept (c.edits side)
  Action.log (.compiling side edits.length)
  let session ← Session.open side
  let session ← session.applyAll edits
  session.save
  Action.log (.compiled side session.compiled.expression)
  return session.compiled

/-- Compiles sides one after the other. -/
def compileSides (c : Configuration) : List Side → Action σ (List (Side × Artifact))
  | [] => return []
  | side :: sides => do
    let artifact ← compileSide c side
    let others ← compileSides c sides
    return (side, artifact) :: others

/-- Stores the selection and compiles the given side, or both. -/
def compileAll (c : Configuration) (side? : Option Side) :
    Action σ (List (Side × Artifact)) := do
  storeSelection c
  compileSides c ((side?.map fun side => [side]).getD Side.all)

/-- Compiles a configuration into its store. -/
def runCompile (config : String) (side? : Option Side) : Action Disk String := do
  let c ← Configuration.loadValidated config
  let artifacts ← c.withStore (compileAll c side?)
  return printed (.object (artifacts.map fun p => (p.1.wire, p.2.toJson)))

/-! ### Reading the store -/

/-- Shows the stored artifacts of a side, or those of a blank draft. -/
def runDisplay (config : String) (side : Side) : Action Disk String := do
  let c ← Configuration.load config
  let session ← c.withStore (Session.open side)
  if session.persisted?.isNone then Action.log (.nothingPersisted side)
  return printed session.displayed.toJson

/-- Shows the request for what is stored. -/
def runRequest (config : String) (given : Selection) : Action Disk String := do
  let c ← Configuration.loadValidated config
  let request ← c.withStore (Request.assemble (Selection.configured c given))
  if request.ticker.isEmpty then Action.log .noTicker
  return printed request.toJson

/-! ### Describing and checking -/

/-- Describes an expression. -/
def runInspect (expression : String) : Action Disk String :=
  match Expression.parse expression with
  | .ok e => return e.listing
  | .error error => Action.ofExcept (.error (.expression error))

/-- The expressions of the given sides. -/
def expressions (c : Configuration) : List Side → Except Failure (List String)
  | [] => .ok []
  | side :: sides => do
    let d ← c.draft side
    let others ← expressions c sides
    return (side.wire ++ ": " ++ d.compile.expression) :: others

/-- Checks a configuration and shows the expressions of its sides. -/
def runValidate (config : String) : Action Disk String := do
  let c ← Configuration.loadValidated config
  let lines ← Action.ofExcept (expressions c c.definedSides)
  Action.log .validated
  return unlines lines

/-- Runs a command. -/
def run : Command → Action Disk String
  | compile config side? => runCompile config side?
  | display config side => runDisplay config side
  | request config selection => runRequest config selection
  | indicators => return Catalog.listing
  | inspect expression => runInspect expression
  | validate config => runValidate config

/-- What is shown about a failure besides its event: where an expression goes
wrong. -/
def explanation : Command → Failure → String
  | inspect input, .expression error => error.context input ++ "\n"
  | _, _ => ""

end Command

/-! ### Reports -/

/-- What is left of a command. -/
structure Report where
  exitCode : Nat
  printed : String
  explained : String
  log : List Event
  disk : Disk

/-- The report of a command; a failure is logged last. -/
def Command.report (command : Command) (d : Disk) : Report :=
  match command.run.run d with
  | ⟨.ok text, d, log⟩ => ⟨0, text, "", log, d⟩
  | ⟨.error e, d, log⟩ => ⟨e.exitCode, "", command.explanation e, log ++ [.failed e], d⟩

/-- The events that are shown up to a level. -/
def Report.shown (r : Report) (level : Level) : List Event :=
  r.log.filter (·.level.isShown level)

end IndicatorStrategy

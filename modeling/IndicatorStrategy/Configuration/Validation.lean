import IndicatorStrategy.Configuration.Replay
/-!
# IndicatorStrategy.Configuration.Validation

**Validation** of a configuration before anything is compiled or stored. The first
problem found is reported: the store, then the backtest settings, then the
conditions by section name.
-/

namespace IndicatorStrategy
namespace Configuration

/-- The section that names the store. -/
def storeSection : String := "store"

/-- The section of the ticker and the window. -/
def backtestSection : String := "backtest"

/-- The store backends. -/
def backends : List String := ["sqlite", "json", "memory"]

/-- The configured backend in small letters. -/
def backend? (c : Configuration) : Option String :=
  (c.get? storeSection "backend").map fun b => lower (trim b)

/-- A database needs a path. -/
def validateDatabasePath (c : Configuration) : Except Failure Unit :=
  match c.get? storeSection "path" with
  | some path => if isBlank path then .error (.missing storeSection "path") else .ok ()
  | none => .error (.missing storeSection "path")

/-- The backend must be one that exists. -/
def validateStore (c : Configuration) : Except Failure Unit :=
  match c.backend? with
  | none => .ok ()
  | some backend =>
    if backends.contains backend then
      if backend = "sqlite" then c.validateDatabasePath else .ok ()
    else .error (.invalid storeSection "backend" (.unlistedBackend backend))

/-- The window must be a positive number of 32 bits. -/
def validateDays (c : Configuration) : Except Failure Unit :=
  match c.get? backtestSection "days" with
  | none => .ok ()
  | some raw =>
    match Numeral.integer64? (trim raw) with
    | some n =>
      if 0 < n && n < Numeral.limit32 then .ok ()
      else .error (.invalid backtestSection "days" .daysNotPositive)
    | none => .error (.invalid backtestSection "days" .daysNotPositive)

/-- A ticker has no blanks inside. -/
def validateTicker (c : Configuration) : Except Failure Unit :=
  match c.get? backtestSection "ticker" with
  | some t =>
    if (trimChars t.toList).any isWhiteSpace then
      .error (.invalid backtestSection "ticker" .tickerNotSingle)
    else .ok ()
  | none => .ok ()

def validateBacktest (c : Configuration) : Except Failure Unit := do
  c.validateDays
  c.validateTicker

/-- The kind of a condition must be in the catalog, or absent. -/
def validateKind (c : Configuration) (name : String) : Except Failure Unit :=
  let kind := c.kindOf name
  if kind.isEmpty || Catalog.isKnown kind then .ok ()
  else .error (.invalid name "kind" (.unknownKind kind))

/-- A trend must be one of the fixed words. -/
def validateTrend (c : Configuration) (name : String) : Except Failure Unit :=
  match c.get? name "trend" with
  | some raw => (trendOf name raw).map fun _ => ()
  | none => .ok ()

/-- The configured reference, the close price if there is none. -/
def configuredReference (c : Configuration) (name : String) : Except Failure Reference :=
  match c.get? name "compare_to" with
  | some raw => referenceOf name raw
  | none => .ok .close

/-- A constant must be a number, and have the constant reference. -/
def validateConstant (c : Configuration) (name : String) (reference : Reference) :
    Except Failure Unit :=
  match c.get? name "compare_value" with
  | none => .ok ()
  | some raw =>
    match constantOf name raw with
    | .error e => .error e
    | .ok _ =>
      match reference with
      | .constant => .ok ()
      | .close => .error (.invalid name "compare_value" .strayConstant)

def validateEntry (c : Configuration) (name : String) : Except Failure Unit := do
  c.validateKind name
  c.validateTrend name
  let reference ← c.configuredReference name
  c.validateConstant name reference

/-- Whether a section holds settings and no condition. -/
def isSettings (name : String) : Bool :=
  name == storeSection || name == backtestSection || name == Ini.defaultSection

/-- A section must have a meaning. -/
def validateSection (c : Configuration) (name : String) : Except Failure Unit :=
  if isSettings name then .ok ()
  else if (Address.ofName? name).isSome then c.validateEntry name
  else .error (.invalid name "" .unknownSection)

def validateConditions (c : Configuration) : Except Failure Unit :=
  c.names.forM c.validateSection

/-- All checks. -/
def validate (c : Configuration) : Except Failure Unit := do
  c.validateStore
  c.validateBacktest
  c.validateConditions

end Configuration
end IndicatorStrategy

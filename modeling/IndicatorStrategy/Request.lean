import IndicatorStrategy.Artifact.Decode
import IndicatorStrategy.Configuration.Validation
import IndicatorStrategy.Store.Action
/-!
# IndicatorStrategy.Request

**Backtest requests**: the stored artifacts of both sides with a ticker and a
window of days. Ticker and window are what the caller gives, or else what was
selected last; the window falls back to a default. Sending a request is left to the
caller.
-/

namespace IndicatorStrategy

/-- A ticker and a window, either of which may be left open. -/
structure Selection where
  ticker? : Option String
  days? : Option Nat
  deriving DecidableEq

/-- What the backtest service is asked. -/
structure Request where
  ticker : String
  limit : Nat
  buy : List ParameterSet
  buyExpression : String
  sell : List ParameterSet
  sellExpression : String

/-! ### Selections -/

namespace Selection

/-- The window when none is selected. -/
def defaultDays : Nat := 100

/-- A positive number of 32 bits. -/
def positive? (raw : String) : Option Nat := (Numeral.word32? (trim raw)).filter (0 < ·)

/-- The window that a stored text selects. -/
def daysOf (raw? : Option String) : Nat := (raw?.bind positive?).getD defaultDays

/-- The configured selection; what the caller gives comes first. -/
def configured (c : Configuration) (given : Selection) : Selection :=
  { ticker? := given.ticker?.or
      (((c.get? Configuration.backtestSection "ticker").map trim).filter (!·.isEmpty))
    days? := given.days?.or ((c.get? Configuration.backtestSection "days").bind positive?) }

/-- The store key of the ticker. -/
def tickerKey : String := "ticker"

/-- The store key of the ticker that was selected last. -/
def selectedTickerKey : String := "selectedTicker"

/-- The store key of the window. -/
def daysKey : String := "days"

/-- Stores a window, and a ticker unless it is empty. -/
def store {σ : Type} [KeyValue σ] (ticker? : Option String) (days : Nat) :
    Action σ Unit := do
  match ticker?.filter (!·.isEmpty) with
  | some ticker =>
    Action.set selectedTickerKey ticker
    Action.set tickerKey ticker
  | none => pure ()
  Action.set daysKey (Numeral.ofNat days)

end Selection

/-! ### Assembling -/

namespace Request

variable {σ : Type} [KeyValue σ]

/-- The text under a key, unless it is blank. -/
def lookUp (key : String) : Action σ (Option String) := do
  let value? ← Action.get key
  return value?.filter (!isBlank ·)

/-- The given ticker, or else the one selected last, or else the one stored. -/
def tickerFor (given? : Option String) : Action σ String :=
  match given? with
  | some t => return t
  | none => do
    match ← lookUp Selection.selectedTickerKey with
    | some t => return t
    | none => return (← lookUp Selection.tickerKey).getD ""

/-- The given window, or else the stored one. -/
def windowFor (given? : Option Nat) : Action σ Nat :=
  match given? with
  | some n => return n
  | none => return Selection.daysOf (← Action.get Selection.daysKey)

/-- The parameter array of a side; a corrupt one counts as empty. -/
def storedParameters (side : Side) : Action σ (List ParameterSet) := do
  match ← lookUp side.parametersKey with
  | none => return []
  | some raw =>
    match ParameterSet.listOfText raw with
    | .ok sets => return sets
    | .error _ =>
      Action.log .corruptDropped
      return []

/-- The expression of a side. -/
def storedExpression (side : Side) : Action σ String := do
  return (← Action.get side.expressionKey).getD ""

/-- The request for what a store holds. -/
def assemble (given : Selection) : Action σ Request := do
  let ticker ← tickerFor given.ticker?
  let limit ← windowFor given.days?
  let buy ← storedParameters .buy
  let buyExpression ← storedExpression .buy
  let sell ← storedParameters .sell
  let sellExpression ← storedExpression .sell
  return ⟨ticker, limit, buy, buyExpression, sell, sellExpression⟩

/-! ### Encoding -/

/-- The fields of a request. -/
def shape : Shape :=
  [("ticker", .text), ("limit", .count), ("buy", .parameters), ("buy_exp", .text),
    ("sell", .parameters), ("sell_exp", .text)]

/-- The request with given fields. -/
def ofFields : List FieldValue → Except Json.DecodeError Request
  | [.text t, .count n, .parameters b, .text be, .parameters s, .text se] =>
    .ok ⟨t, n, b, be, s, se⟩
  | _ => .error .mismatched

/-- The request that a text holds. -/
def ofText (text : String) : Except Json.DecodeError Request :=
  Json.decode (fun t => (shape.decode Json.maxDepth t).bind ofFields) text

/-- A parameter array. -/
def arrayOf (sets : List ParameterSet) : Json := .array (sets.map ParameterSet.toJson)

/-- A request as it is sent. -/
def toJson (r : Request) : Json :=
  .object [("ticker", .string r.ticker), ("limit", .int r.limit), ("buy", arrayOf r.buy),
    ("buy_exp", .string r.buyExpression), ("sell", arrayOf r.sell),
    ("sell_exp", .string r.sellExpression)]

end Request
end IndicatorStrategy

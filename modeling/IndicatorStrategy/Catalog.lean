import IndicatorStrategy.WireKey
/-!
# IndicatorStrategy.Catalog

The **catalog of indicators**: for each kind its label and its parameters. Prices
are supplied by the backtest engine and are no parameters. The order of the fields
matters: an expression holds the values of a kind in exactly this order.
-/

namespace IndicatorStrategy

/-- What a form field holds. -/
inductive FieldType
  | integer
  | text
  deriving DecidableEq

/-- A parameter of an indicator. -/
structure Field where
  key : String
  label : String
  type : FieldType
  deriving DecidableEq

/-- An indicator that a condition can use. -/
structure Indicator where
  kind : String
  label : String
  fields : List Field
  deriving DecidableEq

namespace Catalog

/-- An integer parameter. -/
def integer (key label : String) : Field := ⟨key, label, .integer⟩

/-- A text parameter. -/
def text (key label : String) : Field := ⟨key, label, .text⟩

/-- The only parameter of many indicators. -/
def timeperiod : List Field := [integer "timeperiod" "Timeperiod"]

/-- All indicators, in the order of the menu. -/
def indicators : List Indicator :=
  [⟨"Stoch", "Stochastic (Stoch)", [integer "slowk_period" "Slow K Period"]⟩,
   ⟨"Dema", "DEMA", timeperiod⟩,
   ⟨"Ma", "MA", timeperiod⟩,
   ⟨"Sma", "SMA", timeperiod⟩,
   ⟨"Macd", "MACD",
    [integer "slowperiod" "Slow Period", integer "fastperiod" "Fast Period",
     integer "signalperiod" "Signal Period"]⟩,
   ⟨"HeikenAshi", "Heiken Ashi",
    [integer "candle_number" "Candle Number", text "candle_state" "Candle State"]⟩,
   ⟨"Adx", "ADX", timeperiod⟩,
   ⟨"Bbands", "Bollinger Bands (BBands)",
    [integer "timeperiod" "Timeperiod", integer "nbdevup" "NbDev Up",
     integer "nbdevdn" "NbDev Dn"]⟩,
   ⟨"Rsi", "RSI", timeperiod⟩,
   ⟨"Sar", "SAR", [integer "acceleration" "Acceleration", integer "maximum" "Maximum"]⟩,
   ⟨"Willr", "WILLR", timeperiod⟩,
   ⟨"Supertrend", "Supertrend",
    [integer "period" "Period", integer "multiplier" "Multiplier"]⟩]

/-- The indicator of a kind. -/
def find? (kind : String) : Option Indicator := indicators.find? (·.kind == kind)

/-- Whether a kind is in the catalog. -/
def isKnown (kind : String) : Bool := indicators.any (·.kind == kind)

/-- The parameters of a kind; none for an unknown kind. -/
def fields (kind : String) : List Field := ((find? kind).map (·.fields)).getD []

/-- The parameter of a kind with a given key. -/
def field? (kind key : String) : Option Field := (fields kind).find? (·.key == key)

/-- The wire keys of all indicators, in the order of the menu. -/
def wireKeys : List String := indicators.map fun i => wireKey i.kind

theorem fields_eq_nil {kind : String} (h : isKnown kind = false) : fields kind = [] := by
  have hn : find? kind = none := by
    rw [find?, List.find?_eq_none]
    intro i hi
    have := List.any_eq_false.mp h i hi
    simpa using this
  simp [fields, hn]

end Catalog
end IndicatorStrategy

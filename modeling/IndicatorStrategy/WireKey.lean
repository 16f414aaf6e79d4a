import IndicatorStrategy.Text.Case
/-!
# IndicatorStrategy.WireKey

The **wire key** of an indicator: its mixed-case name in upper snake case, as the
backtest engine knows it. `HeikenAshi` becomes `HEIKEN_ASHI`, `Sma` becomes `SMA`.
-/

namespace IndicatorStrategy

/-- Puts an underscore between a small ASCII letter or a digit and a capital. -/
def breakWords : List Char → List Char
  | c :: d :: cs =>
    if (c.isLower || c.isDigit) && d.isUpper then c :: '_' :: breakWords (d :: cs)
    else c :: breakWords (d :: cs)
  | cs => cs

/-- The wire key of an indicator kind. -/
def wireKey (kind : String) : String := upper (String.ofList (breakWords kind.toList))

end IndicatorStrategy

import IndicatorStrategy.CommandLine.Arguments
import IndicatorStrategy.CommandLine.Listing
/-!
# IndicatorStrategy.CommandLine.Usage

**Help**: what is shown instead of running a command, and the exit code that goes
with it.
-/

namespace IndicatorStrategy

/-- The commands with what belongs to them. -/
def CommandLine.usage : String :=
  unlines
    ["usage: [--log-level LEVEL] COMMAND",
     "",
     "compile -c FILE [--side SIDE]                compile a strategy and store it",
     "show -c FILE --side SIDE                     show what is stored for a side",
     "request -c FILE [--ticker TEXT] [--days N]   show the backtest request",
     "indicators                                   list the indicators",
     "inspect EXPRESSION                           describe an expression",
     "validate -c FILE                             check a strategy"]

namespace Refusal

/-- What is wrong, in front of the usage. -/
def message : Refusal → String
  | help | nothing => ""
  | unknownArgument => "error: unexpected argument\n\n"
  | unknownCommand => "error: unknown command\n\n"
  | missingCommand => "error: a command is required\n\n"
  | missingArgument => "error: a required argument is missing\n\n"
  | missingValue => "error: an option has no value\n\n"
  | surplusValue => "error: a value is not expected here\n\n"
  | badValue => "error: an option has an invalid value\n\n"
  | repeated => "error: an option is given twice\n\n"

/-- Only asking for help is no error. -/
def exitCode : Refusal → Nat
  | help => 0
  | _ => 2

end Refusal
end IndicatorStrategy

import IndicatorStrategy.Event
import IndicatorStrategy.Request
/-!
# IndicatorStrategy.CommandLine.Command

The **commands** of the program with their names and options. One option, the log
level, may stand with every command and also in front of it.
-/

namespace IndicatorStrategy

/-- What the program is asked to do. -/
inductive Command
  /-- Compiles the configured sides and stores them. -/
  | compile (config : String) (side? : Option Side)
  /-- Shows what is stored for a side. -/
  | display (config : String) (side : Side)
  /-- Shows the backtest request. -/
  | request (config : String) (selection : Selection)
  /-- Lists the catalog. -/
  | indicators
  /-- Describes an expression. -/
  | inspect (expression : String)
  /-- Checks a configuration. -/
  | validate (config : String)
  deriving DecidableEq

/-- The configuration file of a command, if it has one. -/
def Command.configPath? : Command → Option String
  | compile config _ | display config _ | request config _ | validate config => some config
  | indicators | inspect _ => none

/-- The names of the commands. -/
inductive CommandName
  | compile
  | display
  | request
  | indicators
  | inspect
  | validate
  deriving DecidableEq

/-- The options; each takes one value. -/
inductive OptionName
  | level
  | config
  | side
  | ticker
  | days
  deriving DecidableEq

namespace OptionName

/-- The spelling behind two dashes. -/
def long : OptionName → String
  | level => "log-level"
  | config => "config"
  | side => "side"
  | ticker => "ticker"
  | days => "days"

/-- The letter behind a single dash. -/
def short? : OptionName → Option Char
  | config => some 'c'
  | _ => none

end OptionName

namespace CommandName

def all : List CommandName := [compile, display, request, indicators, inspect, validate]

/-- The spelling on the command line. -/
def text : CommandName → String
  | compile => "compile"
  | display => "show"
  | request => "request"
  | indicators => "indicators"
  | inspect => "inspect"
  | validate => "validate"

/-- The command with a given spelling. -/
def ofText? (text : String) : Option CommandName := all.find? (·.text == text)

/-- The options that may follow a command. -/
def options : CommandName → List OptionName
  | compile | display => [.level, .config, .side]
  | request => [.level, .config, .ticker, .days]
  | indicators | inspect => [.level]
  | validate => [.level, .config]

@[simp] theorem ofText?_text (name : CommandName) : ofText? name.text = some name := by
  cases name <;> decide

end CommandName
end IndicatorStrategy

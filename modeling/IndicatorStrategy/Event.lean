import IndicatorStrategy.Failure
/-!
# IndicatorStrategy.Event

**Events** that are logged while a command or a session runs, with their levels and
texts.
-/

namespace IndicatorStrategy

/-- How urgent an event is. -/
inductive Level
  | error
  | warn
  | info
  | debug
  | trace
  deriving DecidableEq

namespace Level

/-- The more urgent levels come first. -/
def rank : Level → Nat
  | error => 1
  | warn => 2
  | info => 3
  | debug => 4
  | trace => 5

def name : Level → String
  | error => "ERROR"
  | warn => "WARN"
  | info => "INFO"
  | debug => "DEBUG"
  | trace => "TRACE"

def all : List Level := [error, warn, info, debug, trace]

/-- The level with a name in any case, or with a rank. -/
def ofText? (text : String) : Option Level :=
  match (Numeral.natural? text.toList).bind fun n => all.find? (·.rank == n) with
  | some level => some level
  | none => all.find? fun l => l.name.toList.map Char.toLower == text.toList.map Char.toLower

/-- Whether events of a level are shown when everything up to `limit` is. -/
def isShown (level limit : Level) : Bool := level.rank ≤ limit.rank

end Level

/-- What has happened. -/
inductive Event
  | loadingConfiguration (path : String)
  | compiling (side : Side) (edits : Nat)
  | compiled (side : Side) (expression : String)
  | nothingPersisted (side : Side)
  | noTicker
  | validated
  | loadedPersisted
  | recompiled
  | persisted
  | notPersisted
  | readFailed
  | corruptIgnored
  | corruptDropped
  | failed (failure : Failure)
  deriving DecidableEq

namespace Event

def level : Event → Level
  | loadingConfiguration _ | compiling .. | compiled .. | nothingPersisted _ | noTicker
  | validated | loadedPersisted => .info
  | recompiled | persisted => .debug
  | notPersisted | readFailed | corruptIgnored | corruptDropped => .warn
  | failed _ => .error

def message : Event → String
  | loadingConfiguration path => "Loading config from " ++ path
  | compiling side edits =>
    "Compiling " ++ side.wire ++ " side (" ++ Numeral.ofNat edits ++ " edits)"
  | compiled side expression => side.wire ++ ": " ++ expression
  | nothingPersisted side => "Nothing persisted for " ++ side.wire ++ " side"
  | noTicker => "No ticker selected"
  | validated => "Strategy file is valid"
  | loadedPersisted => "loaded persisted strategy"
  | recompiled => "recompiled"
  | persisted => "persisted compiled strategy"
  | notPersisted => "failed to persist compiled strategy"
  | readFailed => "store read failed"
  | corruptIgnored => "ignoring corrupt persisted parameter array"
  | corruptDropped => "persisted parameter array is corrupt, sending none"
  | failed failure => failure.message

/-- The level and the text. -/
def line (e : Event) : String := e.level.name ++ " " ++ e.message

end Event
end IndicatorStrategy

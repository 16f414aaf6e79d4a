import IndicatorStrategy.CommandLine.Command
import IndicatorStrategy.Numeral
/-!
# IndicatorStrategy.CommandLine.Arguments

**Reading the command line.** Arguments are read from left to right: options of the
program, the name of a command, and what belongs to the command.

* An option takes its value behind an equals sign or from the next argument, which
  must not look like an option. The value is checked when the next option or
  operand is met, or at the end.
* An option is given at most once in front of the command and once behind it.
* After `--` every argument is an operand, also where an option lacks its value.
* What belongs to the command is read and checked before an option in front of the
  command is.
-/

namespace IndicatorStrategy

/-- Why a command line is refused. Asking for help counts as a refusal, too: no
command is run. -/
inductive Refusal
  | help
  /-- There are no arguments, or none that say anything. -/
  | nothing
  | unknownArgument
  | unknownCommand
  | missingCommand
  | missingArgument
  /-- An option without its value, or with an empty one where a path is needed. -/
  | missingValue
  /-- A value for something that takes none. -/
  | surplusValue
  | badValue
  | repeated
  deriving DecidableEq

/-- A command and the level up to which events are shown. -/
structure Invocation where
  level : Level
  command : Command
  deriving DecidableEq

namespace CommandLine

/-! ### Settings -/

/-- What the options and operands of a command have set so far. -/
structure Settings where
  level? : Option Level
  config? : Option String
  side? : Option Side
  ticker? : Option String
  days? : Option Nat
  expression? : Option String
  deriving DecidableEq

namespace Settings

/-- Nothing set. -/
def none : Settings := ⟨.none, .none, .none, .none, .none, .none⟩

/-- A value for something that is not set yet. -/
def once {α : Type} (old? : Option α) (new : Except Refusal α) : Except Refusal (Option α) :=
  if old?.isSome then .error .repeated else new.map some

/-- A path is not empty. -/
def path (value : String) : Except Refusal String :=
  if value.isEmpty then .error .missingValue else .ok value

/-- A value that reads. -/
def reading {α : Type} : Option α → Except Refusal α
  | some x => .ok x
  | .none => .error .badValue

/-- A window has 32 bits; it is read as an integer first, so a minus may stand in
front of zero. -/
def days (value : String) : Except Refusal Nat :=
  let fits (n : Int) : Bool := 0 ≤ n && n < Numeral.limit32
  reading (((Numeral.integer64? value).filter fits).map Int.toNat)

/-- The side with a given spelling. -/
def side (value : String) : Except Refusal Side := reading (Side.ofWire value).toOption

/-- Sets an option. -/
def assign (s : Settings) (value : String) : OptionName → Except Refusal Settings
  | .level =>
    (once s.level? (reading (Level.ofText? value))).map fun level? => { s with level? }
  | .config => (once s.config? (path value)).map fun config? => { s with config? }
  | .side => (once s.side? (side value)).map fun side? => { s with side? }
  | .ticker => (once s.ticker? (.ok value)).map fun ticker? => { s with ticker? }
  | .days => (once s.days? (days value)).map fun days? => { s with days? }

/-- The command with these settings, if nothing is missing. -/
def command? (s : Settings) : CommandName → Option Command
  | .compile => s.config?.map (.compile · s.side?)
  | .display => s.config?.bind fun config => s.side?.map (.display config)
  | .request => s.config?.map (.request · ⟨s.ticker?, s.days?⟩)
  | .indicators => some .indicators
  | .inspect => s.expression?.map .inspect
  | .validate => s.config?.map .validate

end Settings

/-! ### Forms of arguments -/

/-- What an argument looks like. -/
inductive Form
  /-- Two dashes alone. -/
  | terminator
  | long (name : String) (value? : Option String)
  | short (letters : List Char)
  | operand
  deriving DecidableEq

/-- The name and the value of an option with two dashes. -/
def longForm (cs : List Char) : Form :=
  .long (String.ofList (cs.takeWhile (· != '=')))
    (match cs.dropWhile (· != '=') with
      | _ :: value => some (String.ofList value)
      | [] => none)

/-- The form of an argument; a dash alone is an operand. -/
def Form.of (argument : String) : Form :=
  match argument.toList with
  | ['-', '-'] => .terminator
  | '-' :: '-' :: cs => longForm cs
  | ['-'] => .operand
  | '-' :: cs => .short cs
  | _ => .operand

/-! ### Reading -/

/-- How far reading has come. -/
structure Progress where
  settings : Settings
  /-- An option that is not checked yet, with its value if that has been met. -/
  pending? : Option (OptionName × Option String)
  /-- Whether only operands follow. -/
  closed : Bool
  deriving DecidableEq

namespace Progress

/-- Nothing read. -/
def start : Progress := ⟨.none, none, false⟩

/-- Whether the next argument may be the value of an option. -/
def awaitsValue (p : Progress) : Bool :=
  match p.pending? with
  | some (_, none) => true
  | _ => false

/-- Checks and sets the option that is pending. -/
def settle (p : Progress) : Except Refusal Progress :=
  match p.pending? with
  | none => .ok p
  | some (_, none) => .error .missingValue
  | some (name, some value) =>
    (p.settings.assign value name).map fun settings => { p with settings, pending? := none }

/-- Meets an option, with or without a value at hand. -/
def meet (p : Progress) (name : OptionName) (value? : Option String) :
    Except Refusal Progress := do
  let p ← p.settle
  match value? with
  | none => return { p with pending? := some (name, none) }
  | some value => return { p with settings := ← p.settings.assign value name }

/-- Meets the wish for help. -/
def meetHelp (p : Progress) : Except Refusal Progress := do
  let _ ← p.settle
  throw .help

/-- Meets an option with two dashes. -/
def meetLong (p : Progress) (options : List OptionName) (name : String)
    (value? : Option String) : Except Refusal Progress :=
  if name = "help" then
    if value?.isSome then .error .surplusValue else p.meetHelp
  else match options.find? (·.long == name) with
    | some option => p.meet option value?
    | none => .error .unknownArgument

/-- The value that stands behind the letter of an option. -/
def attached? : List Char → Option String
  | [] => none
  | '=' :: cs => some (String.ofList cs)
  | cs => some (String.ofList cs)

/-- Meets an option with a single dash. -/
def meetShort (p : Progress) (options : List OptionName) :
    List Char → Except Refusal Progress
  | [] => .ok p
  | 'h' :: _ => p.meetHelp
  | c :: cs =>
    match options.find? (·.short? == some c) with
    | some option => p.meet option (attached? cs)
    | none => .error .unknownArgument

/-- Reads an argument. What is neither an option nor a value goes to `operand`. -/
def step (options : List OptionName) (operand : Progress → Except Refusal Progress)
    (p : Progress) (argument : String) : Except Refusal Progress :=
  if p.closed then operand p
  else match Form.of argument with
    | .terminator => .ok { p with closed := true }
    | .long name value? => p.meetLong options name value?
    | .short letters => p.meetShort options letters
    | .operand =>
      match p.pending? with
      | some (name, none) => .ok { p with pending? := some (name, some argument) }
      | _ => operand p

end Progress

/-! ### What belongs to a command -/

/-- Takes an operand of a command: the expression to inspect is the only one. -/
def takeOperand (name : CommandName) (argument : String) (p : Progress) :
    Except Refusal Progress :=
  match name, p.settings.expression? with
  | .inspect, none => do
    let p ← p.settle
    return { p with settings := { p.settings with expression? := some argument } }
  | _, _ => .error .unknownArgument

/-- Reads what follows the name of a command. -/
def readCommand (name : CommandName) (p : Progress) :
    List String → Except Refusal (Option Level × Command)
  | [] => do
    let p ← p.settle
    match p.settings.command? name with
    | some command => return (p.settings.level?, command)
    | none => throw .missingArgument
  | argument :: arguments => do
    let p ← p.step name.options (takeOperand name argument) argument
    readCommand name p arguments

/-! ### The whole line -/

/-- The command that asks for help on others. -/
def helpName : String := "help"

/-- Whether a text names a command. -/
def isCommand (text : String) : Bool := text == helpName || (CommandName.ofText? text).isSome

/-- What asking for help comes to: no command has commands of its own. -/
def helpOn : List String → Refusal
  | [] => .help
  | [topic] => if isCommand topic then .help else .unknownCommand
  | _ => .unknownCommand

/-- Refuses an operand in front of a command. -/
def refuseOperand (argument : String) (p : Progress) : Except Refusal Progress :=
  if p.closed && isCommand argument then .error .unknownArgument else .error .unknownCommand

/-- The level that events are shown up to if none is given. -/
def defaultLevel : Level := .warn

/-- Reads a command and then settles what stands in front of it. -/
def finish (p : Progress) (name : CommandName) (arguments : List String) :
    Except Refusal Invocation := do
  let (inner?, command) ← readCommand name .start arguments
  let p ← p.settle
  return ⟨(inner?.or p.settings.level?).getD defaultLevel, command⟩

/-- The command that an argument names, where one may stand. -/
def commandAt? (p : Progress) (argument : String) : Option CommandName :=
  if p.closed || p.awaitsValue then none else CommandName.ofText? argument

/-- Whether an argument asks for help, where a command may stand. -/
def asksForHelp (p : Progress) (argument : String) : Bool :=
  !p.closed && !p.awaitsValue && argument == helpName

/-- Reads a line from the given point on. -/
def readLine (p : Progress) : List String → Except Refusal Invocation
  | [] => do
    let p ← p.settle
    throw (if p.settings.level?.isSome then .missingCommand else .nothing)
  | argument :: arguments =>
    if asksForHelp p argument then .error (helpOn arguments)
    else match commandAt? p argument with
      | some name => finish p name arguments
      | none => do
        let p ← p.step [.level] (refuseOperand argument) argument
        readLine p arguments

end CommandLine

/-- What a command line asks for. -/
def Invocation.ofArguments (arguments : List String) : Except Refusal Invocation :=
  CommandLine.readLine .start arguments

end IndicatorStrategy

import IndicatorStrategy.Configuration.Ini
import IndicatorStrategy.Expression.Parser
import IndicatorStrategy.Vocabulary
/-!
# IndicatorStrategy.Failure

**Failures** by their cause, the words for each, and the exit code that a command
ends with.
-/

namespace IndicatorStrategy

/-- What the file system refuses. -/
inductive SystemFault
  | notFound
  | notDirectory
  | isDirectory
  | nameTooLong
  | nullInName
  | notText
  deriving DecidableEq

def SystemFault.message : SystemFault → String
  | notFound => "No such file or directory (os error 2)"
  | notDirectory => "Not a directory (os error 20)"
  | isDirectory => "Is a directory (os error 21)"
  | nameTooLong => "File name too long (os error 36)"
  | nullInName => "file name contained an unexpected NUL byte"
  | notText => "stream did not contain valid UTF-8"

/-- Why a configuration file gives no configuration. -/
inductive FileFault
  | system (fault : SystemFault)
  | ini (fault : IniFault)
  deriving DecidableEq

def FileFault.message : FileFault → String
  | system fault => fault.message
  | ini fault => fault.message

/-- What is wrong with a configured value. -/
inductive Problem
  /-- A store backend that the validation does not list. -/
  | unlistedBackend (name : String)
  /-- A store backend that cannot be opened. -/
  | unknownBackend (name : String)
  | daysNotPositive
  | tickerNotSingle
  /-- A section name with no meaning. -/
  | unknownSection
  | unknownKind (kind : String)
  | unknownWord (word : UnknownWord)
  | notNumber (raw : String)
  /-- A constant without the constant reference. -/
  | strayConstant
  deriving DecidableEq

def Problem.message : Problem → String
  | unlistedBackend name => s!"unknown backend '{name}', expected one of sqlite, json, memory"
  | unknownBackend name => s!"unknown backend '{name}'"
  | daysNotPositive => "days must be a positive integer"
  | tickerNotSingle => "ticker must be a single symbol"
  | unknownSection => "section must be store, backtest or <buy|sell>.<group>.<entry>"
  | unknownKind kind => s!"unknown indicator kind '{kind}'"
  | unknownWord word => word.message
  | notNumber raw => s!"'{raw}' is not a number"
  | strayConstant => "compare_value requires compare_to = constant"

/-- Why an operation failed. -/
inductive Failure
  /-- A configuration file that cannot be read. -/
  | unreadable (file : String) (fault : FileFault)
  /-- A configuration without a key that it needs. -/
  | missing (name key : String)
  /-- A configured value that is refused. -/
  | invalid (name key : String) (problem : Problem)
  /-- A store whose contents cannot be used or reached. -/
  | store (reason : String)
  /-- A store that refused an operation. -/
  | query (reason : String)
  /-- An expression that does not parse. -/
  | expression (error : ExpressionError)
  /-- A file that cannot be read or written. -/
  | system (fault : SystemFault)
  deriving DecidableEq

namespace Failure

def message : Failure → String
  | unreadable file fault =>
    s!"config parse error in {file}: couldn't read {file}: {fault.message}"
  | missing name key => s!"missing config key [{name}] {key}"
  | invalid name key problem =>
    s!"invalid config value [{name}] {key}: {problem.message}"
  | store reason => s!"store error: {reason}"
  | query reason => s!"store query error: {reason}"
  | expression error => error.text
  | system fault => fault.message

/-- The exit code of a command that fails. -/
def exitCode : Failure → Nat
  | system _ => 1
  | unreadable .. | missing .. | invalid .. => 2
  | store _ | query _ => 3
  | expression _ => 4

/-- Whether the configuration is to blame. -/
def isConfiguration : Failure → Bool
  | unreadable .. | missing .. | invalid .. => true
  | _ => false

end Failure
end IndicatorStrategy

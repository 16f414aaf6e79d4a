import IndicatorStrategy.CommandLine.Run
import IndicatorStrategy.CommandLine.Usage
import IndicatorStrategy.Store.Host
/-!
# IndicatorStrategy.Main

The **program**. It reads the files that a command may use into a `Disk`, runs the
command on it, and writes back what has changed.
-/

namespace IndicatorStrategy
namespace Host

/-- What the host has under a path, if anything. -/
def probe (path : String) : IO (Option Node) := do
  try
    return some (Node.ofHostText (← IO.FS.readFile path))
  catch
    | .noFileOrDirectory .. | .invalidArgument .. => return none
    | .inappropriateType .. => return some .directory
    | e => throw e

/-- Adds what the host has at a place in a known directory. -/
def visit (d : Disk) (names : List String) : IO Disk := do
  if (d.nodeAt? names).isSome || d.nodeAt? (Disk.parent names) != some .directory then
    return d
  match ← probe (Disk.pathOf names) with
  | some node => return d.put names node
  | none => return d

/-- Adds what the host has on the way along a path. -/
def load (d : Disk) (path : String) : IO Disk := (Disk.places path).foldlM visit d

/-- The files that a command may use: the configuration and the configured store. -/
def files (command : Command) : IO Disk :=
  match command.configPath? with
  | none => return .empty
  | some path => do
    let d ← load .empty path
    match d.readConfiguration path with
    | .error _ => return d
    | .ok c => c.storePaths.foldlM load d

/-- Runs a command on the files of the host. -/
def execute (invocation : Invocation) : IO UInt32 := do
  let disk ← files invocation.command
  let report := invocation.command.report disk
  for (path, text) in disk.changes report.disk do
    IO.FS.writeFile path text
  for path in disk.removals report.disk do
    IO.FS.removeFile path
  IO.print report.printed
  IO.eprint report.explained
  for event in report.shown invocation.level do
    IO.eprintln event.line
  return report.exitCode.toUInt32

end Host
end IndicatorStrategy

open IndicatorStrategy in
/-- Runs the command line. -/
def main (arguments : List String) : IO UInt32 := do
  match Invocation.ofArguments arguments with
  | .ok invocation => Host.execute invocation
  | .error refusal =>
    IO.eprint (refusal.message ++ CommandLine.usage)
    return refusal.exitCode.toUInt32

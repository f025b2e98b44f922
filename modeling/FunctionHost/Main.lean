import FunctionHost.Cli.Program
import FunctionHost.Journal.Line
/-!
# The command line

Reads the files that the program needs, runs it and prints what it prints.  A program that serves is
told to stop by the end of its standard input.
-/
namespace FunctionHost.Cli

/-- The number that the system gives an error. -/
def systemNumber : IO.Error → Nat
  | .alreadyExists _ n _ | .invalidArgument _ n _ | .permissionDenied _ n _
  | .resourceExhausted _ n _ | .inappropriateType _ n _ | .noSuchThing _ n _ => n.toNat
  | .noFileOrDirectory _ n _ | .interrupted _ n _ => n.toNat
  | .otherError n _ | .resourceBusy n _ | .resourceVanished n _ | .unsupportedOperation n _
  | .hardwareFault n _ | .unsatisfiedConstraints n _ | .illegalOperation n _
  | .protocolError n _ | .timeExpired n _ => n.toNat
  | .unexpectedEof | .userError _ => 0

/-- Why the system did not read a file. -/
def readFault (e : IO.Error) : ReadFault :=
  match systemNumber e with
  | 2 => .missing
  | 13 => .denied
  | 20 => .notFolder
  | 21 => .isFolder
  | 36 => .nameTooLong
  | _ => .other (toString e)

/-- What reading a path gives now. -/
def readNow (path : String) : IO (String × Except ReadFault Bytes) := do
  match ← (IO.FS.readBinFile path).toBaseIO with
  | .ok bytes => return (path, .ok bytes)
  | .error e => return (path, .error (readFault e))

/-- Files that were read already. -/
def filesOf (read : List (String × Except ReadFault Bytes)) : Files := fun path =>
  (read.lookup path).getD (.error .missing)

/-- Waits until the standard input ends. -/
partial def waitForEnd (input : IO.FS.Stream) : IO Unit := do
  unless (← input.read 4096).isEmpty do waitForEnd input

/-- Prints something. -/
def print (documents : Bool) : Printed → IO Unit
  | .event e => do IO.println (if documents then e.document.render else e.shown)
  | .bytes content => do (← IO.getStdout).write content
  | .pause => do
    (← IO.getStdout).flush
    waitForEnd (← IO.getStdin)

end FunctionHost.Cli

open FunctionHost FunctionHost.Cli in
/-- **The program.** -/
def main (arguments : List String) : IO UInt32 := do
  let config ← IO.getEnv configVariable
  let surroundings : Surroundings :=
    { arguments := arguments, config := config, filter := ← IO.getEnv filterVariable }
  let request := (Request.ofArguments config arguments).toOption
  let settings ← ((request.bind (·.config)).toList).mapM readNow
  let known := { surroundings with files := filesOf settings }
  let modules ← (Program.modulePaths known).mapM readNow
  let outcome := Program.run { surroundings with files := filesOf (settings ++ modules) }
  outcome.output.forM (print (request.any (·.logJson)))
  (← IO.getStdout).flush
  (← IO.getStderr).write outcome.errors
  return outcome.exitCode.toUInt32

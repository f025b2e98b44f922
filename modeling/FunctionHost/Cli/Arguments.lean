import FunctionHost.Cli.Switch
/-!
# The arguments of the program

Arguments are read from left to right.  An option is written as a word or as a letter; its value is
attached to it or is the next argument.  What an option says is settled when the next one begins, so
of two mistakes the one that shows first is reported.
-/
namespace FunctionHost.Cli

/-- **What the program is asked to do.** -/
structure Request where
  /-- The settings file, if there is one. -/
  config : Option String := none
  /-- Whether the journal is printed as documents. -/
  logJson : Bool := false
  /-- The entrypoint to run; without one the program serves until it is told to stop. -/
  invoke : Option String := none
  /-- What to hand to the entrypoint. -/
  payload : String := ""
  deriving DecidableEq, Repr, Inhabited

/-- Why arguments do not say what to do. -/
inductive Refusal where
  /-- The help text is wanted. -/
  | help
  /-- The version is wanted. -/
  | version
  /-- No option begins so. -/
  | unexpectedArgument (argument : String)
  /-- A value is attached to a flag. -/
  | unexpectedValue (flag : Switch) (value : String)
  /-- An option has no value. -/
  | valueRequired (option : Switch)
  /-- An option is given twice. -/
  | repeated (option : Switch)
  /-- There is a payload, but nothing to hand it to. -/
  | nothingInvoked
  deriving DecidableEq, Repr

namespace Refusal

/-- What is wrong, if it is an error. -/
def reason? : Refusal → Option String
  | .help | .version => none
  | .unexpectedArgument argument => some ("unexpected argument '" ++ argument ++ "' found")
  | .unexpectedValue flag value =>
    some ("unexpected value '" ++ value ++ "' for '" ++ flag.shown
      ++ "' found; no more were expected")
  | .valueRequired option =>
    some ("a value is required for '" ++ option.shown ++ "' but none was supplied")
  | .repeated option =>
    some ("the argument '" ++ option.shown ++ "' cannot be used multiple times")
  | .nothingInvoked =>
    some ("the following required arguments were not provided:\n  " ++ Switch.invoke.shown)

end Refusal

/-- What the options that are settled say. -/
structure Settled where
  /-- The settings file. -/
  config : Option String := none
  /-- Whether the journal is printed as documents. -/
  logJson : Bool := false
  /-- The entrypoint to run. -/
  invoke : Option String := none
  /-- What to hand to the entrypoint. -/
  payload : Option String := none
  deriving Repr, Inhabited

namespace Settled

/-- Settles an option and its value. -/
def settle (g : Settled) (s : Switch) (value : String) : Except Refusal Settled :=
  match s with
  | .config =>
    if g.config.isSome then .error (.repeated s)
    else if value.isEmpty then .error (.valueRequired s)
    else .ok { g with config := some value }
  | .invoke =>
    if g.invoke.isSome then .error (.repeated s) else .ok { g with invoke := some value }
  | .payload =>
    if g.payload.isSome then .error (.repeated s) else .ok { g with payload := some value }
  | .logJson => if g.logJson then .error (.repeated s) else .ok { g with logJson := true }
  | .help => .error .help
  | .version => .error .version

end Settled

/-- How far the arguments have been read. -/
structure Reading where
  /-- What is settled. -/
  settled : Settled := {}
  /-- An option that is not, and its value if that has been read. -/
  pending : Option (Switch × Option String) := none
  /-- Whether no more options follow. -/
  closed : Bool := false
  deriving Repr, Inhabited

namespace Reading

/-- Settles the option that is not settled yet. -/
def settle (r : Reading) : Except Refusal Settled :=
  match r.pending with
  | none => .ok r.settled
  | some (s, none) => .error (.valueRequired s)
  | some (s, some value) => r.settled.settle s value

/-- Reads an option that is complete. -/
def complete (r : Reading) (s : Switch) (value : String) : Except Refusal Reading := do
  let settled ← (← r.settle).settle s value
  return { settled := settled }

/-- Reads an option whose value follows. -/
def await (r : Reading) (s : Switch) : Except Refusal Reading := do
  return { settled := ← r.settle, pending := some (s, none) }

/-- Reads an option that is written as a word. -/
def word (r : Reading) (name : String) (value : Option String) : Except Refusal Reading :=
  match Switch.ofWord? name with
  | none => .error (.unexpectedArgument ("--" ++ name))
  | some s =>
    match s.value?, value with
    | some _, some value => r.complete s value
    | some _, none => r.await s
    | none, some value => .error (.unexpectedValue s value)
    | none, none => r.complete s ""

/-- Reads a row of letters: flags, and at its end an option with its value or without. -/
def letters (r : Reading) : List Char → Except Refusal Reading
  | [] => .ok r
  | letter :: rest =>
    match Switch.ofLetter? letter with
    | none => .error (.unexpectedArgument (String.ofList ['-', letter]))
    | some s =>
      if s.value?.isNone then do (← r.complete s "").letters rest
      else
        match rest with
        | [] => r.await s
        | '=' :: value | value => r.complete s (String.ofList value)

/-- **Reads an argument.** -/
def argument (r : Reading) (text : String) : Except Refusal Reading :=
  if r.closed then .error (.unexpectedArgument text)
  else
    match text.toList with
    | ['-', '-'] => .ok { r with closed := true }
    | '-' :: '-' :: rest =>
      let (name, value) := rest.span (· ≠ '=')
      r.word (String.ofList name) (value.tail?.map String.ofList)
    | '-' :: letter :: rest => r.letters (letter :: rest)
    | _ =>
      match r.pending with
      | some (s, none) => .ok { r with pending := some (s, some text) }
      | _ => .error (.unexpectedArgument text)

end Reading

namespace Request

/-- **The request that arguments make**, given what the environment says about the settings file. -/
def ofArguments (fallback : Option String) (arguments : List String) :
    Except Refusal Request := do
  let reading ← arguments.foldlM Reading.argument {}
  let settled ← reading.settle
  let settled ←
    match fallback, settled.config with
    | some path, none => settled.settle .config path
    | _, _ => .ok settled
  if settled.payload.isSome && settled.invoke.isNone then throw .nothingInvoked
  return {
    config := settled.config
    logJson := settled.logJson
    invoke := settled.invoke
    payload := settled.payload.getD "" }

end Request
end FunctionHost.Cli

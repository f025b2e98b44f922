import FunctionHost.Error
import FunctionHost.Settings.File
/-!
# Why the program fails

A failure is reported with everything that led to it: what the program could not do first, then the
causes, each on a line of its own.
-/
namespace FunctionHost

/-- The error and what caused it, from the outside to the inside. -/
def SettingsError.chain (e : SettingsError) : List String :=
  match e with
  | .unreadable _ cause => [e.message, cause]
  | .malformed _ | .invalidModule _ _ => [e.message]

/-- The error and what caused it, from the outside to the inside. -/
def HostError.chain (e : HostError) : List String :=
  match e with
  | .callback cause => [e.message, cause.message]
  | .io text => [e.message, text]
  | _ => [e.message]

namespace Cli

/-- **Why the program fails.** -/
inductive Failure where
  /-- The settings file is not usable. -/
  | settings (path : String) (cause : SettingsError)
  /-- A module cannot be loaded. -/
  | loading (name : String) (cause : HostError)
  /-- The host refuses what the program is asked to do. -/
  | host (cause : HostError)
  /-- What is to be run does not name an entrypoint of a module. -/
  | noEntrypoint (target : String)

namespace Failure

/-- What the program could not do and what caused that. -/
def chain : Failure → List String
  | .settings path cause => ("Failed to load " ++ path) :: cause.chain
  | .loading name cause => ("Failed to load module '" ++ name ++ "'") :: cause.chain
  | .host cause => cause.chain
  | .noEntrypoint target => ["--invoke expects MODULE.ENTRYPOINT, got '" ++ target ++ "'"]

/-- A text with all its lines but the first one indented. -/
def indented (indent text : String) : String := ("\n" ++ indent).intercalate (text.splitOn "\n")

/-- The causes, one on a line; more than one are numbered. -/
def causes : List String → String
  | [] => ""
  | [cause] => "\n\nCaused by:\n    " ++ indented "    " cause
  | causes =>
    "\n\nCaused by:" ++ String.join (causes.zipIdx.map fun (cause, number) =>
      "\n    " ++ toString number ++ ": " ++ indented "       " cause)

/-- **The report of a failure.** -/
def report (f : Failure) : String :=
  match f.chain with
  | [] => ""
  | first :: rest => "Error: " ++ first ++ causes rest ++ "\n"

end Failure
end Cli
end FunctionHost

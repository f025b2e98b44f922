import FunctionHost.Bytes
/-!
# What can go wrong

Two kinds of error: a `CallbackError` is what a capability answers to a guest's host call, a
`HostError` is what the host answers to its caller.  Constructors are causes; the wording is in
one `message` function each, and the predicates that callers act on are defined on the causes.
-/
namespace FunctionHost

/-- **A capability's refusal** of a host call. -/
inductive CallbackError where
  /-- No capability answers for the namespace. -/
  | unknownNamespace (name : String)
  /-- The capability does not know the operation. -/
  | unknownOperation (name operation : String)
  /-- An argument is not usable. -/
  | invalidArgument (reason : String)
  /-- Nothing is stored under the key. -/
  | notFound (key : String)
  /-- The operation was tried and failed; the handler may supply the document to deliver. -/
  | failed (text : String) (payload : Option Bytes)

namespace CallbackError

/-- A failure without a document of its own. -/
def failure (text : String) : CallbackError := .failed text none

/-- The short word for the cause, as error documents carry it. -/
def kind : CallbackError → String
  | .unknownNamespace _ => "unknown_namespace"
  | .unknownOperation _ _ => "unknown_operation"
  | .invalidArgument _ => "invalid_argument"
  | .notFound _ => "not_found"
  | .failed _ _ => "failed"

/-- The wording of the error. -/
def message : CallbackError → String
  | .unknownNamespace name => "Unknown namespace: " ++ name
  | .unknownOperation name operation => "Unknown operation: " ++ name ++ "/" ++ operation
  | .invalidArgument reason => "Invalid argument: " ++ reason
  | .notFound key => "Key not found: " ++ key
  | .failed text _ => "Capability failed: " ++ text

/-- The document that the handler wants delivered, if it supplied one. -/
def payload : CallbackError → Option Bytes
  | .failed _ payload => payload
  | _ => none

end CallbackError

/-- **The host's refusal** of a request, or the way a request ended. -/
inductive HostError where
  /-- No module of that name is loaded. -/
  | moduleNotFound (name : String)
  /-- A module of that name is loaded already. -/
  | duplicateModule (name : String)
  /-- The module has no entrypoint of that name and type. -/
  | entrypointNotFound (entrypoint : String)
  /-- The module's code is not acceptable. -/
  | compilationFailed (reason : String)
  /-- The module's code is acceptable but no instance could be made. -/
  | instantiationFailed (reason : String)
  /-- A setting is not usable. -/
  | invalidConfig (reason : String)
  /-- The call was stopped by its time limit. -/
  | executionTimeout (durationMs : Nat)
  /-- The call was stopped by its fuel limit. -/
  | fuelExhausted
  /-- The guest failed; a trap has a code. -/
  | executionFailed (text : String) (trapCode : Option String)
  /-- A region lies outside the guest's memory, or no region could be had. -/
  | memoryFault (reason : String)
  /-- No instance is idle and the caller does not wait. -/
  | poolExhausted (name : String)
  /-- No instance became idle in time. -/
  | timeout (waitedMs : Nat)
  /-- The request was cancelled. -/
  | canceled
  /-- The pool is drained. -/
  | poolClosed (name : String)
  /-- The server is shut down. -/
  | serverClosed
  /-- A capability refused. -/
  | callback (cause : CallbackError)
  /-- The system refused to read or write. -/
  | io (text : String)

namespace HostError

/-- A failed execution that is no trap. -/
def execution (text : String) : HostError := .executionFailed text none

/-- The wording of the error. -/
def message : HostError → String
  | .moduleNotFound name => "Module not found: " ++ name
  | .duplicateModule name => "Module already loaded: " ++ name
  | .entrypointNotFound entrypoint => "Entrypoint not found: " ++ entrypoint
  | .compilationFailed reason => "Compilation failed: " ++ reason
  | .instantiationFailed reason => "Instantiation failed: " ++ reason
  | .invalidConfig reason => "Invalid configuration: " ++ reason
  | .executionTimeout durationMs => "Execution timeout after " ++ toString durationMs ++ "ms"
  | .fuelExhausted => "Fuel exhausted: CPU limit exceeded"
  | .executionFailed text _ => "Execution failed: " ++ text
  | .memoryFault reason => "Memory fault: " ++ reason
  | .poolExhausted name => "Pool exhausted for module " ++ name
  | .timeout waitedMs => "Timed out after " ++ toString waitedMs ++ "ms waiting for an instance"
  | .canceled => "Request canceled"
  | .poolClosed name => "Pool closed for module " ++ name
  | .serverClosed => "Server closed"
  | .callback cause => "Callback error: " ++ cause.message
  | .io text => "IO error: " ++ text

/-- Something that was asked for by name does not exist. -/
def isNotFound : HostError → Bool
  | .moduleNotFound _ | .entrypointNotFound _ => true
  | _ => false

/-- The call ended because a limit on its resources was reached. -/
def isResourceLimit : HostError → Bool
  | .fuelExhausted | .executionTimeout _ => true
  | _ => false

/-- The same request may succeed later. -/
def isRetryable : HostError → Bool
  | .poolExhausted _ | .timeout _ => true
  | _ => false

/-- The request came after the end. -/
def isClosed : HostError → Bool
  | .serverClosed | .poolClosed _ => true
  | _ => false

end HostError
end FunctionHost

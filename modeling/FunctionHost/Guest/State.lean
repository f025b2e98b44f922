import FunctionHost.Guest.Linker
import FunctionHost.Wasm.Instantiation
import FunctionHost.World
/-!
# The state of a guest

A guest is a running module: a `Body`, which never changes, and a `Guest`, which its own code and
the host change.  `Stop` is why guest code ended without a result.
-/
namespace FunctionHost

open Wasm (Program Trap)

/-- **What never changes about a guest.** -/
structure Body where
  /-- The name of its module. -/
  name : String
  /-- The code. -/
  program : Program
  /-- What the imported functions are. -/
  imports : Array HostFunction
  /-- What a call may use. -/
  execution : ExecutionSettings
  deriving Inhabited

namespace Body

/-- The index of the memory that host and guest share, if the guest exports it. -/
def memory? (b : Body) : Option Nat := b.program.memory? "memory"

/-- The function exported under a name, if it is of a type. -/
def function? (b : Body) (name : String) (type : Wasm.FuncType) : Option Nat :=
  match b.program.function? name with
  | some (index, found) => if found = type then some index else none
  | none => none

/-- The type of allocators: a length, and where that many bytes are. -/
def allocatorType : Wasm.FuncType := ⟨[.i32], [.i32]⟩

/-- The type of entrypoints: where the payload is and its length, and a packed result. -/
def entrypointType : Wasm.FuncType := ⟨[.i32, .i32], [.i64]⟩

/-- The type of functions that only act. -/
def actionType : Wasm.FuncType := ⟨[], []⟩

end Body

/-- What was counted. -/
structure Metrics where
  /-- Calls of entrypoints. -/
  calls : Nat := 0
  /-- Host calls. -/
  hostCalls : Nat := 0
  /-- Fuel that the last call used. -/
  lastFuel : Nat := 0
  deriving DecidableEq, Repr, Inhabited

/-- **What changes about a guest.** -/
structure Guest where
  /-- Memories, tables, globals and fuel. -/
  store : Wasm.Store
  /-- The request that is being served. -/
  context : Option Context := none
  /-- Why the guest's memory cannot be trusted any more, if it cannot. -/
  poisoned : Option String := none
  /-- What was counted. -/
  metrics : Metrics := {}
  deriving Inhabited

namespace Guest

/-- The guest after a host call was counted. -/
def recordHostCall (g : Guest) : Guest :=
  { g with metrics := { g.metrics with hostCalls := g.metrics.hostCalls + 1 } }

/-- The guest whose memory cannot be trusted; the first reason counts. -/
def poison (g : Guest) (reason : String) : Guest :=
  { g with poisoned := g.poisoned <|> some reason }

/-- The guest while it serves a request. -/
def beginCall (g : Guest) (c : Context) : Guest := { g with context := some c }

/-- The guest after a request that used some fuel. -/
def endCall (g : Guest) (fuel : Nat) : Guest :=
  { g with
    context := none
    metrics := { g.metrics with calls := g.metrics.calls + 1, lastFuel := fuel } }

/-- The memory with an index. -/
def memory (g : Guest) (index : Nat) : Wasm.Memory := g.store.memory index

/-- The guest with another memory in place. -/
def withMemory (g : Guest) (index : Nat) (m : Wasm.Memory) : Guest :=
  { g with store := g.store.withMemory index fun _ => m }

/-- The guest with a full account of fuel. -/
def refuel (g : Guest) (budget : Nat) : Guest := { g with store := g.store.refuel budget }

/-- The guest that is stopped when the epoch comes to a deadline. -/
def arm (g : Guest) (deadline : Option Nat) : Guest :=
  { g with store := { g.store with deadline := deadline } }

/-- The guest, as diagnostics show it; the time that a call took is not shown. -/
def shown (g : Guest) (module : String) : String := Text.openRecord "GuestState" [
  ("module", Text.quoted module),
  ("poisoned", Text.optional (g.poisoned.map Text.quoted)),
  ("metrics", Text.record "InstanceMetrics" [
    ("calls", toString g.metrics.calls),
    ("host_calls", toString g.metrics.hostCalls),
    ("last_fuel_consumed", toString g.metrics.lastFuel),
    ("last_duration", Text.optional (if g.metrics.calls = 0 then none else some "_"))])]

end Guest

/-- **Why guest code ended** without a result. -/
inductive Stop where
  /-- It trapped. -/
  | trap (trap : Trap)
  /-- It exited. -/
  | exited (status : Nat)
  /-- The system interface refused what it did. -/
  | refused (reason : String)
  deriving DecidableEq, Repr, Inhabited

namespace Stop

/-- The cause in words. -/
def cause : Stop → String
  | .trap t => t.message
  | .exited status => "Exited with i32 exit status " ++ toString status
  | .refused reason => reason

/-- Where the code was, which is not told in detail. -/
def place : String := "<trap>"

/-- Place and cause. -/
def full (s : Stop) : String := place ++ ": " ++ s.cause

/-- The code of the trap, if it was one. -/
def code : Stop → Option String
  | .trap t => some t.code
  | _ => none

/-- **The error of a call** whose guest code was stopped: the limits have errors of their own. -/
def error (timeoutMs : Nat) : Stop → HostError
  | .trap .outOfFuel => .fuelExhausted
  | .trap .interrupt => .executionTimeout timeoutMs
  | .trap t => .executionFailed place (some t.code)
  | s => .executionFailed s.full none

end Stop
end FunctionHost

import FunctionHost.Guest.Alone
/-!
# A guest without its host

A guest to which nothing is offered for import and nothing is asked of, except that its memory can
be read and written and its allocator be run from outside.
-/
namespace FunctionHost

/-- **A bare guest.** -/
structure Bare (σ : Type) where
  /-- What all guests share. -/
  world : World σ
  /-- What never changes about the guest. -/
  body : Body
  /-- What changes about it. -/
  guest : Guest

namespace Bare

variable {σ : Type}

/-- The name of the allocator. -/
def allocator : String := "allocate"

/-- The guest's memory. -/
def memory (b : Bare σ) : Wasm.Memory := b.guest.memory (b.body.memory?.getD 0)

/-- The guest with another memory. -/
def setMemory (b : Bare σ) (m : Wasm.Memory) : Bare σ :=
  { b with guest := b.guest.withMemory (b.body.memory?.getD 0) m }

/-- Runs a function of the guest. -/
def run (b : Bare σ) (func : Nat) (args : List Wasm.Word) : Bare σ × Activity.Result :=
  let (g, a) := Activity.start b.body b.world b.guest func args
  match Activity.finish b.body Alone.patience b.world g a with
  | (w, some (g, result)) => ({ b with world := w, guest := g }, result)
  | (w, none) => ({ b with world := w }, .error (.refused "no end"))

/-- **A guest from a blueprint**, whose linker should be empty: its start function is run. -/
def begin (w : World σ) (blueprint : Blueprint) : Except HostError (Bare σ) :=
  match Birth.furnish w { blueprint with linker := {} } with
  | (_, .error reason) => .error (.instantiationFailed reason)
  | (w, .ok (body, guest)) =>
    let b : Bare σ := { world := w, body := body, guest := guest }
    match blueprint.program.module.start with
    | none => .ok b
    | some func =>
      match b.run func [] with
      | (b, .ok _) => .ok b
      | (_, .error stop) => .error (.instantiationFailed stop.full)

/-- Writes bytes where a pointer says. -/
def write (b : Bare σ) (ptr : UInt32) (bytes : Bytes) : Bare σ × Except HostError Unit :=
  match Region.write b.memory ptr bytes with
  | .ok m => (b.setMemory m, .ok ())
  | .error e => (b, .error e)

/-- Asks the allocator for room. -/
def allocate (b : Bare σ) (len : Nat) : Bare σ × Except HostError UInt32 :=
  if Allocation.maxLength < len then (b, .error (Allocation.tooLong len))
  else
    match b.body.function? allocator Body.allocatorType with
    | none => (b, .error Allocation.null)
    | some func =>
      let (b, result) := b.run func [UInt64.ofNat len]
      (b, Allocation.pointer result)

/-- Places bytes where the allocator says; no bytes need no room. -/
def place (b : Bare σ) (bytes : Bytes) : Bare σ × Except HostError UInt32 :=
  if bytes.size = 0 then (b, .ok 0)
  else
    match b.allocate bytes.size with
    | (b, .error e) => (b, .error e)
    | (b, .ok ptr) =>
      let (b, outcome) := b.write ptr bytes
      (b, outcome.map fun _ => ptr)

/-- Grows the memory by some pages: how many it had, unless it cannot grow so far. -/
def grow (b : Bare σ) (pages : Nat) : Bare σ × Option Nat :=
  match b.memory.grow pages b.guest.store.memoryLimit with
  | some grown => (b.setMemory grown, some b.memory.pages)
  | none => (b, none)

end Bare
end FunctionHost

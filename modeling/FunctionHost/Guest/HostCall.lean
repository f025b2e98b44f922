import FunctionHost.Guest.State
import FunctionHost.Json.Value
import FunctionHost.Packed
/-!
# Host calls

What passes between guest and callback: the request that eight numbers name, and the document that
tells the guest of an error.  All regions of a request are checked before any byte is read.
-/
namespace FunctionHost

open Wasm (Word)

namespace HostCall

/-- A pointer and a length, as the guest passes them. -/
abbrev Pair := UInt32 × UInt32

/-- The four pairs of a host call: namespace, operation, key and payload. -/
def pairs? : List Word → Option (Pair × Pair × Pair × Pair)
  | [a, b, c, d, e, f, g, h] =>
    some ((a.toUInt32, b.toUInt32), (c.toUInt32, d.toUInt32), (e.toUInt32, f.toUInt32),
      (g.toUInt32, h.toUInt32))
  | _ => none

/-- **The request that four pairs name** in a memory. -/
def read (m : Wasm.Memory) (space operation key payload : Pair) : Except HostError HostRequest := do
  discard <| Region.checked space.1 space.2 m.size
  discard <| Region.checked operation.1 operation.2 m.size
  discard <| Region.checked key.1 key.2 m.size
  discard <| Region.checked payload.1 payload.2 m.size
  return {
    space := ← Region.readText m space.1 space.2
    operation := ← Region.readText m operation.1 operation.2
    key := ← Region.readText m key.1 key.2
    payload := ← Region.read m payload.1 payload.2 }

/-- The document for an error that brings none of its own. -/
def generic (space operation : String) (e : CallbackError) : Json := .record [
  ("error", .record [("kind", .text e.kind), ("message", .text e.message)]),
  ("namespace", .text space),
  ("operation", .text operation)]

/-- **The document that tells a guest of an error.** -/
def document (space operation : String) (e : CallbackError) : Bytes :=
  match e.payload with
  | some payload => payload
  | none => (generic space operation e).toBytes

/-- What a guest is told when its host call was interrupted. -/
def interrupted : Interruption → CallbackError
  | .canceled => .failure "request canceled"
  | .deadlineExceeded => .failure "deadline exceeded"

/-- An event of the bridge between guests and callback. -/
def event (level : Level) (message : String) (fields : List (String × FieldValue)) : Event :=
  { target := "capsule_host::bridge", level := level, message := message, fields := fields }

/-- A guest has no memory that the host could read. -/
def noMemory : Event := event .warn "Host call from a guest without an exported memory" []

/-- The regions of a host call are not usable. -/
def rejected (e : HostError) : Event :=
  event .warn "Rejected host call arguments" [("error", .text e.message)]

/-- The guest has no allocator. -/
def noAllocator (name : String) : Event :=
  event .warn "Guest allocator missing" [("export", .text name)]

/-- The answer could not be placed in the guest's memory. -/
def notPlaced (e : HostError) : Event :=
  event .warn "Copying host call result into guest failed" [("error", .text e.message)]

/-- A host call is over. -/
def completed (c : Context) (r : HostRequest) (reply : Reply) : Event :=
  event .debug "Host call completed" [
    ("request_id", .text c.request.shown),
    ("namespace", .text r.space),
    ("operation", .text r.operation),
    ("duration_ms", .duration),
    ("ok", .flag reply.isOk)]

end HostCall

namespace Allocation

/-- The largest length that can be asked for. -/
def maxLength : Nat := UInt32.size / 2 - 1

/-- The refusal of a length that cannot be asked for. -/
def tooLong (len : Nat) : HostError :=
  .memoryFault ("allocation of " ++ toString len ++ " bytes exceeds the guest address space")

/-- The allocator found no room. -/
def null : HostError := .memoryFault "guest allocator returned null"

/-- The allocator was stopped. -/
def stopped (s : Stop) : HostError :=
  .executionFailed ("guest allocator failed: " ++ Stop.place) s.code

/-- **What the end of an allocator's run means**: a pointer, unless it is null. -/
def pointer : Except Stop (List Word) → Except HostError UInt32
  | .error s => .error (stopped s)
  | .ok results =>
    let ptr := (results.head?.getD 0).toUInt32
    if ptr = 0 then .error null else .ok ptr

/-- The guest's memory with bytes placed where its allocator says, and the place. -/
def place (m : Wasm.Memory) (result : Except Stop (List Word)) (bytes : Bytes) :
    Except HostError (UInt32 × Wasm.Memory) := do
  let ptr ← pointer result
  return (ptr, ← Region.write m ptr bytes)

end Allocation
end FunctionHost

import FunctionHost.Digest
import FunctionHost.Guest.Instance
import FunctionHost.Wasm.Text.Module
import FunctionHost.Wasm.Validation
/-!
# Compiling

From what a module file holds, bytes or text, to validated code.  An engine that sets room aside
for instances refuses modules that would not fit into it.
-/
namespace FunctionHost

/-- **Validated code** and the hash of what it was read from. -/
structure Compiled where
  /-- The code. -/
  program : Wasm.Program
  /-- The hash. -/
  contentHash : String
  deriving Inhabited

namespace Compiled

/-- The code, as diagnostics show it. -/
def shown (c : Compiled) : String :=
  Text.openRecord "CompiledModule" [("content_hash", Text.quoted c.contentHash)]

/-- Elements that a table may begin with if room is set aside. -/
def reservedElements : Nat := 20000

/-- Whether a module fits into the room that is set aside for each instance. -/
def fitsReservation (engine : EngineSettings) (m : Wasm.Module) : Bool :=
  let room := engine.instanceMemoryMb.toNat * 1024 * 1024
  m.memories.size ≤ 1 && m.tables.size ≤ 1
    && m.memories.all (fun l => l.min * Wasm.pageSize ≤ room)
    && m.tables.all (fun t => t.limits.min ≤ reservedElements)

/-- The code of a module that has been read. -/
def ofModule (engine : EngineSettings) (hash : String) (m : Wasm.Module) :
    Except String Compiled := do
  let program ← Wasm.Validation.validate m
  if engine.poolingAllocator && !fitsReservation engine m then
    throw "module does not fit the reserved room"
  return ⟨program, hash⟩

/-- An event about compiling. -/
def event (what hash : String) : Event :=
  { target := "capsule_core::module"
    level := .info
    message := what
    fields := [("content_hash", .text hash), ("duration_ms", .duration)] }

/-- The hash of what code is read from. -/
def hashOf (bytes : Bytes) : String := Digest.shown (Digest.sip bytes)

/-- **Compiles the bytes of a module.** -/
def ofBytes {σ : Type} (w : World σ) (bytes : Bytes) : World σ × Except HostError Compiled :=
  if bytes.size < 8 then (w, .error (.compilationFailed "Invalid Wasm: file too small"))
  else if !Bytes.same (bytes.slice 0 4) Wasm.Binary.magic then
    (w, .error (.compilationFailed "Invalid Wasm: bad magic number"))
  else
    match Wasm.Binary.decode bytes >>= ofModule w.engine (hashOf bytes) with
    | .error _ => (w, .error (.compilationFailed "Core module compilation failed"))
    | .ok c => (w.report (event "Core module compiled" c.contentHash), .ok c)

/-- The module that a text holds; the bytes of a module count as text, too. -/
def readText (text : String) : Except String Wasm.Module :=
  if Bytes.same ((Bytes.ofText text).slice 0 4) Wasm.Binary.magic then
    Wasm.Binary.decode (Bytes.ofText text)
  else Wasm.Text.parse text

/-- **Compiles the text of a module.** -/
def ofText {σ : Type} (w : World σ) (text : String) : World σ × Except HostError Compiled :=
  match readText text >>= ofModule w.engine (hashOf (Bytes.ofText text)) with
  | .error _ => (w, .error (.compilationFailed "WAT compilation failed"))
  | .ok c => (w.report (event "WAT module compiled" c.contentHash), .ok c)

end Compiled
end FunctionHost

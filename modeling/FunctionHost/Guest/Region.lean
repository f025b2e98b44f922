import FunctionHost.Error
import FunctionHost.Text.Utf8
import FunctionHost.Wasm.Memory
/-!
# Regions of guest memory

Host and guest exchange byte strings by pointer and length, both unsigned 32-bit numbers.  A region
is checked as a whole, in exact numbers, before any of its bytes is touched.
-/
namespace FunctionHost

/-- **A region**: where it starts and where it stops. -/
structure Region where
  /-- The first address. -/
  start : Nat
  /-- The address behind the last one. -/
  stop : Nat
  deriving DecidableEq, Repr, Inhabited

namespace Region

/-- The region of `len` bytes at `start`, if it lies inside a memory of `size` bytes. -/
def span (start len size : Nat) : Except HostError Region :=
  let stop := start + len
  if size < stop then
    .error (.memoryFault ("range " ++ hexAddress start ++ ".." ++ hexAddress stop
      ++ " exceeds memory size " ++ hexAddress size))
  else .ok ⟨start, stop⟩

/-- **The region that a pointer and a length name.** -/
def checked (ptr len : UInt32) (size : Nat) : Except HostError Region :=
  span ptr.toNat len.toNat size

/-- The bytes that a pointer and a length name. -/
def read (m : Wasm.Memory) (ptr len : UInt32) : Except HostError Bytes :=
  (checked ptr len m.size).map fun r => m.region r.start (r.stop - r.start)

/-- The text that a pointer and a length name. -/
def readText (m : Wasm.Memory) (ptr len : UInt32) : Except HostError String := do
  match Utf8.decode? (← read m ptr len) with
  | some text => return text
  | none =>
    throw (.callback (.invalidArgument
      ("string at " ++ hexAddress ptr.toNat ++ " is not valid UTF-8")))

/-- The memory after a byte string was written to a pointer. -/
def write (m : Wasm.Memory) (ptr : UInt32) (bytes : Bytes) : Except HostError Wasm.Memory :=
  (span ptr.toNat bytes.size m.size).map fun r => m.blit r.start bytes

end Region
end FunctionHost

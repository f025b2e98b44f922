import FunctionHost.Error
/-!
# Packed results

A guest answers a call, and the host answers a guest, with one 64-bit word: a region of guest
memory and a bit that says whether the region holds a result or an error document.  The sign bit
is the error bit, the next 31 bits are the pointer, the low 32 bits the length.  The word with
all bits set is the bare failure, which names no region.

`encode` and `encodeError` write words, `decode` reads them.
-/
namespace FunctionHost

/-- **What a packed word says**: a result region, an error document, or failure without one. -/
inductive Packed where
  /-- A result of `len` bytes at `ptr`; a length of zero is an empty result. -/
  | ok (ptr len : UInt32)
  /-- An error document of `len` bytes at `ptr`. -/
  | err (ptr len : UInt32)
  /-- Failure without a document. -/
  | failed
  deriving DecidableEq, Repr

namespace Packed

/-- The error bit. -/
def errorBit : UInt64 := 0x8000000000000000

/-- The largest pointer that leaves the error bit free. -/
def maxPointer : UInt32 := 0x7FFFFFFF

/-- The word for failure without a document: all bits set, minus one as a signed number. -/
def failure : UInt64 := 0xFFFFFFFFFFFFFFFF

/-- Pointer and length side by side. -/
def region (ptr len : UInt32) : UInt64 := (ptr.toUInt64 <<< 32) ||| len.toUInt64

/-- The word for a result, if the pointer leaves the error bit free. -/
def encode (ptr len : UInt32) : Option UInt64 :=
  if ptr ≤ maxPointer then some (region ptr len) else none

/-- The word for an error document; a pointer that reaches the error bit gives bare failure. -/
def encodeError (ptr len : UInt32) : UInt64 :=
  match encode ptr len with
  | some word => word ||| errorBit
  | none => failure

/-- The refusal of a pointer that reaches the error bit. -/
def refusal (ptr : UInt32) : HostError :=
  .memoryFault ("pointer " ++ hexAddress ptr.toNat ++ " cannot be encoded in a result")

/-- What a word says. -/
def decode (word : UInt64) : Packed :=
  if word = failure then .failed
  else
    let ptr := ((word &&& ~~~errorBit) >>> 32).toUInt32
    let len := word.toUInt32
    if word &&& errorBit = 0 then .ok ptr len else .err ptr len

end Packed
end FunctionHost

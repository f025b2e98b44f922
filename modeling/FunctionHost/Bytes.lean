/-!
# Byte strings

Payloads, guest memory and documents are byte strings.  This module fixes the representation
and the few operations that every other module shares: cutting a region out, filling, and the
lowercase hexadecimal texts in which addresses and digests are shown.
-/
namespace FunctionHost

/-- **A byte string**: a payload, a document, a piece of guest memory. -/
abbrev Bytes := ByteArray

namespace Bytes

/-- The byte string with the bytes of a list. -/
def ofList (bytes : List UInt8) : Bytes := ⟨bytes.toArray⟩

/-- The UTF-8 bytes of a text. -/
def ofText (text : String) : Bytes := text.toUTF8

/-- The bytes from `start` up to, but not including, `stop`, as far as they exist. -/
def slice (bytes : Bytes) (start stop : Nat) : Bytes := bytes.extract start stop

/-- The same byte, `count` times. -/
def replicate (count : Nat) (byte : UInt8) : Bytes :=
  count.fold (fun _ _ acc => acc.push byte) (ByteArray.emptyWithCapacity count)

/-- A byte string, `count` times over. -/
def repeated (bytes : Bytes) (count : Nat) : Bytes :=
  count.fold (fun _ _ acc => acc ++ bytes) ByteArray.empty

/-- Two byte strings are equal when they hold the same bytes. -/
def same (a b : Bytes) : Bool := a.data == b.data

end Bytes

/-- The digits of a number in base sixteen, lowercase, without leading zeros. -/
def hexDigits (value : Nat) : String := String.ofList (Nat.toDigits 16 value)

/-- **An address**, as messages show it: `0x` and the lowercase hexadecimal digits. -/
def hexAddress (value : Nat) : String := "0x" ++ hexDigits value

/-- A number in base sixteen, filled with zeros on the left up to `width` digits. -/
def hexPadded (width value : Nat) : String :=
  let digits := hexDigits value
  String.ofList (List.replicate (width - digits.length) '0') ++ digits

/-- The two lowercase hexadecimal digits of a byte. -/
def hexByte (byte : UInt8) : String := hexPadded 2 byte.toNat

end FunctionHost

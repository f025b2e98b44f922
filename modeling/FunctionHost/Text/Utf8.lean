import FunctionHost.Bytes
/-!
# Text out of bytes

A guest hands over bytes and the host wants text.  `decode?` is strict: it answers only for
well-formed UTF-8.  `decodeLossy` always answers: each longest piece of an ill-formed sequence
becomes one replacement character, and everything well formed is kept as it is.
-/
namespace FunctionHost
namespace Utf8

/-- The text a byte string encodes, if it is well-formed UTF-8. -/
def decode? (bytes : Bytes) : Option String := String.fromUTF8? bytes

/-- A byte `10xxxxxx`, which only continues a character. -/
def isTail (byte : UInt8) : Bool := 0x80 ≤ byte && byte ≤ 0xBF

/-- **The shape of a lead byte**: how many tails follow it, and the range of the first of them.
Bytes that lead nothing have none. -/
def leadShape (byte : UInt8) : Option (Nat × UInt8 × UInt8) :=
  if 0xC2 ≤ byte && byte ≤ 0xDF then some (1, 0x80, 0xBF)
  else if byte == 0xE0 then some (2, 0xA0, 0xBF)
  else if byte == 0xED then some (2, 0x80, 0x9F)
  else if 0xE1 ≤ byte && byte ≤ 0xEF then some (2, 0x80, 0xBF)
  else if byte == 0xF0 then some (3, 0x90, 0xBF)
  else if 0xF1 ≤ byte && byte ≤ 0xF3 then some (3, 0x80, 0xBF)
  else if byte == 0xF4 then some (3, 0x80, 0x8F)
  else none

/-- The number that a lead byte contributes to its character. -/
def leadBits (byte : UInt8) : Nat :=
  if byte < 0xE0 then byte.toNat % 32 else if byte < 0xF0 then byte.toNat % 16 else byte.toNat % 8

/-- Reads up to `count` tails, the first of them between `low` and `high`: the number collected,
the bytes consumed, and whether all tails were there. -/
def takeTails : Nat → UInt8 → UInt8 → Nat → List UInt8 → Nat × Nat × Bool
  | 0, _, _, value, _ => (value, 0, true)
  | _ + 1, _, _, value, [] => (value, 0, false)
  | count + 1, low, high, value, byte :: rest =>
    if low ≤ byte && byte ≤ high then
      let (value, used, complete) := takeTails count 0x80 0xBF (value * 64 + byte.toNat % 64) rest
      (value, used + 1, complete)
    else (value, 0, false)

/-- The first character of a byte list and the number of bytes after the lead that belong to it;
an ill-formed piece counts as one replacement character. -/
def firstChar (byte : UInt8) (rest : List UInt8) : Char × Nat :=
  if byte < 0x80 then (Char.ofNat byte.toNat, 0)
  else
    match leadShape byte with
    | none => ('\uFFFD', 0)
    | some (count, low, high) =>
      let (value, used, complete) := takeTails count low high (leadBits byte) rest
      (if complete then Char.ofNat value else '\uFFFD', used)

/-- The characters of a byte list, ill-formed pieces replaced. -/
def charsLossy : List UInt8 → List Char
  | [] => []
  | byte :: rest =>
    let (c, used) := firstChar byte rest
    c :: charsLossy (rest.drop used)
termination_by bytes => bytes.length

/-- The text of a byte string, each longest ill-formed piece shown as one `U+FFFD`. -/
def decodeLossy (bytes : Bytes) : String :=
  match decode? bytes with
  | some text => text
  | none => String.ofList (charsLossy bytes.toList)

end Utf8
end FunctionHost

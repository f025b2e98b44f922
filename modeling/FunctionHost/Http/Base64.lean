import FunctionHost.Bytes
/-!
# Base64

Byte strings as texts in the standard alphabet with padding.  Reading is strict: three bytes have
one spelling, the padding must be there and unused bits must be zero.  The last group of four is
looked at on its own, because only it may be padded.
-/
namespace FunctionHost
namespace Base64

/-- Why a text is not base64. -/
inductive Problem where
  /-- A byte that does not belong where it stands. -/
  | symbol (byte : UInt8) (offset : Nat)
  /-- A last symbol with bits that nothing is made of. -/
  | lastSymbol (byte : UInt8) (offset : Nat)
  /-- A single symbol at the end. -/
  | length (count : Nat)
  /-- Padding that is not as it should be. -/
  | padding
  deriving DecidableEq, Repr

/-- The wording of the problem. -/
def Problem.message : Problem → String
  | .symbol byte offset =>
    "Invalid symbol " ++ toString byte.toNat ++ ", offset " ++ toString offset ++ "."
  | .lastSymbol byte offset =>
    "Invalid last symbol " ++ toString byte.toNat ++ ", offset " ++ toString offset ++ "."
  | .length count => "Invalid input length: " ++ toString count
  | .padding => "Invalid padding"

/-- The byte that pads. -/
def pad : UInt8 := 61

/-- The symbol for six bits. -/
def symbol (bits : UInt8) : UInt8 :=
  if bits < 26 then 65 + bits
  else if bits < 52 then 71 + bits
  else if bits < 62 then bits - 4
  else if bits = 62 then 43
  else 47

/-- The six bits that a symbol stands for. -/
def bits? (byte : UInt8) : Option UInt8 :=
  if 65 ≤ byte && byte ≤ 90 then some (byte - 65)
  else if 97 ≤ byte && byte ≤ 122 then some (byte - 71)
  else if 48 ≤ byte && byte ≤ 57 then some (byte + 4)
  else if byte = 43 then some 62
  else if byte = 47 then some 63
  else none

/-- **Writing**: three bytes at a time, padded at the end. -/
def encodeBytes : List UInt8 → List UInt8
  | a :: b :: c :: rest =>
    symbol (a >>> 2) :: symbol (((a &&& 3) <<< 4) ||| (b >>> 4))
      :: symbol (((b &&& 15) <<< 2) ||| (c >>> 6)) :: symbol (c &&& 63) :: encodeBytes rest
  | [a, b] =>
    [symbol (a >>> 2), symbol (((a &&& 3) <<< 4) ||| (b >>> 4)), symbol ((b &&& 15) <<< 2), pad]
  | [a] => [symbol (a >>> 2), symbol ((a &&& 3) <<< 4), pad, pad]
  | [] => []

/-- The text of a byte string. -/
def encode (bytes : Bytes) : String :=
  String.ofList ((encodeBytes bytes.toList).map fun b => Char.ofNat b.toNat)

/-- The symbols of a group that may be padded, up to its padding: their bits in order. -/
def lastGroup (start : Nat) : Nat → List UInt8 → Except Problem (List UInt8 × Nat)
  | _, [] => .ok ([], 0)
  | index, b :: rest =>
    if b = pad then
      if index < 2 then .error (.symbol b (start + index))
      else if rest.all (· = pad) then .ok ([], rest.length + 1)
      else .error (.symbol pad (start + index))
    else
      match bits? b with
      | none => .error (.symbol b (start + index))
      | some bits => (lastGroup start (index + 1) rest).map fun (more, count) =>
        (bits :: more, count)

/-- The last group, complete or not. -/
def decodeLast (start : Nat) (bytes : List UInt8) : Except Problem (List UInt8) := do
  let (bits, padding) ← lastGroup start 0 bytes
  let checkLast (unused : UInt8) (last : UInt8) (result : List UInt8) :
      Except Problem (List UInt8) :=
    if last &&& unused = 0 then .ok result
    else .error (.lastSymbol (symbol last) (start + bits.length - 1))
  match bits with
  | [] => if start = 0 then .ok [] else .error (.length start)
  | [_] => .error (.length (start + 1))
  | _ =>
    if (bits.length + padding) % 4 ≠ 0 then .error .padding
    else
      match bits with
      | [a, b] => checkLast 15 b [(a <<< 2) ||| (b >>> 4)]
      | [a, b, c] => checkLast 3 c [(a <<< 2) ||| (b >>> 4), (b <<< 4) ||| (c >>> 2)]
      | [a, b, c, d] =>
        .ok [(a <<< 2) ||| (b >>> 4), (b <<< 4) ||| (c >>> 2), (c <<< 6) ||| d]
      | _ => .error .padding

/-- A symbol inside the text, where there is no padding. -/
def inner (offset : Nat) (byte : UInt8) : Except Problem UInt8 :=
  match bits? byte with
  | some bits => .ok bits
  | none => .error (.symbol byte offset)

/-- Reads groups of four from an offset on; the last one is left to `decodeLast`. -/
def decodeFrom (start : Nat) : List UInt8 → Except Problem (List UInt8)
  | a :: b :: c :: d :: e :: rest => do
    let a ← inner start a
    let b ← inner (start + 1) b
    let c ← inner (start + 2) c
    let d ← inner (start + 3) d
    let more ← decodeFrom (start + 4) (e :: rest)
    return ((a <<< 2) ||| (b >>> 4)) :: ((b <<< 4) ||| (c >>> 2)) :: ((c <<< 6) ||| d) :: more
  | bytes => decodeLast start bytes

/-- A byte left over at the end that is no symbol at all. -/
def strayEnd (bytes : List UInt8) : Option Problem :=
  match bytes.getLast? with
  | none => none
  | some last =>
    if bytes.length % 4 = 1 && last != pad && (bits? last).isNone then
      some (.symbol last (bytes.length - 1))
    else none

/-- **Reading**: the byte string that a text spells, or why it spells none. -/
def decode (text : String) : Except Problem Bytes :=
  let bytes := text.toUTF8.toList
  match strayEnd bytes with
  | some problem => .error problem
  | none => (decodeFrom 0 bytes).map Bytes.ofList

end Base64
end FunctionHost

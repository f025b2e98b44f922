import FunctionHost.Bytes
/-!
# Digests

Short fingerprints of byte strings: `sip` is SipHash with one round per word and three at the end,
keyed with zeros; `fnv` is the 64-bit FNV-1a hash.
-/
namespace FunctionHost
namespace Digest

/-- The state of SipHash. -/
structure SipState where
  /-- The first word. -/
  v0 : UInt64
  /-- The second word. -/
  v1 : UInt64
  /-- The third word. -/
  v2 : UInt64
  /-- The fourth word. -/
  v3 : UInt64
  deriving DecidableEq, Repr

/-- A word turned to the left. -/
def rotate (x count : UInt64) : UInt64 := (x <<< count) ||| (x >>> (64 - count))

namespace SipState

/-- The state before any input, for a key of zeros. -/
def start : SipState :=
  ⟨0x736f6d6570736575, 0x646f72616e646f6d, 0x6c7967656e657261, 0x7465646279746573⟩

/-- One round. -/
def round (s : SipState) : SipState :=
  let v0 := s.v0 + s.v1
  let v1 := rotate s.v1 13 ^^^ v0
  let v0 := rotate v0 32
  let v2 := s.v2 + s.v3
  let v3 := rotate s.v3 16 ^^^ v2
  let v0 := v0 + v3
  let v3 := rotate v3 21 ^^^ v0
  let v2 := v2 + v1
  let v1 := rotate v1 17 ^^^ v2
  let v2 := rotate v2 32
  ⟨v0, v1, v2, v3⟩

/-- Takes in a word. -/
def absorb (s : SipState) (word : UInt64) : SipState :=
  let s := { s with v3 := s.v3 ^^^ word }.round
  { s with v0 := s.v0 ^^^ word }

/-- The digest. -/
def finish (s : SipState) : UInt64 :=
  let s := { s with v2 := s.v2 ^^^ 0xff }.round.round.round
  s.v0 ^^^ s.v1 ^^^ s.v2 ^^^ s.v3

end SipState

/-- The word that up to eight bytes spell, least significant first. -/
def littleEndian : List UInt8 → UInt64
  | [] => 0
  | b :: rest => b.toUInt64 ||| (littleEndian rest <<< 8)

/-- Takes in bytes, eight at a time; the last word carries the length. -/
def absorbAll (length : Nat) (s : SipState) (bytes : List UInt8) : SipState :=
  match bytes with
  | a :: b :: c :: d :: e :: f :: g :: h :: rest =>
    absorbAll length (s.absorb (littleEndian [a, b, c, d, e, f, g, h])) rest
  | rest => s.absorb (littleEndian rest ||| (UInt64.ofNat length <<< 56))

/-- **The SipHash of a byte string** preceded by its length in eight bytes. -/
def sip (bytes : Bytes) : UInt64 :=
  let s := SipState.start.absorb (UInt64.ofNat bytes.size)
  (absorbAll (bytes.size + 8) s bytes.toList).finish

/-- **The FNV-1a hash of a byte string.** -/
def fnv (bytes : Bytes) : UInt64 :=
  bytes.foldl (fun acc b => (acc ^^^ b.toUInt64) * 0x100000001b3) 0xcbf29ce484222325

/-- A digest in sixteen hexadecimal digits. -/
def shown (digest : UInt64) : String := hexPadded 16 digest.toNat

end Digest
end FunctionHost

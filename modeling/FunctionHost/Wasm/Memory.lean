import FunctionHost.Bytes
import FunctionHost.Wasm.Types
/-!
# Linear memory

A guest's memory is a row of bytes whose length is a whole number of pages.  It begins as zeros,
so only the bytes up to the last one ever written are stored; the rest read as zero.  `byte` is
the view that defines what a memory holds, and reads and writes of several bytes are little-endian.
-/
namespace FunctionHost
namespace Wasm

/-- **A linear memory.** -/
structure Memory where
  /-- The bytes stored; all further bytes up to `size` are zero. -/
  stored : ByteArray
  /-- The number of bytes that can be addressed. -/
  size : Nat
  /-- The number of pages it may grow to. -/
  maxPages : Nat
  deriving Inhabited

namespace Memory

/-- A memory of zeros. -/
def zeros (pages maxPages : Nat) : Memory := ⟨ByteArray.empty, pages * pageSize, maxPages⟩

/-- The number of pages. -/
def pages (m : Memory) : Nat := m.size / pageSize

/-- The byte at an address; zero beyond what is stored. -/
@[inline] def byte (m : Memory) (address : Nat) : UInt8 :=
  if h : address < m.stored.size then m.stored[address] else 0

/-- Whether `len` bytes at `start` lie inside the memory. -/
def fits (m : Memory) (start len : Nat) : Bool := start + len ≤ m.size

/-- A block of zeros, appended as needed. -/
def zeroBlock : ByteArray := Bytes.replicate 4096 0

/-- Appends blocks of zeros. -/
def appendZeros : Nat → ByteArray → ByteArray
  | 0, bytes => bytes
  | blocks + 1, bytes => appendZeros blocks (bytes ++ zeroBlock)

/-- Stores explicit zeros so that at least `stop` bytes are stored. -/
def reserve (m : Memory) (stop : Nat) : Memory :=
  if m.stored.size < stop then
    { m with stored := appendZeros ((stop - m.stored.size) / 4096 + 1) m.stored }
  else m

/-- The number that `count` bytes from `address` on spell, least significant first. -/
def read (m : Memory) (address : Nat) : Nat → Word
  | 0 => 0
  | count + 1 => (m.byte address).toUInt64 ||| (m.read (address + 1) count <<< (8 : UInt64))

/-- Writes the low `count` bytes of a word from `address` on, least significant first. -/
def writeBytes : Nat → ByteArray → Nat → Word → ByteArray
  | 0, bytes, _, _ => bytes
  | count + 1, bytes, address, value =>
    writeBytes count (bytes.set! address value.toUInt8) (address + 1) (value >>> (8 : UInt64))

/-- The memory after the low `count` bytes of a word were written from `address` on. -/
def write (m : Memory) (address count : Nat) (value : Word) : Memory :=
  let ⟨stored, size, maxPages⟩ := m.reserve (address + count)
  ⟨writeBytes count stored address value, size, maxPages⟩

/-- The bytes of a region. -/
def region (m : Memory) (start len : Nat) : Bytes :=
  let stored := m.stored.extract start (start + len)
  if stored.size < len then stored ++ Bytes.replicate (len - stored.size) 0 else stored

/-- The memory after a byte string was copied to `start`. -/
def blit (m : Memory) (start : Nat) (bytes : Bytes) : Memory :=
  let ⟨stored, size, maxPages⟩ := m.reserve (start + bytes.size)
  ⟨bytes.copySlice 0 stored start bytes.size, size, maxPages⟩

/-- **Growing**: the memory with more pages, unless that exceeds its maximum or `limit` bytes. -/
def grow (m : Memory) (more limit : Nat) : Option Memory :=
  let pages := m.pages + more
  if pages ≤ m.maxPages ∧ pages * pageSize ≤ limit then
    some { m with size := pages * pageSize }
  else none

end Memory
end Wasm
end FunctionHost

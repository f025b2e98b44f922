import FunctionHost.Wasm.Types
import FunctionHost.Text.Utf8
/-!
# Reading the binary format

A reader walks over the bytes of a module.  Numbers are in LEB128: seven bits a byte, least
significant first, the topmost bit says whether more follow; a number of `n` bits takes no more
bytes than it needs at most and its last byte sets no bit beyond the `n`-th.
-/
namespace FunctionHost
namespace Wasm
namespace Binary

/-- Where a reader stands: between `pos` and `stop` of the bytes. -/
structure Cursor where
  /-- The bytes. -/
  bytes : Bytes
  /-- The next byte to read. -/
  pos : Nat
  /-- Where the part to read ends. -/
  stop : Nat

/-- A reader: it moves the cursor and answers, or says what is malformed. -/
abbrev Reader (α : Type) := StateT Cursor (Except String) α

/-- Refuses the input. -/
def malformed {α : Type} (reason : String) : Reader α := fun _ => .error reason

/-- The number of bytes left. -/
def remaining : Reader Nat := fun c => .ok (c.stop - c.pos, c)

/-- The next byte. -/
def byte : Reader UInt8 := fun c =>
  if c.pos < c.stop then .ok (c.bytes[c.pos]?.getD 0, { c with pos := c.pos + 1 })
  else .error "unexpected end"

/-- The next `count` bytes. -/
def take (count : Nat) : Reader Bytes := fun c =>
  if c.pos + count ≤ c.stop then
    .ok (c.bytes.extract c.pos (c.pos + count), { c with pos := c.pos + count })
  else .error "unexpected end"

/-- An unsigned number of `bits` bits. -/
def unsigned (bits : Nat) : Reader Nat := do
  let b ← byte
  let low := b.toNat % 128
  if bits < 7 ∧ Nat.pow 2 bits ≤ low then malformed "integer too large"
  else if b < 0x80 then return low
  else if 7 < bits then return low + 128 * (← unsigned (bits - 7))
  else malformed "integer representation too long"
termination_by bits

/-- A signed number of `bits` bits. -/
def signed (bits : Nat) : Reader Int := do
  let b ← byte
  let low := b.toNat % 128
  if b < 0x80 then
    let value : Int := if low < 64 then low else (low : Int) - 128
    if bits < 7 ∧ (value < -(Nat.pow 2 (bits - 1) : Int) ∨ Nat.pow 2 (bits - 1) ≤ value) then
      malformed "integer too large"
    else return value
  else if 7 < bits then return low + 128 * (← signed (bits - 7))
  else malformed "integer representation too long"
termination_by bits

/-- An index, a count or a size. -/
def u32 : Reader Nat := unsigned 32

/-- Reads `count` items one after another. -/
def repeated {α : Type} (item : Reader α) : Nat → Reader (Array α)
  | count => go count #[]
where
  /-- Reads the items that are left onto those read. -/
  go : Nat → Array α → Reader (Array α)
    | 0, read => return read
    | count + 1, read => do go count (read.push (← item))

/-- A count and as many items.  Each item takes at least a byte, so a count beyond the bytes left
is refused at once. -/
def vector {α : Type} (item : Reader α) : Reader (Array α) := do
  let count ← u32
  if (← remaining) < count then malformed "unexpected end" else repeated item count

/-- The longest name accepted, in bytes. -/
def maxNameBytes : Nat := 100000

/-- A name: its length in bytes and its UTF-8 bytes. -/
def name : Reader String := do
  let len ← u32
  if maxNameBytes < len then malformed "string size out of bounds"
  else
    match Utf8.decode? (← take len) with
    | some text => return text
    | none => malformed "malformed UTF-8 encoding"

/-- Runs a reader over exactly the next `size` bytes. -/
def within {α : Type} (size : Nat) (inner : Reader α) : Reader α := fun c =>
  if c.stop < c.pos + size then .error "unexpected end"
  else
    match inner { c with stop := c.pos + size } with
    | .error reason => .error reason
    | .ok (value, after) =>
      if after.pos = c.pos + size then .ok (value, { c with pos := after.pos })
      else .error "section size mismatch"

/-- The value type that a byte stands for. -/
def valueTypeOf? : UInt8 → Option ValueType
  | 0x7F => some .i32
  | 0x7E => some .i64
  | 0x7D => some .f32
  | 0x7C => some .f64
  | 0x70 => some .funcref
  | _ => none

/-- A value type. -/
def valueType : Reader ValueType := do
  match valueTypeOf? (← byte) with
  | some type => return type
  | none => malformed "invalid value type"

/-- A reference type. -/
def refType : Reader ValueType := do
  let type ← valueType
  if type.isReference then return type else malformed "malformed reference type"

end Binary
end Wasm
end FunctionHost

import FunctionHost.Wasm.Binary.Reader
import FunctionHost.Wasm.Opcode
import FunctionHost.Wasm.Module
/-!
# Operators in the binary format

One byte names an operator, `0xFC` and a number the later ones.  An expression is a sequence of
operators up to the end that closes it.
-/
namespace FunctionHost
namespace Wasm
namespace Binary

/-- The type of a block: nothing, one value, or a type of the module as a number that cannot be
negative. -/
def blockType : Reader BlockType := do
  let index ← signed 33
  if 0 ≤ index then return .index index.toNat
  else if index = -64 then return .empty
  else if index < -64 then malformed "invalid block type"
  else
    match valueTypeOf? (UInt8.ofNat (index + 128).toNat) with
    | some type => return .value type
    | none => malformed "invalid block type"

/-- Alignment, offset and memory of an access; bit 6 of the first number says that a memory
follows. -/
def memArg : Reader MemArg := do
  let flags ← u32
  if 128 ≤ flags then malformed "malformed memop alignment"
  else if 64 ≤ flags then
    let memory ← u32
    return ⟨flags - 64, ← u32, memory⟩
  else return ⟨flags, ← u32, 0⟩

/-- An operator after the prefix `0xFC`. -/
def prefixedOperator : Reader Operator := do
  let code ← u32
  match Opcode.saturating[code]? with
  | some (_, op) => return .numeric op
  | none =>
    match code with
    | 8 => return .memoryInit (← u32) (← u32)
    | 9 => return .dataDrop (← u32)
    | 10 => return .memoryCopy (← u32) (← u32)
    | 11 => return .memoryFill (← u32)
    | 12 => return .tableInit (← u32) (← u32)
    | 13 => return .elemDrop (← u32)
    | 14 => return .tableCopy (← u32) (← u32)
    | 15 => return .tableGrow (← u32)
    | 16 => return .tableSize (← u32)
    | 17 => return .tableFill (← u32)
    | _ => malformed "unknown 0xfc subopcode"

/-- The bytes of a float, as a word. -/
def floatWord (count : Nat) : Reader Word := do
  let bytes ← take count
  return bytes.toList.foldr (fun b acc => b.toUInt64 ||| (acc <<< (8 : UInt64))) 0

/-- The low 64 bits of an integer, as a word cut to the width. -/
def intWord (width : Width) (value : Int) : Word := Numeric.wordOfInt width value

/-- The operator of an access to memory, if the byte names one. -/
def accessOf? (code : Nat) : Option (MemArg → Operator) :=
  if code < 0x36 then (Opcode.loads[code - 0x28]?).map fun row => Operator.load row.2
  else (Opcode.stores[code - 0x36]?).map fun row => Operator.store row.2

/-- An operator of one byte with nothing but numbers behind it. -/
def plainOperator (code : Nat) : Reader Operator :=
  match code with
  | 0x00 => return .unreachable
  | 0x01 => return .nop
  | 0x02 => return .block (← blockType)
  | 0x03 => return .loop (← blockType)
  | 0x04 => return .ifThen (← blockType)
  | 0x05 => return .elseOf
  | 0x0B => return .endOf
  | 0x0C => return .br (← u32)
  | 0x0D => return .brIf (← u32)
  | 0x0E => do
    let depths ← vector u32
    return .brTable depths.toList (← u32)
  | 0x0F => return .ret
  | 0x10 => return .call (← u32)
  | 0x11 => return .callIndirect (← u32) (← u32)
  | 0x1A => return .drop
  | 0x1B => return .select none
  | 0x1C => do
    match (← vector valueType).toList with
    | [type] => return .select (some type)
    | _ => malformed "invalid result arity"
  | 0x20 => return .localGet (← u32)
  | 0x21 => return .localSet (← u32)
  | 0x22 => return .localTee (← u32)
  | 0x23 => return .globalGet (← u32)
  | 0x24 => return .globalSet (← u32)
  | 0x25 => return .tableGet (← u32)
  | 0x26 => return .tableSet (← u32)
  | 0x3F => return .memorySize (← u32)
  | 0x40 => return .memoryGrow (← u32)
  | 0x41 => return .const .i32 (intWord .w32 (← signed 32))
  | 0x42 => return .const .i64 (intWord .w64 (← signed 64))
  | 0x43 => return .const .f32 (← floatWord 4)
  | 0x44 => return .const .f64 (← floatWord 8)
  | 0xD0 => return .refNull (← refType)
  | 0xD1 => return .refIsNull
  | 0xD2 => return .refFunc (← u32)
  | 0xFC => prefixedOperator
  | _ => malformed "illegal opcode"

/-- An operator. -/
def operator : Reader Operator := do
  let code := (← byte).toNat
  if 0x28 ≤ code ∧ code ≤ 0x3E then
    match accessOf? code with
    | some access => return access (← memArg)
    | none => malformed "illegal opcode"
  else if Opcode.firstArithmetic ≤ code ∧
      code - Opcode.firstArithmetic < Opcode.arithmetic.size then
    match Opcode.arithmetic[code - Opcode.firstArithmetic]? with
    | some (_, op) => return .numeric op
    | none => malformed "illegal opcode"
  else plainOperator code

/-- The operators of an expression, its closing end included.  `depth` blocks are open; every
operator takes a byte, so as many steps as there are bytes are enough. -/
def expressionFrom : Nat → Nat → Array Operator → Reader (Array Operator)
  | 0, _, _ => malformed "unexpected end"
  | steps + 1, depth, read => do
    let op ← operator
    match op with
    | .endOf =>
      if depth = 0 then return read.push op
      else expressionFrom steps (depth - 1) (read.push op)
    | .block _ | .loop _ | .ifThen _ => expressionFrom steps (depth + 1) (read.push op)
    | _ => expressionFrom steps depth (read.push op)

/-- The operators of an expression, its closing end included. -/
def expression : Reader (List Operator) := do
  return (← expressionFrom (← remaining) 0 #[]).toList

/-- A constant expression, without its closing end. -/
def constExpression : Reader ConstExpr := do
  return (← expression).dropLast

end Binary
end Wasm
end FunctionHost

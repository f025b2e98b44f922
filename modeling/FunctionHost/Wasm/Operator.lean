import FunctionHost.Wasm.Numeric
/-!
# The instruction set

Function bodies as they stand in a module: a flat sequence of operators in which `block`, `loop`,
`ifThen`, `elseOf` and `endOf` bracket each other.  Both the binary and the text format are read
into this form; validation turns it into code with resolved jumps.
-/
namespace FunctionHost
namespace Wasm

/-- The type of a block: what it takes from the stack and what it leaves. -/
inductive BlockType where
  /-- Takes and leaves nothing. -/
  | empty
  /-- Leaves one value. -/
  | value (type : ValueType)
  /-- Takes and leaves what a function type of the module says. -/
  | index (type : Nat)
  deriving DecidableEq, Repr, Inhabited

/-- Where a memory access goes, apart from the address on the stack. -/
structure MemArg where
  /-- The exponent of the alignment that the access promises. -/
  align : Nat
  /-- What is added to the address. -/
  offset : Nat
  /-- Which memory. -/
  memory : Nat
  deriving DecidableEq, Repr, Inhabited

/-- A read from memory: the type it leaves, the bytes it reads, and whether the topmost bit read
is copied into the rest. -/
structure LoadShape where
  /-- The type of the value. -/
  type : ValueType
  /-- How many bytes are read. -/
  bytes : Nat
  /-- Whether a narrow value is extended with its sign. -/
  signed : Bool
  deriving DecidableEq, Repr, Inhabited

/-- A write to memory: the type it takes and the low bytes of it that it writes. -/
structure StoreShape where
  /-- The type of the value. -/
  type : ValueType
  /-- How many bytes are written. -/
  bytes : Nat
  deriving DecidableEq, Repr, Inhabited

/-- **An operator** of a function body. -/
inductive Operator where
  /-- Traps. -/
  | unreachable
  /-- Does nothing. -/
  | nop
  /-- Opens a block, left at its end. -/
  | block (type : BlockType)
  /-- Opens a block that a branch starts again. -/
  | loop (type : BlockType)
  /-- Opens a block that runs if the condition holds. -/
  | ifThen (type : BlockType)
  /-- What runs if the condition does not hold. -/
  | elseOf
  /-- Closes the innermost block. -/
  | endOf
  /-- Leaves blocks. -/
  | br (depth : Nat)
  /-- Leaves blocks if the condition holds. -/
  | brIf (depth : Nat)
  /-- Leaves as many blocks as the table says for the operand. -/
  | brTable (depths : List Nat) (otherwise : Nat)
  /-- Leaves the function. -/
  | ret
  /-- Calls a function. -/
  | call (func : Nat)
  /-- Calls the function that a table holds. -/
  | callIndirect (type table : Nat)
  /-- Drops an operand. -/
  | drop
  /-- One of two operands. -/
  | select (type : Option ValueType)
  /-- Reads a local. -/
  | localGet (index : Nat)
  /-- Sets a local. -/
  | localSet (index : Nat)
  /-- Sets a local and keeps the operand. -/
  | localTee (index : Nat)
  /-- Reads a global. -/
  | globalGet (index : Nat)
  /-- Sets a global. -/
  | globalSet (index : Nat)
  /-- Reads a table element. -/
  | tableGet (table : Nat)
  /-- Sets a table element. -/
  | tableSet (table : Nat)
  /-- The null reference. -/
  | refNull (type : ValueType)
  /-- Whether a reference is null. -/
  | refIsNull
  /-- The reference to a function. -/
  | refFunc (func : Nat)
  /-- Reads from memory. -/
  | load (shape : LoadShape) (arg : MemArg)
  /-- Writes to memory. -/
  | store (shape : StoreShape) (arg : MemArg)
  /-- The size of a memory in pages. -/
  | memorySize (memory : Nat)
  /-- Grows a memory. -/
  | memoryGrow (memory : Nat)
  /-- Copies from a data segment to memory. -/
  | memoryInit (segment memory : Nat)
  /-- Drops a data segment. -/
  | dataDrop (segment : Nat)
  /-- Copies within or between memories. -/
  | memoryCopy (into source : Nat)
  /-- Fills memory with a byte. -/
  | memoryFill (memory : Nat)
  /-- Copies from an element segment to a table. -/
  | tableInit (segment table : Nat)
  /-- Drops an element segment. -/
  | elemDrop (segment : Nat)
  /-- Copies within or between tables. -/
  | tableCopy (into source : Nat)
  /-- Grows a table. -/
  | tableGrow (table : Nat)
  /-- The size of a table. -/
  | tableSize (table : Nat)
  /-- Fills a table with a reference. -/
  | tableFill (table : Nat)
  /-- A constant. -/
  | const (type : ValueType) (value : Word)
  /-- Arithmetic. -/
  | numeric (op : Numeric)
  deriving Repr

namespace Operator

/-- **What an operator costs** in units of fuel.  Brackets, returns and what generates no code are
free, everything else costs one. -/
def cost : Operator → Nat
  | .nop | .drop | .block _ | .loop _ | .unreachable | .ret | .elseOf | .endOf => 0
  | _ => 1

end Operator
end Wasm
end FunctionHost

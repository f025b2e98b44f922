import FunctionHost.Wasm.Module
/-!
# Code with resolved jumps

What validation makes of a function body: a row of instructions in which brackets are gone and
every branch says where it goes, how many operands it takes along and how many it leaves behind.
-/
namespace FunctionHost
namespace Wasm

/-- **A resolved branch.** -/
structure Branch where
  /-- The instruction to continue with. -/
  target : Nat
  /-- How many operands on top go along. -/
  keep : Nat
  /-- How many operands beneath those are dropped. -/
  drop : Nat
  deriving DecidableEq, Repr, Inhabited

/-- **An instruction.** -/
inductive Instruction where
  /-- An operator that continues with the next instruction. -/
  | plain (op : Operator)
  /-- Traps. -/
  | unreachable
  /-- Branches. -/
  | branch (goal : Branch)
  /-- Branches if the topmost operand is not zero. -/
  | branchIf (goal : Branch)
  /-- Branches as the topmost operand selects. -/
  | branchTable (goals : Array Branch) (otherwise : Branch)
  /-- Goes on at the target if the topmost operand is zero. -/
  | skipUnless (target : Nat)
  /-- Goes on at the target, at no cost. -/
  | jump (target : Nat)
  /-- The head of a loop, where the limits are checked. -/
  | loopHead
  /-- Calls a function. -/
  | call (func : Nat)
  /-- Calls what a table holds, which must have the type. -/
  | callIndirect (type table : Nat)
  /-- Leaves the function. -/
  | ret
  deriving Repr, Inhabited

namespace Instruction

/-- What an instruction costs in units of fuel. -/
def cost : Instruction → Nat
  | .plain op => op.cost
  | .unreachable | .jump _ | .loopHead | .ret => 0
  | _ => 1

/-- The instruction with every branch sent where `place` says. -/
def relocate (place : Nat → Nat) : Instruction → Instruction
  | .branch b => .branch { b with target := place b.target }
  | .branchIf b => .branchIf { b with target := place b.target }
  | .branchTable bs b =>
    .branchTable (bs.map fun b => { b with target := place b.target })
      { b with target := place b.target }
  | .skipUnless target => .skipUnless (place target)
  | .jump target => .jump (place target)
  | other => other

end Instruction

/-- **The code of a function.** -/
structure FuncCode where
  /-- What it takes and leaves. -/
  type : FuncType
  /-- What its locals beyond the parameters begin as. -/
  locals : Array Word
  /-- Its instructions. -/
  body : Array Instruction
  deriving Inhabited

/-- **A validated module**: the module and the code of its own functions, in order. -/
structure Program where
  /-- The module. -/
  module : Module
  /-- The number of imported functions. -/
  importedFuncs : Nat
  /-- The type of every function, imported ones first. -/
  funcTypes : Array FuncType
  /-- The code of the module's own functions. -/
  code : Array FuncCode
  deriving Inhabited

end Wasm
end FunctionHost

import FunctionHost.Wasm.Code
import FunctionHost.Wasm.Store
/-!
# Running guest code

The machine that executes validated code one instruction at a time.  Its whole configuration is
data: the state of the instance and a `Thread`, a stack of frames.  So a run can stop at any
instruction and go on later, which is what happens when the guest calls the host.

A thread counts the fuel it spends by itself.  The count goes to the instance's account when the
guest enters or leaves a function, calls the host or runs out; a trap in between loses it.
-/
namespace FunctionHost
namespace Wasm

/-- The activation of a function. -/
structure Frame where
  /-- Its instructions. -/
  body : Array Instruction
  /-- The next instruction. -/
  pc : Nat
  /-- Its locals, parameters first. -/
  locals : Array Word
  /-- Its operands, topmost first. -/
  stack : List Word
  /-- How many results it leaves. -/
  arity : Nat
  deriving Inhabited

/-- **Guest code in execution.** -/
structure Thread where
  /-- The innermost activation. -/
  frame : Frame
  /-- The activations that wait for it, innermost first. -/
  callers : List Frame
  /-- How many activations wait. -/
  depth : Nat
  /-- The fuel spent so far. -/
  spent : Nat
  deriving Inhabited

/-- The outcome of an instruction, or of many. -/
inductive Progress where
  /-- The thread goes on. -/
  | running (s : Store) (t : Thread)
  /-- The function has returned these values, the last first. -/
  | finished (s : Store) (results : List Word)
  /-- The code was stopped. -/
  | trapped (s : Store) (trap : Trap)
  /-- The guest calls an imported function with these arguments; the thread waits for results. -/
  | calling (s : Store) (t : Thread) (func : Nat) (args : List Word)
  deriving Inhabited

/-- How deeply calls may be nested. -/
def maxDepth : Nat := 10000

/-- What a trap in arithmetic is. -/
def Fault.trap : Fault → Trap
  | .divideByZero => .integerDivisionByZero
  | .overflow => .integerOverflow
  | .invalidConversion => .badConversionToInteger

/-- The effect of an operator on state, locals and operands. -/
inductive Effect where
  /-- What is there afterwards. -/
  | ok (s : Store) (locals : Array Word) (stack : List Word)
  /-- The operator trapped. -/
  | trap (s : Store) (trap : Trap)

namespace Machine

/-- The address of an access: the operand and the offset, in exact numbers. -/
@[inline] def address (base : Word) (arg : MemArg) : Nat := base.toNat + arg.offset

/-- A read from memory. -/
def load (m : Memory) (shape : LoadShape) (start : Nat) : Word :=
  let raw := m.read start shape.bytes
  if shape.signed then
    let extended := Numeric.signExtend (UInt64.ofNat (8 * shape.bytes)) raw
    if shape.type = .i32 then Width.cut .w32 extended else extended
  else raw

/-- Copies a region of one memory to another, or within one. -/
def copyMemory (s : Store) (into source dst src len : Nat) : Store :=
  let bytes := (s.memory source).region src len
  s.withMemory into (·.blit dst bytes)

/-- Bulk operations on memories; operands are lengths and addresses, topmost first. -/
def bulkMemory (op : Operator) (s : Store) (dst src len : Nat) : Except Trap Store :=
  match op with
  | .memoryInit segment m =>
    let bytes := s.data[segment]?.getD ByteArray.empty
    if src + len ≤ bytes.size && (s.memory m).fits dst len then
      .ok (s.withMemory m (·.blit dst (bytes.extract src (src + len))))
    else .error .memoryOutOfBounds
  | .memoryCopy into source =>
    if (s.memory source).fits src len && (s.memory into).fits dst len then
      .ok (copyMemory s into source dst src len)
    else .error .memoryOutOfBounds
  | .memoryFill m =>
    if (s.memory m).fits dst len then
      .ok (s.withMemory m (·.blit dst (Bytes.replicate len (UInt8.ofNat src))))
    else .error .memoryOutOfBounds
  | .tableInit segment t =>
    let words := s.elems[segment]?.getD []
    if src + len ≤ words.length && (s.table t).fits dst len then
      .ok (s.withTable t (·.blit dst ((words.drop src).take len)))
    else .error .tableOutOfBounds
  | .tableCopy into source =>
    if (s.table source).fits src len && (s.table into).fits dst len then
      let words := ((s.table source).elements.extract src (src + len)).toList
      .ok (s.withTable into (·.blit dst words))
    else .error .tableOutOfBounds
  | _ => .error .unreachableCodeReached

/-- Growing a memory: the state, and the old size in pages or all bits set. -/
def growMemory (s : Store) (m more : Nat) : Store × Word :=
  match (s.memory m).grow more s.memoryLimit with
  | none => (s, 0xFFFFFFFF)
  | some grown => (s.withMemory m fun _ => grown, UInt64.ofNat (s.memory m).pages)

/-- Growing a table: the state, and the old size or all bits set. -/
def growTable (s : Store) (t more : Nat) (value : Word) : Store × Word :=
  match (s.table t).grow more value with
  | none => (s, 0xFFFFFFFF)
  | some grown => (s.withTable t fun _ => grown, UInt64.ofNat (s.table t).elements.size)

/-- The operators that touch tables, segments and the size of memory. -/
def tableEffect (op : Operator) (s : Store) (locals : Array Word) (stack : List Word) : Effect :=
  match op, stack with
  | .memorySize m, stack => .ok s locals (UInt64.ofNat (s.memory m).pages :: stack)
  | .memoryGrow m, more :: rest =>
    let (s, answer) := growMemory s m more.toNat
    .ok s locals (answer :: rest)
  | .dataDrop segment, stack =>
    .ok { s with data := s.data.modify segment fun _ => ByteArray.empty } locals stack
  | .elemDrop segment, stack =>
    .ok { s with elems := s.elems.modify segment fun _ => [] } locals stack
  | .tableGet t, index :: rest =>
    match (s.table t).elements[index.toNat]? with
    | some w => .ok s locals (w :: rest)
    | none => .trap s .tableOutOfBounds
  | .tableSet t, value :: index :: rest =>
    if index.toNat < (s.table t).elements.size then
      .ok (s.withTable t (·.blit index.toNat [value])) locals rest
    else .trap s .tableOutOfBounds
  | .tableSize t, stack => .ok s locals (UInt64.ofNat (s.table t).elements.size :: stack)
  | .tableGrow t, more :: value :: rest =>
    let (s, answer) := growTable s t more.toNat value
    .ok s locals (answer :: rest)
  | .tableFill t, len :: value :: start :: rest =>
    if (s.table t).fits start.toNat len.toNat then
      .ok (s.withTable t (·.blit start.toNat (List.replicate len.toNat value))) locals rest
    else .trap s .tableOutOfBounds
  | op, len :: src :: dst :: rest =>
    match bulkMemory op s dst.toNat src.toNat len.toNat with
    | .ok s => .ok s locals rest
    | .error trap => .trap s trap
  | _, _ => .trap s .unreachableCodeReached

/-- **The effect of an operator** that is no bracket and no branch. -/
def effect (op : Operator) (s : Store) (locals : Array Word) (stack : List Word) : Effect :=
  match op, stack with
  | .localGet i, stack => .ok s locals ((locals[i]?.getD 0) :: stack)
  | .const _ value, stack => .ok s locals (value :: stack)
  | .numeric op, top :: rest =>
    if op.isBinary then
      match rest with
      | below :: rest =>
        match op.eval below top with
        | .ok w => .ok s locals (w :: rest)
        | .error fault => .trap s fault.trap
      | [] => .trap s .unreachableCodeReached
    else
      match op.eval top 0 with
      | .ok w => .ok s locals (w :: rest)
      | .error fault => .trap s fault.trap
  | .localSet i, top :: rest => .ok s (locals.set! i top) rest
  | .localTee i, top :: rest => .ok s (locals.set! i top) (top :: rest)
  | .globalGet i, stack => .ok s locals ((s.globals[i]?.getD 0) :: stack)
  | .globalSet i, top :: rest => .ok { s with globals := s.globals.set! i top } locals rest
  | .load shape arg, base :: rest =>
    let start := address base arg
    let m := s.memory arg.memory
    if m.fits start shape.bytes then .ok s locals (load m shape start :: rest)
    else .trap s .memoryOutOfBounds
  | .store shape arg, value :: base :: rest =>
    let start := address base arg
    if (s.memory arg.memory).fits start shape.bytes then
      .ok (s.withMemory arg.memory (·.write start shape.bytes value)) locals rest
    else .trap s .memoryOutOfBounds
  | .nop, stack => .ok s locals stack
  | .drop, _ :: rest => .ok s locals rest
  | .select _, condition :: second :: first :: rest =>
    .ok s locals ((if condition == 0 then second else first) :: rest)
  | .refNull _, stack => .ok s locals (nullReference :: stack)
  | .refIsNull, top :: rest => .ok s locals (Numeric.flag (top == nullReference) :: rest)
  | .refFunc f, stack => .ok s locals (UInt64.ofNat f :: stack)
  | op, stack => tableEffect op s locals stack

/-- The operands after a branch. -/
@[inline] def unwind (stack : List Word) (b : Branch) : List Word :=
  if b.drop = 0 then stack else stack.take b.keep ++ stack.drop (b.keep + b.drop)

/-- The check at the entry of a function and at the head of a loop: fuel first, then the epoch. -/
@[inline] def checkLimits (epoch : Nat) (s : Store) (t : Thread) : Progress :=
  if s.fuel.budget ≤ t.spent then .trapped (s.spend t.spent) .outOfFuel
  else if s.expired epoch then .trapped s .interrupt
  else .running s t

/-- **Entering a function**: the activation of one of the module's own functions, or a call to the
host.  Arguments come in order; entering costs one unit. -/
def enter (p : Program) (epoch : Nat) (s : Store) (func : Nat) (args : List Word)
    (callers : List Frame) (depth spent : Nat) : Progress :=
  match p.code[func - p.importedFuncs]? with
  | none => .trapped s .unreachableCodeReached
  | some code =>
    if maxDepth < depth then .trapped s .stackOverflow
    else
      checkLimits epoch s
        ⟨⟨code.body, 0, args.toArray ++ code.locals, [], code.type.results.length⟩, callers, depth,
          spent + 1⟩

/-- Calling a function with the operands on top of the stack. -/
def invoke (p : Program) (epoch : Nat) (s : Store) (func : Nat) (frame : Frame)
    (callers : List Frame) (depth spent : Nat) : Progress :=
  let arity := ((p.funcTypes[func]?).map (·.params.length)).getD 0
  let args := (frame.stack.take arity).reverse
  let frame := { frame with stack := frame.stack.drop arity }
  let s := s.spend spent
  if func < p.importedFuncs then .calling s ⟨frame, callers, depth, spent⟩ func args
  else enter p epoch s func args (frame :: callers) (depth + 1) spent

/-- Leaving a function: its results go to the activation that waits, or out. -/
def leave (s : Store) (results : List Word) (callers : List Frame) (depth spent : Nat) : Progress :=
  let s := s.spend spent
  match callers with
  | [] => .finished s results
  | frame :: callers =>
    .running s ⟨{ frame with stack := results ++ frame.stack }, callers, depth - 1, spent⟩

/-- The function that a table element refers to, if it has the type. -/
def indirect (p : Program) (s : Store) (type table : Nat) (index : Word) : Except Trap Nat :=
  match (s.table table).elements[index.toNat]? with
  | none => .error .tableOutOfBounds
  | some reference =>
    if reference == nullReference then .error .indirectCallToNull
    else if p.funcTypes[reference.toNat]? = p.module.types[type]? then .ok reference.toNat
    else .error .badSignature

/-- **One instruction.** -/
def step (p : Program) (epoch : Nat) (s : Store) (t : Thread) : Progress :=
  let ⟨⟨body, pc, locals, stack, arity⟩, callers, depth, spent⟩ := t
  match body[pc]? with
  | none => .trapped s .unreachableCodeReached
  | some instruction =>
    match instruction, stack with
    | .plain op, stack =>
      match effect op s locals stack with
      | .ok s locals stack =>
        .running s ⟨⟨body, pc + 1, locals, stack, arity⟩, callers, depth, spent + op.cost⟩
      | .trap s trap => .trapped s trap
    | .branch b, stack =>
      .running s ⟨⟨body, b.target, locals, unwind stack b, arity⟩, callers, depth, spent + 1⟩
    | .branchIf b, top :: stack =>
      if top == 0 then
        .running s ⟨⟨body, pc + 1, locals, stack, arity⟩, callers, depth, spent + 1⟩
      else
        .running s ⟨⟨body, b.target, locals, unwind stack b, arity⟩, callers, depth, spent + 1⟩
    | .skipUnless target, top :: stack =>
      .running s
        ⟨⟨body, if top == 0 then target else pc + 1, locals, stack, arity⟩, callers, depth,
          spent + 1⟩
    | .jump target, stack =>
      .running s ⟨⟨body, target, locals, stack, arity⟩, callers, depth, spent⟩
    | .loopHead, stack =>
      checkLimits epoch s ⟨⟨body, pc + 1, locals, stack, arity⟩, callers, depth, spent⟩
    | .branchTable branches otherwise, top :: stack =>
      let b := branches[top.toNat]?.getD otherwise
      .running s ⟨⟨body, b.target, locals, unwind stack b, arity⟩, callers, depth, spent + 1⟩
    | .call func, stack =>
      invoke p epoch s func ⟨body, pc + 1, locals, stack, arity⟩ callers depth (spent + 1)
    | .callIndirect type table, index :: stack =>
      match indirect p s type table index with
      | .error trap => .trapped (s.spend (spent + 1)) trap
      | .ok func =>
        invoke p epoch s func ⟨body, pc + 1, locals, stack, arity⟩ callers depth (spent + 1)
    | .ret, stack => leave s (stack.take arity) callers depth spent
    | _, _ => .trapped (s.spend spent) .unreachableCodeReached

/-- Up to `steps` instructions: the thread stops earlier when it has an outcome. -/
def run (p : Program) (epoch : Nat) : Nat → Store → Thread → Progress
  | 0, s, t => .running s t
  | steps + 1, s, t =>
    match step p epoch s t with
    | .running s t => run p epoch steps s t
    | outcome => outcome

/-- A thread that calls a function of the module from outside. -/
def start (p : Program) (epoch : Nat) (s : Store) (func : Nat) (args : List Word) : Progress :=
  if func < p.importedFuncs then
    .calling s ⟨⟨#[.ret], 0, #[], [], ((p.funcTypes[func]?).map (·.results.length)).getD 0⟩, [], 0,
      s.fuel.spent⟩ func args
  else enter p epoch s func args [] 0 s.fuel.spent

/-- A waiting thread that has been given the results of its call to the host, in order. -/
def resume (s : Store) (t : Thread) (results : List Word) : Thread :=
  { t with
    frame := { t.frame with stack := results.reverse ++ t.frame.stack }
    spent := s.fuel.spent }

end Machine
end Wasm
end FunctionHost

import FunctionHost.Wasm.Machine
/-!
# The first state of an instance

From a program to the state that its code starts in: memories of zeros, tables of nulls, globals
with their first values, and the active segments copied to where they belong.  Imports other than
functions are never provided, so every memory, table and global is the module's own.
-/
namespace FunctionHost
namespace Wasm

/-- **What an instance may use.** -/
structure Ceilings where
  /-- Bytes that no memory may have more of. -/
  memoryBytes : Nat
  /-- Bytes set aside for a memory, if memories are set aside in advance. -/
  reservedBytes : Option Nat
  /-- Elements that no table may have more of. -/
  tableElements : Nat
  /-- The fuel budget. -/
  fuel : Nat
  /-- The epoch at which guest code is stopped, if it ever is. -/
  deadline : Option Nat
  deriving Inhabited

/-- Why there is no first state. -/
inductive SetupFault where
  /-- A memory is larger from the start than any may become. -/
  | memoryTooLarge (pages : Nat)
  /-- A segment does not fit where it belongs. -/
  | trap (trap : Trap)
  deriving DecidableEq, Repr

/-- The wording of the fault. -/
def SetupFault.message : SetupFault → String
  | .memoryTooLarge pages =>
    "memory minimum size of " ++ toString pages ++ " pages exceeds memory limits"
  | .trap cause => cause.message

namespace Setup

/-- The value of a constant expression, given the globals before it; the stack is topmost first. -/
def evalConst (globals : Array Word) : ConstExpr → List Word → Word
  | [], stack => stack.head?.getD 0
  | op :: rest, stack =>
    match op, stack with
    | .const _ value, stack => evalConst globals rest (value :: stack)
    | .refNull _, stack => evalConst globals rest (nullReference :: stack)
    | .refFunc f, stack => evalConst globals rest (UInt64.ofNat f :: stack)
    | .globalGet i, stack => evalConst globals rest ((globals[i]?.getD 0) :: stack)
    | .numeric op, y :: x :: below =>
      evalConst globals rest ((match op.eval x y with | .ok w => w | .error _ => 0) :: below)
    | _, stack => evalConst globals rest stack

/-- The memories, each with its first size. -/
def memories (c : Ceilings) : List Limits → Except SetupFault (List Memory)
  | [] => .ok []
  | l :: rest =>
    if c.memoryBytes < l.min * pageSize then .error (.memoryTooLarge l.min)
    else
      let declared := l.max.getD maxPages
      let most := match c.reservedBytes with
        | none => declared
        | some bytes => min declared (bytes / pageSize)
      (memories c rest).map (Memory.zeros l.min most :: ·)

/-- A table of nulls. -/
def tableOf (c : Ceilings) (t : TableType) : Table :=
  ⟨Array.replicate t.limits.min nullReference,
    min (t.limits.max.getD (UInt32.size - 1)) c.tableElements⟩

/-- Copies the active element segments, in order. -/
def placeElems (s : Store) : List (SegmentMode × List Word) → Except SetupFault Store
  | [] => .ok s
  | (.active t offset, words) :: rest =>
    let start := (evalConst s.globals offset []).toNat
    if (s.table t).fits start words.length then placeElems (s.withTable t (·.blit start words)) rest
    else .error (.trap .tableOutOfBounds)
  | _ :: rest => placeElems s rest

/-- Copies the active data segments, in order. -/
def placeData (s : Store) : List DataSegment → Except SetupFault Store
  | [] => .ok s
  | d :: rest =>
    match d.mode with
    | .active m offset =>
      let start := (evalConst s.globals offset []).toNat
      if (s.memory m).fits start d.bytes.size then
        placeData (s.withMemory m (·.blit start d.bytes)) rest
      else .error (.trap .memoryOutOfBounds)
    | _ => placeData s rest

/-- Whether code can still copy from a segment once the instance is set up. -/
def isPassive : SegmentMode → Bool
  | .passive => true
  | _ => false

end Setup

/-- **The first state of an instance of a program**, or why there is none. -/
def Program.setup (p : Program) (c : Ceilings) : Except SetupFault Store := do
  let m := p.module
  let memories ← Setup.memories c m.memories.toList
  let globals := m.globals.foldl (fun acc g => acc.push (Setup.evalConst acc g.init [])) #[]
  let elems := m.elems.toList.map fun e =>
    (e.mode, e.items.map fun item => Setup.evalConst globals item [])
  let s : Store :=
    { memories := memories.toArray
      tables := m.tables.map (Setup.tableOf c)
      globals := globals
      data := m.data.map fun d => if Setup.isPassive d.mode then d.bytes else ByteArray.empty
      elems := (elems.map fun (mode, words) => if Setup.isPassive mode then words else []).toArray
      fuel := Fuel.full c.fuel
      deadline := c.deadline
      memoryLimit := c.memoryBytes }
  let s ← Setup.placeElems s elems
  Setup.placeData s m.data.toList

/-- What is exported under a name, if it is a function: its index and type. -/
def Program.function? (p : Program) (name : String) : Option (Nat × FuncType) :=
  match p.module.export? name with
  | some (.func index) => (p.funcTypes[index]?).map fun type => (index, type)
  | _ => none

/-- The index of the memory exported under a name. -/
def Program.memory? (p : Program) (name : String) : Option Nat :=
  match p.module.export? name with
  | some (.memory index) => some index
  | _ => none

end Wasm
end FunctionHost

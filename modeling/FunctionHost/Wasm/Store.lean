import FunctionHost.Wasm.Memory
import FunctionHost.Wasm.Trap
/-!
# The state of an instance

Everything that guest code can change: memories, tables, globals, the segments not yet dropped,
and the fuel.  Fuel is kept as a budget and what has been spent of it; guest code may run over the
budget a little before it notices, so what remains is the truncated difference.
-/
namespace FunctionHost
namespace Wasm

/-- **A fuel account.** -/
structure Fuel where
  /-- What may be spent. -/
  budget : Nat
  /-- What has been spent and recorded. -/
  spent : Nat
  deriving DecidableEq, Repr, Inhabited

namespace Fuel

/-- A full account. -/
def full (budget : Nat) : Fuel := ⟨budget, 0⟩

/-- What is left; nothing once the budget is overrun. -/
def remaining (f : Fuel) : Nat := f.budget - f.spent

@[simp] theorem remaining_full (budget : Nat) : (full budget).remaining = budget := by
  simp [full, remaining]

end Fuel

/-- A table of references. -/
structure Table where
  /-- The references. -/
  elements : Array Word
  /-- The number of elements that it may grow to. -/
  max : Nat
  deriving Inhabited

namespace Table

/-- Whether `count` elements from `start` on exist. -/
def fits (t : Table) (start count : Nat) : Bool := start + count ≤ t.elements.size

/-- Writes references one after another. -/
def writeFrom (elements : Array Word) (start : Nat) : List Word → Array Word
  | [] => elements
  | w :: rest => writeFrom (elements.set! start w) (start + 1) rest

/-- The table after references were copied to `start`. -/
def blit (t : Table) (start : Nat) (words : List Word) : Table :=
  { t with elements := writeFrom t.elements start words }

/-- The table with more elements, unless that exceeds its maximum. -/
def grow (t : Table) (more : Nat) (value : Word) : Option Table :=
  if t.elements.size + more ≤ t.max then
    some { t with elements := t.elements ++ Array.replicate more value }
  else none

end Table

/-- **The state of an instance.** -/
structure Store where
  /-- The memories. -/
  memories : Array Memory
  /-- The tables. -/
  tables : Array Table
  /-- The globals. -/
  globals : Array Word
  /-- The data segments; a dropped one is empty. -/
  data : Array Bytes
  /-- The element segments; a dropped one is empty. -/
  elems : Array (List Word)
  /-- The fuel account. -/
  fuel : Fuel
  /-- The epoch at which guest code is stopped, if it ever is. -/
  deadline : Option Nat
  /-- The bytes that no memory may grow beyond. -/
  memoryLimit : Nat
  deriving Inhabited

namespace Store

/-- The memory with an index; an empty one if there is none. -/
@[inline] def memory (s : Store) (index : Nat) : Memory := s.memories[index]?.getD default

/-- The state with one memory changed. -/
@[inline] def withMemory (s : Store) (index : Nat) (change : Memory → Memory) : Store :=
  { s with memories := s.memories.modify index change }

/-- The table with an index; an empty one if there is none. -/
def table (s : Store) (index : Nat) : Table := s.tables[index]?.getD default

/-- The state with one table changed. -/
def withTable (s : Store) (index : Nat) (change : Table → Table) : Store :=
  { s with tables := s.tables.modify index change }

/-- The state with another amount of fuel spent. -/
@[inline] def spend (s : Store) (spent : Nat) : Store :=
  { s with fuel := { s.fuel with spent := spent } }

/-- The state with a full account. -/
def refuel (s : Store) (budget : Nat) : Store := { s with fuel := Fuel.full budget }

/-- Whether the epoch has come to the deadline. -/
@[inline] def expired (s : Store) (epoch : Nat) : Bool :=
  match s.deadline with
  | none => false
  | some deadline => deadline ≤ epoch

end Store
end Wasm
end FunctionHost

/-!
# Traps

The ways in which guest code is stopped, each with the code that callers see and the text that
messages carry.
-/
namespace FunctionHost
namespace Wasm

/-- **A trap.** -/
inductive Trap where
  /-- Calls were nested too deeply. -/
  | stackOverflow
  /-- An access outside memory. -/
  | memoryOutOfBounds
  /-- An access outside a table. -/
  | tableOutOfBounds
  /-- A call through an empty table element. -/
  | indirectCallToNull
  /-- A call through a table element of another type. -/
  | badSignature
  /-- An arithmetic result outside its range. -/
  | integerOverflow
  /-- Division by zero. -/
  | integerDivisionByZero
  /-- Conversion of something that is not a number. -/
  | badConversionToInteger
  /-- The guest reached code that it said it would not reach. -/
  | unreachableCodeReached
  /-- The epoch reached the guest's deadline. -/
  | interrupt
  /-- The fuel was used up. -/
  | outOfFuel
  deriving DecidableEq, Repr, Inhabited

namespace Trap

/-- The code that callers see. -/
def code : Trap → String
  | .stackOverflow => "StackOverflow"
  | .memoryOutOfBounds => "MemoryOutOfBounds"
  | .tableOutOfBounds => "TableOutOfBounds"
  | .indirectCallToNull => "IndirectCallToNull"
  | .badSignature => "BadSignature"
  | .integerOverflow => "IntegerOverflow"
  | .integerDivisionByZero => "IntegerDivisionByZero"
  | .badConversionToInteger => "BadConversionToInteger"
  | .unreachableCodeReached => "UnreachableCodeReached"
  | .interrupt => "Interrupt"
  | .outOfFuel => "OutOfFuel"

/-- What happened, in words. -/
def description : Trap → String
  | .stackOverflow => "call stack exhausted"
  | .memoryOutOfBounds => "out of bounds memory access"
  | .tableOutOfBounds => "undefined element: out of bounds table access"
  | .indirectCallToNull => "uninitialized element"
  | .badSignature => "indirect call type mismatch"
  | .integerOverflow => "integer overflow"
  | .integerDivisionByZero => "integer divide by zero"
  | .badConversionToInteger => "invalid conversion to integer"
  | .unreachableCodeReached => "wasm `unreachable` instruction executed"
  | .interrupt => "interrupt"
  | .outOfFuel => "all fuel consumed by WebAssembly"

/-- The text of the trap in messages. -/
def message (t : Trap) : String := "wasm trap: " ++ t.description

end Trap
end Wasm
end FunctionHost

/-!
# Types of guest code

The value types of WebAssembly, the types of functions, tables, memories and globals, and the
texts in which function types appear in messages.
-/
namespace FunctionHost
namespace Wasm

/-- **A machine word.**  Every operand takes one: an `i32` or `f32` its low half, a reference the
index of what it refers to. -/
abbrev Word := UInt64

/-- The type of an operand. -/
inductive ValueType where
  /-- 32-bit integers. -/
  | i32
  /-- 64-bit integers. -/
  | i64
  /-- Single-precision floats. -/
  | f32
  /-- Double-precision floats. -/
  | f64
  /-- References to functions. -/
  | funcref
  deriving DecidableEq, Repr, Inhabited

namespace ValueType

/-- The name of the type. -/
def name : ValueType → String
  | .i32 => "i32"
  | .i64 => "i64"
  | .f32 => "f32"
  | .f64 => "f64"
  | .funcref => "funcref"

/-- References are the types with a null. -/
def isReference : ValueType → Bool
  | .funcref => true
  | .i32 | .i64 | .f32 | .f64 => false

end ValueType

/-- The word that stands for a null reference. -/
def nullReference : Word := 0xFFFFFFFFFFFFFFFF

/-- The word that a variable of a type holds before anything is stored in it. -/
def defaultWord (type : ValueType) : Word := if type.isReference then nullReference else 0

/-- **The type of a function**: what it takes and what it leaves, both in order. -/
structure FuncType where
  /-- Types of the parameters. -/
  params : List ValueType
  /-- Types of the results. -/
  results : List ValueType
  deriving DecidableEq, Repr, Inhabited

namespace FuncType

/-- One bracketed group of a function type, left out when it is empty. -/
def group (keyword : String) (types : List ValueType) : String :=
  if types.isEmpty then ""
  else " (" ++ keyword ++ " " ++ " ".intercalate (types.map ValueType.name) ++ ")"

/-- The type as messages show it: `(func (param i32) (result i64))`. -/
def shown (type : FuncType) : String :=
  "(func" ++ group "param" type.params ++ group "result" type.results ++ ")"

end FuncType

/-- A lower and an optional upper bound on a size. -/
structure Limits where
  /-- The size to begin with. -/
  min : Nat
  /-- The size never to exceed. -/
  max : Option Nat
  deriving DecidableEq, Repr, Inhabited

/-- The type of a table: what it holds, and how many. -/
structure TableType where
  /-- The type of the elements. -/
  element : ValueType
  /-- How many there are. -/
  limits : Limits
  deriving DecidableEq, Repr, Inhabited

/-- The type of a global variable. -/
structure GlobalType where
  /-- The type of the value. -/
  value : ValueType
  /-- Whether it may be set. -/
  writable : Bool
  deriving DecidableEq, Repr, Inhabited

/-- Bytes in a page of memory. -/
def pageSize : Nat := 65536

/-- The largest number of pages that addresses of 32 bits reach. -/
def maxPages : Nat := 65536

end Wasm
end FunctionHost

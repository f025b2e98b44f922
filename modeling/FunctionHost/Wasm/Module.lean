import FunctionHost.Bytes
import FunctionHost.Wasm.Operator
/-!
# Modules

What a guest module consists of, whichever format it was read from: types, imports, functions,
tables, memories, globals, exports, segments and bodies.  Imported entities come before the
module's own in every index space.
-/
namespace FunctionHost
namespace Wasm

/-- What an import asks for. -/
inductive ImportKind where
  /-- A function of a type of the module. -/
  | func (type : Nat)
  /-- A table. -/
  | table (type : TableType)
  /-- A memory. -/
  | memory (limits : Limits)
  /-- A global. -/
  | global (type : GlobalType)
  deriving Repr, Inhabited

/-- An import: two names and what they must stand for. -/
structure Import where
  /-- The name of the module that provides it. -/
  space : String
  /-- Its name there. -/
  name : String
  /-- What it must be. -/
  kind : ImportKind
  deriving Repr, Inhabited

/-- What an export offers, by index. -/
inductive ExportKind where
  /-- A function. -/
  | func (index : Nat)
  /-- A table. -/
  | table (index : Nat)
  /-- A memory. -/
  | memory (index : Nat)
  /-- A global. -/
  | global (index : Nat)
  deriving DecidableEq, Repr, Inhabited

/-- An export. -/
structure Export where
  /-- The name it has outside. -/
  name : String
  /-- What it is. -/
  kind : ExportKind
  deriving DecidableEq, Repr, Inhabited

/-- A constant expression: the operators before its end. -/
abbrev ConstExpr := List Operator

/-- A global of the module. -/
structure GlobalDef where
  /-- Its type. -/
  type : GlobalType
  /-- Its first value. -/
  init : ConstExpr
  deriving Repr, Inhabited

/-- How a segment is used. -/
inductive SegmentMode where
  /-- Copied on demand. -/
  | passive
  /-- Copied to a memory or table when the module is instantiated. -/
  | active (target : Nat) (offset : ConstExpr)
  /-- Only declares its functions. -/
  | declared
  deriving Repr, Inhabited

/-- Elements for tables. -/
structure ElemSegment where
  /-- The type of the elements. -/
  type : ValueType
  /-- The elements, each a constant expression. -/
  items : List ConstExpr
  /-- How it is used. -/
  mode : SegmentMode
  deriving Repr, Inhabited

/-- Bytes for memories. -/
structure DataSegment where
  /-- The bytes. -/
  bytes : Bytes
  /-- How it is used. -/
  mode : SegmentMode
  deriving Inhabited

/-- The body of a function: its locals beyond the parameters, and its operators, of which the
last closes the body. -/
structure FuncBody where
  /-- Types of the locals, without the parameters. -/
  locals : List ValueType
  /-- The operators. -/
  operators : List Operator
  deriving Inhabited

/-- **A module**, as read. -/
structure Module where
  /-- Function types. -/
  types : Array FuncType := #[]
  /-- Imports, in order. -/
  imports : Array Import := #[]
  /-- The types of the module's own functions. -/
  funcs : Array Nat := #[]
  /-- The module's own tables. -/
  tables : Array TableType := #[]
  /-- The module's own memories. -/
  memories : Array Limits := #[]
  /-- The module's own globals. -/
  globals : Array GlobalDef := #[]
  /-- Exports, in order. -/
  exports : Array Export := #[]
  /-- The function to run when the module is instantiated. -/
  start : Option Nat := none
  /-- Element segments. -/
  elems : Array ElemSegment := #[]
  /-- Data segments. -/
  data : Array DataSegment := #[]
  /-- How many data segments the module announced before its code, if it did. -/
  dataCount : Option Nat := none
  /-- The bodies of the module's own functions. -/
  bodies : Array FuncBody := #[]
  deriving Inhabited

namespace Module

variable (m : Module)

/-- The type indices of the imported functions. -/
def importedFuncs : List Nat :=
  m.imports.toList.filterMap fun i => match i.kind with | .func t => some t | _ => none

/-- The imported tables. -/
def importedTables : List TableType :=
  m.imports.toList.filterMap fun i => match i.kind with | .table t => some t | _ => none

/-- The imported memories. -/
def importedMemories : List Limits :=
  m.imports.toList.filterMap fun i => match i.kind with | .memory l => some l | _ => none

/-- The imported globals. -/
def importedGlobals : List GlobalType :=
  m.imports.toList.filterMap fun i => match i.kind with | .global g => some g | _ => none

/-- The type indices of all functions. -/
def funcSpace : Array Nat := m.importedFuncs.toArray ++ m.funcs

/-- All tables. -/
def tableSpace : Array TableType := m.importedTables.toArray ++ m.tables

/-- All memories. -/
def memorySpace : Array Limits := m.importedMemories.toArray ++ m.memories

/-- All globals. -/
def globalSpace : Array GlobalType := m.importedGlobals.toArray ++ m.globals.map (·.type)

/-- The type of a function. -/
def funcType? (func : Nat) : Option FuncType := do
  let type ← m.funcSpace[func]?
  m.types[type]?

/-- What is exported under a name. -/
def export? (name : String) : Option ExportKind :=
  (m.exports.find? (·.name == name)).map (·.kind)

/-- The names of the exported functions, in order. -/
def functionNames : List String :=
  m.exports.toList.filterMap fun e => match e.kind with | .func _ => some e.name | _ => none

end Module
end Wasm
end FunctionHost

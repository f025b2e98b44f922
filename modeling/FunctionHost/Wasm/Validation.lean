import FunctionHost.Wasm.Code
/-!
# Validation

A module is accepted if every index is in range, every body is well typed and every constant
expression is constant.  Typing follows the operand stack through a body; after an unconditional
branch the stack is unknown and takes every type.  What typing learns on the way, the height of
the stack at each branch, is what turns the body into code with resolved jumps.
-/
namespace FunctionHost
namespace Wasm
namespace Validation

/-- What a body may refer to. -/
structure Scope where
  /-- Function types. -/
  types : Array FuncType
  /-- The type index of every function. -/
  funcs : Array Nat
  /-- All tables. -/
  tables : Array TableType
  /-- All memories. -/
  memories : Array Limits
  /-- All globals. -/
  globals : Array GlobalType
  /-- How many of the globals are imported. -/
  importedGlobals : Nat
  /-- The types of the element segments. -/
  elems : Array ValueType
  /-- The number of data segments, if it is announced. -/
  dataCount : Option Nat
  /-- The functions that references may be taken to. -/
  declared : List Nat
  /-- The locals of the body, parameters first. -/
  locals : Array ValueType
  /-- What the body leaves. -/
  results : List ValueType

/-- The bracket that opened a block. -/
inductive Bracket where
  /-- A block or the body itself. -/
  | block
  /-- A loop. -/
  | loop
  /-- The first branch of a conditional; the label is where the second begins. -/
  | ifThen (second : Nat)
  deriving DecidableEq

/-- An open block. -/
structure Control where
  /-- What opened it. -/
  bracket : Bracket
  /-- What it takes. -/
  params : List ValueType
  /-- What it leaves. -/
  results : List ValueType
  /-- The height of the stack beneath its operands. -/
  height : Nat
  /-- Whether the code at this point cannot be reached. -/
  dead : Bool
  /-- The label that branches to it go to. -/
  label : Nat

/-- The types that a branch to the block takes along. -/
def Control.labelTypes (c : Control) : List ValueType :=
  match c.bracket with
  | .loop => c.params
  | _ => c.results

/-- How far typing has come.  Operand types are none where the stack is unknown. -/
structure State where
  /-- The operand stack, topmost first. -/
  operands : List (Option ValueType)
  /-- The open blocks, innermost first. -/
  controls : List Control
  /-- The code so far; branches go to labels. -/
  code : Array Instruction
  /-- Where each label is. -/
  labels : Array Nat

/-- A typing step. -/
abbrev Typing (α : Type) := StateT State (Except String) α

/-- Refuses the body. -/
def invalid {α : Type} (reason : String) : Typing α := fun _ => .error reason

/-- What is found, or a refusal. -/
def known {α : Type} (found : Option α) (reason : String) : Typing α :=
  match found with
  | some x => return x
  | none => invalid reason

/-- Appends an instruction. -/
def emit (i : Instruction) : Typing Unit := modify fun s => { s with code := s.code.push i }

/-- A new label, not placed yet. -/
def newLabel : Typing Nat := fun s => .ok (s.labels.size, { s with labels := s.labels.push 0 })

/-- Places a label at the next instruction. -/
def placeLabel (label : Nat) : Typing Unit :=
  modify fun s => { s with labels := s.labels.set! label s.code.size }

/-- The innermost block. -/
def innermost : Typing Control := do
  known (← get).controls.head? "unexpected token after end of function"

/-- Pushes an operand. -/
def push (type : ValueType) : Typing Unit :=
  modify fun s => { s with operands := some type :: s.operands }

/-- Pushes operands, the last topmost. -/
def pushAll (types : List ValueType) : Typing Unit :=
  modify fun s => { s with operands := types.reverse.map some ++ s.operands }

/-- Pops an operand of any type; none is unknown. -/
def popAny : Typing (Option ValueType) := do
  let control ← innermost
  let s ← get
  if s.operands.length ≤ control.height then
    if control.dead then return none else invalid "type mismatch: nothing on stack"
  else
    match s.operands with
    | [] => invalid "type mismatch: nothing on stack"
    | top :: rest =>
      set { s with operands := rest }
      return top

/-- Pops an operand of a type. -/
def pop (type : ValueType) : Typing Unit := do
  match ← popAny with
  | none => return ()
  | some found => if found = type then return () else invalid "type mismatch"

/-- Pops operands, the last topmost. -/
def popAll (types : List ValueType) : Typing Unit := types.reverse.forM pop

/-- The rest of the block cannot be reached. -/
def markDead : Typing Unit := do
  let control ← innermost
  modify fun s =>
    { s with
      operands := s.operands.drop (s.operands.length - control.height)
      controls := { control with dead := true } :: s.controls.tail }

/-- What a block takes and leaves. -/
def blockTypes (scope : Scope) : BlockType → Typing FuncType
  | .empty => return ⟨[], []⟩
  | .value type => return ⟨[], [type]⟩
  | .index type => known scope.types[type]? "unknown type"

/-- Opens a block. -/
def openBlock (bracket : Bracket) (type : FuncType) (label : Nat) : Typing Unit := do
  let height := (← get).operands.length
  modify fun s =>
    { s with controls := ⟨bracket, type.params, type.results, height, false, label⟩ :: s.controls }
  pushAll type.params

/-- Closes the innermost block, whose results must be all that is left on it. -/
def closeBlock : Typing Control := do
  let control ← innermost
  popAll control.results
  let s ← get
  if s.operands.length ≠ control.height then invalid "type mismatch: values remaining on stack"
  else
    set { s with controls := s.controls.tail }
    return control

/-- The block that a branch of the given depth leaves or starts again. -/
def target (depth : Nat) : Typing Control := do
  known (← get).controls[depth]? "unknown label: branch depth too large"

/-- The branch to a block, once its operands have been popped. -/
def branchTo (control : Control) : Typing Branch := do
  let height := (← get).operands.length
  return ⟨control.label, control.labelTypes.length, height - control.height⟩

/-- Pops what a branch takes along, resolves it, and pushes it again. -/
def checkedBranch (control : Control) : Typing Branch := do
  popAll control.labelTypes
  let branch ← branchTo control
  pushAll control.labelTypes
  return branch

/-- The block of every entry of a branch table, all with the same number of operands. -/
def tableBranches (arity : Nat) : List Nat → Typing (List Branch)
  | [] => return []
  | depth :: rest => do
    let control ← target depth
    if control.labelTypes.length ≠ arity then invalid "type mismatch: br_table target labels"
    else
      let branch ← checkedBranch control
      return branch :: (← tableBranches arity rest)

/-- An access to memory: the memory exists and the alignment is not beyond the natural one. -/
def checkAccess (scope : Scope) (bytes : Nat) (arg : MemArg) : Typing Unit := do
  let _ ← known scope.memories[arg.memory]? "unknown memory"
  if bytes < Nat.pow 2 arg.align then invalid "alignment must not be larger than natural"
  else if UInt32.size ≤ arg.offset then invalid "offset out of range"
  else return ()

/-- A data segment that a body refers to. -/
def checkData (scope : Scope) (segment : Nat) : Typing Unit := do
  let count ← known scope.dataCount "data count section required"
  if segment < count then return () else invalid "unknown data segment"

/-- Typing of the operators that are no brackets and no branches. -/
def checkPlain (scope : Scope) (op : Operator) : Typing Unit := do
  match op with
  | .nop => return ()
  | .drop => let _ ← popAny
  | .select none =>
    pop .i32
    let second ← popAny
    let first ← popAny
    match first, second with
    | some a, some b =>
      if a.isReference || a != b then invalid "type mismatch: select" else push a
    | some a, none | none, some a =>
      if a.isReference then invalid "type mismatch: select" else push a
    | none, none => modify fun s => { s with operands := none :: s.operands }
  | .select (some type) =>
    pop .i32
    pop type
    pop type
    push type
  | .localGet i => push (← known scope.locals[i]? "unknown local")
  | .localSet i => pop (← known scope.locals[i]? "unknown local")
  | .localTee i =>
    let type ← known scope.locals[i]? "unknown local"
    pop type
    push type
  | .globalGet i => push (← known scope.globals[i]? "unknown global").value
  | .globalSet i =>
    let global ← known scope.globals[i]? "unknown global"
    if global.writable then pop global.value else invalid "global is immutable"
  | .tableGet t =>
    let table ← known scope.tables[t]? "unknown table"
    pop .i32
    push table.element
  | .tableSet t =>
    let table ← known scope.tables[t]? "unknown table"
    pop table.element
    pop .i32
  | .refNull type => push type
  | .refIsNull =>
    match ← popAny with
    | none => push .i32
    | some type => if type.isReference then push .i32 else invalid "type mismatch: reference"
  | .refFunc f =>
    let _ ← known scope.funcs[f]? "unknown function"
    if scope.declared.contains f then push .funcref else invalid "undeclared function reference"
  | .load shape arg =>
    checkAccess scope shape.bytes arg
    pop .i32
    push shape.type
  | .store shape arg =>
    checkAccess scope shape.bytes arg
    pop shape.type
    pop .i32
  | .memorySize m =>
    let _ ← known scope.memories[m]? "unknown memory"
    push .i32
  | .memoryGrow m =>
    let _ ← known scope.memories[m]? "unknown memory"
    pop .i32
    push .i32
  | .memoryInit segment m =>
    let _ ← known scope.memories[m]? "unknown memory"
    checkData scope segment
    popAll [.i32, .i32, .i32]
  | .dataDrop segment => checkData scope segment
  | .memoryCopy into source =>
    let _ ← known scope.memories[into]? "unknown memory"
    let _ ← known scope.memories[source]? "unknown memory"
    popAll [.i32, .i32, .i32]
  | .memoryFill m =>
    let _ ← known scope.memories[m]? "unknown memory"
    popAll [.i32, .i32, .i32]
  | .tableInit segment t =>
    let table ← known scope.tables[t]? "unknown table"
    let type ← known scope.elems[segment]? "unknown elem segment"
    if type = table.element then popAll [.i32, .i32, .i32] else invalid "type mismatch"
  | .elemDrop segment => let _ ← known scope.elems[segment]? "unknown elem segment"
  | .tableCopy into source =>
    let a ← known scope.tables[into]? "unknown table"
    let b ← known scope.tables[source]? "unknown table"
    if a.element = b.element then popAll [.i32, .i32, .i32] else invalid "type mismatch"
  | .tableGrow t =>
    let table ← known scope.tables[t]? "unknown table"
    pop .i32
    pop table.element
    push .i32
  | .tableSize t =>
    let _ ← known scope.tables[t]? "unknown table"
    push .i32
  | .tableFill t =>
    let table ← known scope.tables[t]? "unknown table"
    pop .i32
    pop table.element
    pop .i32
  | .const type _ => push type
  | .numeric op =>
    popAll op.operands
    push op.result
  | _ => invalid "unexpected operator"

/-- Typing and code of one operator. -/
def checkOperator (scope : Scope) (op : Operator) : Typing Unit := do
  match op with
  | .unreachable =>
    emit .unreachable
    markDead
  | .block type =>
    let type ← blockTypes scope type
    popAll type.params
    openBlock .block type (← newLabel)
  | .loop type =>
    let type ← blockTypes scope type
    popAll type.params
    let label ← newLabel
    placeLabel label
    emit .loopHead
    openBlock .loop type label
  | .ifThen type =>
    let type ← blockTypes scope type
    pop .i32
    popAll type.params
    let second ← newLabel
    emit (.skipUnless second)
    openBlock (.ifThen second) type (← newLabel)
  | .elseOf =>
    let control ← closeBlock
    match control.bracket with
    | .ifThen second =>
      emit (.jump control.label)
      placeLabel second
      openBlock .block ⟨control.params, control.results⟩ control.label
    | _ => invalid "else found outside of an if block"
  | .endOf =>
    let control ← closeBlock
    match control.bracket with
    | .loop => return ()
    | .block => placeLabel control.label
    | .ifThen second =>
      if control.params = control.results then
        placeLabel second
        placeLabel control.label
      else invalid "type mismatch: if without else"
    if (← get).controls.isEmpty then emit .ret else pushAll control.results
  | .br depth =>
    let control ← target depth
    popAll control.labelTypes
    emit (.branch (← branchTo control))
    markDead
  | .brIf depth =>
    pop .i32
    let control ← target depth
    emit (.branchIf (← checkedBranch control))
  | .brTable depths otherwise =>
    pop .i32
    let control ← target otherwise
    let branches ← tableBranches control.labelTypes.length depths
    popAll control.labelTypes
    emit (.branchTable branches.toArray (← branchTo control))
    markDead
  | .ret =>
    popAll scope.results
    emit .ret
    markDead
  | .call f =>
    let index ← known scope.funcs[f]? "unknown function"
    let type ← known scope.types[index]? "unknown type"
    popAll type.params
    pushAll type.results
    emit (.call f)
  | .callIndirect index t =>
    let table ← known scope.tables[t]? "unknown table"
    let type ← known scope.types[index]? "unknown type"
    if table.element ≠ .funcref then invalid "indirect calls must go through a table of functions"
    else
      pop .i32
      popAll type.params
      pushAll type.results
      emit (.callIndirect index t)
  | op =>
    checkPlain scope op
    emit (.plain op)

/-- Typing and code of a body: every operator stands inside an open block, and the last one
closes the body. -/
def checkBody (scope : Scope) (operators : List Operator) : Typing Unit := do
  openBlock .block ⟨[], scope.results⟩ (← newLabel)
  operators.forM (checkOperator scope)
  if (← get).controls.isEmpty then return () else invalid "control frames remain at end of function"

/-- The code of a function. -/
def funcCode (scope : Scope) (type : FuncType) (body : FuncBody) : Except String FuncCode :=
  let scope :=
    { scope with locals := (type.params ++ body.locals).toArray, results := type.results }
  match checkBody scope body.operators ⟨[], [], #[], #[]⟩ with
  | .error reason => .error reason
  | .ok (_, s) =>
    .ok
      { type := type
        locals := (body.locals.map defaultWord).toArray
        body := s.code.map (·.relocate fun label => s.labels[label]?.getD 0) }

/-- The types on the stack after a constant expression, if it is one. -/
def constStack (scope : Scope) : ConstExpr → List ValueType → Except String (List ValueType)
  | [], stack => .ok stack
  | op :: rest, stack =>
    match op with
    | .const type _ => constStack scope rest (type :: stack)
    | .refNull type => constStack scope rest (type :: stack)
    | .refFunc f =>
      if f < scope.funcs.size then constStack scope rest (.funcref :: stack)
      else .error "unknown function"
    | .globalGet i =>
      match scope.globals[i]? with
      | none => .error "unknown global"
      | some global =>
        if i < scope.importedGlobals && !global.writable then
          constStack scope rest (global.value :: stack)
        else .error "constant expression required"
    | .numeric (.intBinary w op) =>
      match op, stack with
      | .add, a :: b :: below | .sub, a :: b :: below | .mul, a :: b :: below =>
        if a = w.intType ∧ b = w.intType then constStack scope rest (a :: below)
        else .error "type mismatch"
      | _, _ => .error "constant expression required"
    | _ => .error "constant expression required"

/-- A constant expression of a type. -/
def checkConst (scope : Scope) (type : ValueType) (expr : ConstExpr) : Except String Unit :=
  match constStack scope expr [] with
  | .error reason => .error reason
  | .ok [found] => if found = type then .ok () else .error "type mismatch"
  | .ok _ => .error "type mismatch"

/-- The functions that an expression refers to. -/
def referredFuncs (expr : ConstExpr) : List Nat :=
  expr.filterMap fun op => match op with | .refFunc f => some f | _ => none

/-- The functions that references may be taken to: those that the module names outside its
bodies. -/
def declaredFuncs (m : Module) : List Nat :=
  let exported := m.exports.toList.filterMap fun e =>
    match e.kind with | .func f => some f | _ => none
  let inGlobals := m.globals.toList.flatMap fun g => referredFuncs g.init
  let inElems := m.elems.toList.flatMap fun e => e.items.flatMap referredFuncs
  exported ++ inGlobals ++ inElems

/-- What the bodies of a module may refer to. -/
def scopeOf (m : Module) : Scope :=
  { types := m.types
    funcs := m.funcSpace
    tables := m.tableSpace
    memories := m.memorySpace
    globals := m.globalSpace
    importedGlobals := m.importedGlobals.length
    elems := m.elems.map (·.type)
    dataCount := m.dataCount
    declared := declaredFuncs m
    locals := #[]
    results := [] }

/-- Bounds of which neither is beyond the greatest size, and which are in order. -/
def checkLimits (greatest : Nat) (limits : Limits) : Except String Unit :=
  if greatest < limits.min || greatest < limits.max.getD 0 then .error "size out of bounds"
  else if limits.max.any (· < limits.min) then .error "size minimum must not exceed maximum"
  else .ok ()

/-- The most elements that a table may begin with. -/
def maxTableElements : Nat := 10000000

/-- Bounds of a table. -/
def checkTable (table : TableType) : Except String Unit := do
  checkLimits (UInt32.size - 1) table.limits
  if maxTableElements < table.limits.min then .error "minimum table size is out of bounds"

/-- The most memories, and the most tables, that a module may have. -/
def maxSpaces : Nat := 100

/-- An import names a type that exists and has usable bounds. -/
def checkImport (m : Module) (i : Import) : Except String Unit :=
  match i.kind with
  | .func type => if type < m.types.size then .ok () else .error "unknown type"
  | .table type => checkTable type
  | .memory limits => checkLimits maxPages limits
  | .global _ => .ok ()

/-- An export names something that exists. -/
def checkExport (scope : Scope) (e : Export) : Except String Unit :=
  let found := match e.kind with
    | .func i => decide (i < scope.funcs.size)
    | .table i => decide (i < scope.tables.size)
    | .memory i => decide (i < scope.memories.size)
    | .global i => decide (i < scope.globals.size)
  if found then .ok () else .error "unknown export index"

/-- An element segment: its elements are constant, and an active one fits its table. -/
def checkElem (scope : Scope) (e : ElemSegment) : Except String Unit := do
  e.items.forM (checkConst scope e.type)
  match e.mode with
  | .active table offset =>
    match scope.tables[table]? with
    | none => .error "unknown table"
    | some type =>
      if type.element = e.type then checkConst scope .i32 offset else .error "type mismatch"
  | _ => .ok ()

/-- A data segment: an active one names a memory. -/
def checkDataSegment (scope : Scope) (d : DataSegment) : Except String Unit :=
  match d.mode with
  | .active memory offset =>
    if memory < scope.memories.size then checkConst scope .i32 offset else .error "unknown memory"
  | _ => .ok ()

/-- The start function takes and leaves nothing. -/
def checkStart (m : Module) : Except String Unit :=
  match m.start with
  | none => .ok ()
  | some f => if m.funcType? f = some ⟨[], []⟩ then .ok () else .error "invalid start function"

/-- The type of a function by type index. -/
def typeAt (m : Module) (index : Nat) : Except String FuncType :=
  match m.types[index]? with
  | some type => .ok type
  | none => .error "unknown type"

/-- **The program that a module is**, or what is invalid about it. -/
def validate (m : Module) : Except String Program := do
  let scope := scopeOf m
  m.imports.toList.forM (checkImport m)
  let funcTypes ← m.funcSpace.toList.mapM (typeAt m)
  m.tables.toList.forM checkTable
  m.memories.toList.forM (checkLimits maxPages)
  if maxSpaces < scope.memories.size || maxSpaces < scope.tables.size then
    .error "too many memories or tables"
  m.globals.toList.forM fun g => checkConst scope g.type.value g.init
  m.exports.toList.forM (checkExport scope)
  if (m.exports.toList.map (·.name)).eraseDups.length ≠ m.exports.size then
    .error "duplicate export name"
  checkStart m
  m.elems.toList.forM (checkElem scope)
  m.data.toList.forM (checkDataSegment scope)
  let ownTypes := funcTypes.drop m.importedFuncs.length
  let code ← (ownTypes.zip m.bodies.toList).mapM fun (type, body) => funcCode scope type body
  return ⟨m, m.importedFuncs.length, funcTypes.toArray, code.toArray⟩

end Validation
end Wasm
end FunctionHost

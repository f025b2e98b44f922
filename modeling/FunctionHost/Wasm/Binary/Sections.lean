import FunctionHost.Wasm.Binary.Operators
/-!
# Modules in the binary format

A module is a header and a row of sections, each with a number, a size and content.  Custom
sections stand anywhere and are skipped; every other section stands at most once, in order.
`decode` reads a whole module.
-/
namespace FunctionHost
namespace Wasm
namespace Binary

/-- Parameters or results a function type may have. -/
def maxArity : Nat := 1000

/-- Locals a function may have. -/
def maxLocals : Nat := 50000

/-- A function type. -/
def funcType : Reader FuncType := do
  if (← byte) != 0x60 then malformed "invalid type form"
  else
    let params ← vector valueType
    let results ← vector valueType
    if maxArity < params.size || maxArity < results.size then malformed "function type too large"
    else return ⟨params.toList, results.toList⟩

/-- Bounds on a size. -/
def limits : Reader Limits := do
  match ← byte with
  | 0x00 => return ⟨← u32, none⟩
  | 0x01 =>
    let min ← u32
    return ⟨min, some (← u32)⟩
  | _ => malformed "invalid limits flags"

/-- The type of a table. -/
def tableType : Reader TableType := do
  let element ← refType
  return ⟨element, ← limits⟩

/-- The type of a global. -/
def globalType : Reader GlobalType := do
  let value ← valueType
  match ← byte with
  | 0x00 => return ⟨value, false⟩
  | 0x01 => return ⟨value, true⟩
  | _ => malformed "malformed mutability"

/-- An import. -/
def importEntry : Reader Import := do
  let space ← name
  let field ← name
  match ← byte with
  | 0x00 => return ⟨space, field, .func (← u32)⟩
  | 0x01 => return ⟨space, field, .table (← tableType)⟩
  | 0x02 => return ⟨space, field, .memory (← limits)⟩
  | 0x03 => return ⟨space, field, .global (← globalType)⟩
  | _ => malformed "malformed import kind"

/-- An export. -/
def exportEntry : Reader Export := do
  let field ← name
  match ← byte with
  | 0x00 => return ⟨field, .func (← u32)⟩
  | 0x01 => return ⟨field, .table (← u32)⟩
  | 0x02 => return ⟨field, .memory (← u32)⟩
  | 0x03 => return ⟨field, .global (← u32)⟩
  | _ => malformed "malformed export kind"

/-- A global. -/
def globalDef : Reader GlobalDef := do
  let type ← globalType
  return ⟨type, ← constExpression⟩

/-- The elements of a segment that lists functions. -/
def funcItems : Reader (List ConstExpr) := do
  return (← vector u32).toList.map fun func => [Operator.refFunc func]

/-- The elements of a segment that lists expressions. -/
def exprItems : Reader (List ConstExpr) := do
  return (← vector constExpression).toList

/-- The kind byte of a segment that lists functions. -/
def elemKind : Reader Unit := do
  if (← byte) != 0x00 then malformed "malformed element kind"

/-- An element segment; the lowest three bits of its first number say which parts follow. -/
def elemSegment : Reader ElemSegment := do
  match ← u32 with
  | 0 =>
    let offset ← constExpression
    return ⟨.funcref, ← funcItems, .active 0 offset⟩
  | 1 => do
    elemKind
    return ⟨.funcref, ← funcItems, .passive⟩
  | 2 =>
    let table ← u32
    let offset ← constExpression
    elemKind
    return ⟨.funcref, ← funcItems, .active table offset⟩
  | 3 => do
    elemKind
    return ⟨.funcref, ← funcItems, .declared⟩
  | 4 =>
    let offset ← constExpression
    return ⟨.funcref, ← exprItems, .active 0 offset⟩
  | 5 =>
    let type ← refType
    return ⟨type, ← exprItems, .passive⟩
  | 6 =>
    let table ← u32
    let offset ← constExpression
    let type ← refType
    return ⟨type, ← exprItems, .active table offset⟩
  | 7 =>
    let type ← refType
    return ⟨type, ← exprItems, .declared⟩
  | _ => malformed "malformed elements segment kind"

/-- A data segment. -/
def dataSegment : Reader DataSegment := do
  match ← u32 with
  | 0 =>
    let offset ← constExpression
    return ⟨← take (← u32), .active 0 offset⟩
  | 1 => return ⟨← take (← u32), .passive⟩
  | 2 =>
    let memory ← u32
    let offset ← constExpression
    return ⟨← take (← u32), .active memory offset⟩
  | _ => malformed "malformed data segment kind"

/-- A run of locals of one type. -/
def localRun : Reader (Nat × ValueType) := do
  let count ← u32
  return (count, ← valueType)

/-- The body of a function. -/
def funcBody : Reader FuncBody := do
  let runs ← vector localRun
  if maxLocals < runs.foldl (fun total run => total + run.1) 0 then malformed "too many locals"
  else
    let locals := runs.toList.flatMap fun (count, type) => List.replicate count type
    return ⟨locals, ← expression⟩

/-- The body of a function behind its size. -/
def sizedBody : Reader FuncBody := do
  let size ← u32
  within size funcBody

/-- The place of a section in the order that sections keep. -/
def sectionRank : Nat → Option Nat
  | 12 => some 10
  | 10 => some 11
  | 11 => some 12
  | id => if 1 ≤ id ∧ id ≤ 9 then some id else none

/-- The module with the content of one section added. -/
def sectionContent (id : Nat) (m : Module) : Reader Module := do
  match id with
  | 1 => return { m with types := ← vector funcType }
  | 2 => return { m with imports := ← vector importEntry }
  | 3 => return { m with funcs := ← vector u32 }
  | 4 => return { m with tables := ← vector tableType }
  | 5 => return { m with memories := ← vector limits }
  | 6 => return { m with globals := ← vector globalDef }
  | 7 => return { m with exports := ← vector exportEntry }
  | 8 => return { m with start := some (← u32) }
  | 9 => return { m with elems := ← vector elemSegment }
  | 10 => return { m with bodies := ← vector sizedBody }
  | 11 => return { m with data := ← vector dataSegment }
  | 12 => return { m with dataCount := some (← u32) }
  | _ => malformed "malformed section id"

/-- A custom section: its name must be one, the rest is skipped. -/
def customSection : Reader Unit := do
  let _ ← name
  let _ ← take (← remaining)

/-- The sections that are left, each later in the order than `rank`.  A section takes at least two
bytes, so as many steps as there are bytes are enough. -/
def sectionsFrom : Nat → Nat → Module → Reader Module
  | 0, _, m => return m
  | steps + 1, rank, m => do
    if (← remaining) = 0 then return m
    else
      let id := (← byte).toNat
      let size ← u32
      if id = 0 then
        within size customSection
        sectionsFrom steps rank m
      else
        match sectionRank id with
        | none => malformed "malformed section id"
        | some next =>
          if next ≤ rank then malformed "section out of order"
          else sectionsFrom steps next (← within size (sectionContent id m))

/-- The four bytes that begin every module. -/
def magic : Bytes := ⟨#[0x00, 0x61, 0x73, 0x6D]⟩

/-- The version that this reader knows. -/
def version : Bytes := ⟨#[0x01, 0x00, 0x00, 0x00]⟩

/-- A whole module. -/
def moduleBody : Reader Module := do
  if !(Bytes.same (← take 4) magic) then malformed "magic header not detected"
  else if !(Bytes.same (← take 4) version) then malformed "unknown binary version"
  else sectionsFrom (← remaining) 0 {}

/-- Whether the counts that different sections give agree. -/
def countsAgree (m : Module) : Bool :=
  m.funcs.size == m.bodies.size && (m.dataCount.isNone || m.dataCount == some m.data.size)

/-- **The module that a byte string is**, or what is malformed about it. -/
def decode (bytes : Bytes) : Except String Module :=
  match moduleBody ⟨bytes, 0, bytes.size⟩ with
  | .error reason => .error reason
  | .ok (m, _) => if countsAgree m then .ok m else .error "function and code section disagree"

end Binary
end Wasm
end FunctionHost

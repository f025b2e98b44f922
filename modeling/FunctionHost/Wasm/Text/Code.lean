import FunctionHost.Wasm.Module
import FunctionHost.Wasm.Opcode
import FunctionHost.Wasm.Text.Literal
/-!
# Code in the text format

Operators with their immediates, flat or folded.  A folded operator stands behind its operands in
the flat sequence that is the result; names of functions, locals, labels and so on are replaced by
indices.
-/
namespace FunctionHost
namespace Wasm
namespace Text

/-- The names in each index space of a module, in order. -/
structure Spaces where
  /-- Types. -/
  types : List (Option String) := []
  /-- Functions. -/
  funcs : List (Option String) := []
  /-- Tables. -/
  tables : List (Option String) := []
  /-- Memories. -/
  memories : List (Option String) := []
  /-- Globals. -/
  globals : List (Option String) := []
  /-- Element segments. -/
  elems : List (Option String) := []
  /-- Data segments. -/
  data : List (Option String) := []
  deriving Inhabited

/-- What is known and what has been read while code is read. -/
structure Build where
  /-- The names of the module. -/
  spaces : Spaces := {}
  /-- The types, to which types that are only written inline are added. -/
  types : Array FuncType := #[]
  /-- The names of the locals. -/
  locals : List (Option String) := []
  /-- The names of the open blocks, innermost first. -/
  labels : List (Option String) := []
  /-- The operators read so far. -/
  operators : Array Operator := #[]
  deriving Inhabited

/-- A reader of token trees. -/
abbrev Elab (α : Type) := StateT Build (Except String) α

namespace Code

/-- Whether a word is a name. -/
def isName (chars : String) : Bool := chars.startsWith "$" && 1 < chars.length

/-- Whether a word is a name or a number, so that it can be an index. -/
def isIndex (chars : String) : Bool := isName chars || (Literal.nat? chars).isSome

/-- The index that a word stands for in a space. -/
def resolve (space : List (Option String)) (chars : String) : Elab Nat :=
  if isName chars then
    match space.findIdx? (· == some chars) with
    | some index => pure index
    | none => throw ("unknown name " ++ chars)
  else
    match Literal.nat? chars with
    | some index => pure index
    | none => throw "expected an index"

/-- An index and the rest behind it. -/
def index (space : List (Option String)) : List Tree → Elab (Nat × List Tree)
  | .word chars :: rest => return (← resolve space chars, rest)
  | _ => throw "expected an index"

/-- An index if there is one, else the first one there is. -/
def indexOrZero (space : List (Option String)) : List Tree → Elab (Nat × List Tree)
  | .word chars :: rest =>
    if isIndex chars then return (← resolve space chars, rest) else return (0, .word chars :: rest)
  | trees => return (0, trees)

/-- Two indices if there are any, else zeros. -/
def twoIndices (space : List (Option String)) (trees : List Tree) :
    Elab (Nat × Nat × List Tree) :=
  match trees with
  | .word chars :: _ =>
    if isIndex chars then do
      let (first, rest) ← index space trees
      let (second, rest) ← index space rest
      return (first, second, rest)
    else return (0, 0, trees)
  | _ => return (0, 0, trees)

/-- An index of an outer space, which may be left out, and one of an inner space. -/
def outerAndInner (outer inner : List (Option String)) (trees : List Tree) :
    Elab (Nat × Nat × List Tree) := do
  match trees with
  | .word _ :: .word second :: rest =>
    if isIndex second then
      let (first, _) ← index outer trees
      return (first, ← resolve inner second, rest)
    else
      let (only, rest) ← index inner trees
      return (0, only, rest)
  | _ =>
    let (only, rest) ← index inner trees
    return (0, only, rest)

/-- A type of operands. -/
def valueType? : Tree → Option ValueType
  | .word "i32" => some .i32
  | .word "i64" => some .i64
  | .word "f32" => some .f32
  | .word "f64" => some .f64
  | .word "funcref" | .word "anyfunc" => some .funcref
  | .group [.word "ref", .word "null", .word "func"] => some .funcref
  | _ => none

/-- Types of operands and nothing else. -/
def valueTypes (trees : List Tree) : Elab (List ValueType) :=
  match trees.mapM valueType? with
  | some types => pure types
  | none => throw "expected types"

/-- Declared variables: one with a name, or any number without. -/
def declared (trees : List Tree) : Elab (List (Option String × ValueType)) := do
  match trees with
  | .word chars :: rest =>
    if isName chars then
      match ← valueTypes rest with
      | [type] => return [(some chars, type)]
      | _ => throw "expected one type"
    else return (← valueTypes trees).map (none, ·)
  | _ => return (← valueTypes trees).map (none, ·)

/-- Groups that begin with a keyword and declare variables. -/
def declarations (keyword : String) :
    List Tree → Elab (List (Option String × ValueType) × List Tree)
  | .group (.word head :: items) :: rest =>
    if head = keyword then do
      let first ← declared items
      let (others, rest) ← declarations keyword rest
      return (first ++ others, rest)
    else return ([], .group (.word head :: items) :: rest)
  | trees => return ([], trees)

/-- A function type that is written out: the names of its parameters, the type and the rest. -/
def signature (trees : List Tree) : Elab (List (Option String) × FuncType × List Tree) := do
  let (params, rest) ← declarations "param" trees
  let (results, rest) ← declarations "result" rest
  if results.any (·.1.isSome) then throw "results have no names"
  return (params.map (·.1), ⟨params.map (·.2), results.map (·.2)⟩, rest)

/-- The index of a type; one that is not there yet is added. -/
def internType (type : FuncType) : Elab Nat := do
  let b ← get
  match b.types.findIdx? (· == type) with
  | some found => return found
  | none =>
    set { b with types := b.types.push type }
    return b.types.size

/-- The type of a function, by reference, written out, or both: its index if it was referred to,
the names of its parameters, the type and the rest. -/
def typeUse (trees : List Tree) :
    Elab (Option Nat × List (Option String) × FuncType × List Tree) := do
  match trees with
  | .group [.word "type", .word chars] :: rest =>
    let b ← get
    let found ← resolve b.spaces.types chars
    match b.types[found]? with
    | none => throw "unknown type"
    | some type =>
      let (names, written, rest) ← signature rest
      if names.isEmpty && written.results.isEmpty then
        return (some found, type.params.map fun _ => none, type, rest)
      else if written = type then return (some found, names, type, rest)
      else throw "inline function type does not match type reference"
  | _ =>
    let (names, type, rest) ← signature trees
    return (none, names, type, rest)

/-- The type of a block. -/
def blockType (trees : List Tree) : Elab (BlockType × List Tree) := do
  let (reference, _, type, rest) ← typeUse trees
  match reference, type.params, type.results with
  | none, [], [] => return (.empty, rest)
  | none, [], [result] => return (.value result, rest)
  | some found, _, _ => return (.index found, rest)
  | none, _, _ => return (.index (← internType type), rest)

/-- The name of a block, if it has one. -/
def label : List Tree → Option String × List Tree
  | .word chars :: rest =>
    if isName chars then (some chars, rest) else (none, .word chars :: rest)
  | trees => (none, trees)

/-- The number behind a keyword and an equals sign. -/
def keywordNumber? (keyword : String) : Tree → Option Nat
  | .word chars =>
    if chars.startsWith (keyword ++ "=") then
      Literal.nat? (String.ofList (chars.toList.drop (keyword.length + 1)))
    else none
  | _ => none

/-- A number behind a keyword, if there is one. -/
def keywordNumber (keyword : String) (trees : List Tree) : Option Nat × List Tree :=
  match trees with
  | first :: rest =>
    match keywordNumber? keyword first with
    | some value => (some value, rest)
    | none => (none, trees)
  | [] => (none, [])

/-- Where a memory access goes, given how many bytes it concerns. -/
def memArg (bytes : Nat) (trees : List Tree) : Elab (MemArg × List Tree) := do
  let (memory, rest) ← indexOrZero (← get).spaces.memories trees
  let (offset, rest) := keywordNumber "offset" rest
  let (align, rest) := keywordNumber "align" rest
  let align := align.getD bytes
  if align = 0 ∨ Nat.pow 2 align.log2 ≠ align then throw "alignment must be a power of two"
  let offset := offset.getD 0
  if UInt32.size ≤ offset then throw "offset out of range"
  return (⟨align.log2, offset, memory⟩, rest)

/-- A number behind an operator that pushes it. -/
def literal (type : ValueType) (read : String → Option Word) :
    List Tree → Elab (Operator × List Tree)
  | .word chars :: rest =>
    match read chars with
    | some value => return (.const type value, rest)
    | none => throw "invalid number"
  | _ => throw "expected a number"

/-- The branch targets of a table: indices up to the first tree that is none. -/
def branchTargets : List Tree → Elab (List Nat × List Tree)
  | .word chars :: rest =>
    if isIndex chars then do
      let target ← resolve (← get).labels chars
      let (others, rest) ← branchTargets rest
      return (target :: others, rest)
    else return ([], .word chars :: rest)
  | trees => return ([], trees)

/-- An operator that takes one index. -/
def withIndex (make : Nat → Operator) (space : List (Option String)) (trees : List Tree) :
    Elab (Operator × List Tree) := do
  let (found, rest) ← index space trees
  return (make found, rest)

/-- An operator that takes an index which may be left out. -/
def withOptional (make : Nat → Operator) (space : List (Option String)) (trees : List Tree) :
    Elab (Operator × List Tree) := do
  let (found, rest) ← indexOrZero space trees
  return (make found, rest)

/-- The operators that accesses to memory and arithmetic are. -/
def tabled (op : String) (trees : List Tree) : Elab (Operator × List Tree) := do
  match Opcode.loads.find? (·.1 == op) with
  | some (_, shape) =>
    let (arg, rest) ← memArg shape.bytes trees
    return (.load shape arg, rest)
  | none =>
    match Opcode.stores.find? (·.1 == op) with
    | some (_, shape) =>
      let (arg, rest) ← memArg shape.bytes trees
      return (.store shape arg, rest)
    | none =>
      match Opcode.arithmetic.find? (·.1 == op) <|> Opcode.saturating.find? (·.1 == op) with
      | some (_, numeric) => return (.numeric numeric, trees)
      | none => throw ("unknown operator " ++ op)

/-- **An operator that is no bracket**, with its immediates, and the rest behind them. -/
def operator (op : String) (trees : List Tree) : Elab (Operator × List Tree) := do
  let b ← get
  let s := b.spaces
  match op with
  | "unreachable" => return (.unreachable, trees)
  | "nop" => return (.nop, trees)
  | "return" => return (.ret, trees)
  | "drop" => return (.drop, trees)
  | "br" => withIndex .br b.labels trees
  | "br_if" => withIndex .brIf b.labels trees
  | "br_table" =>
    let (targets, rest) ← branchTargets trees
    match targets.reverse with
    | [] => throw "expected a branch target"
    | last :: others => return (.brTable others.reverse last, rest)
  | "call" => withIndex .call s.funcs trees
  | "call_indirect" =>
    let (table, rest) ← indexOrZero s.tables trees
    let (reference, _, type, rest) ← typeUse rest
    let found ← match reference with
      | some found => pure found
      | none => internType type
    return (.callIndirect found table, rest)
  | "select" =>
    let (types, rest) ← declarations "result" trees
    match types with
    | [] => return (.select none, rest)
    | [(_, type)] => return (.select (some type), rest)
    | _ => throw "expected one type"
  | "local.get" => withIndex .localGet b.locals trees
  | "local.set" => withIndex .localSet b.locals trees
  | "local.tee" => withIndex .localTee b.locals trees
  | "global.get" => withIndex .globalGet s.globals trees
  | "global.set" => withIndex .globalSet s.globals trees
  | "table.get" => withOptional .tableGet s.tables trees
  | "table.set" => withOptional .tableSet s.tables trees
  | "table.size" => withOptional .tableSize s.tables trees
  | "table.grow" => withOptional .tableGrow s.tables trees
  | "table.fill" => withOptional .tableFill s.tables trees
  | "table.copy" =>
    let (into, source, rest) ← twoIndices s.tables trees
    return (.tableCopy into source, rest)
  | "table.init" =>
    let (table, segment, rest) ← outerAndInner s.tables s.elems trees
    return (.tableInit segment table, rest)
  | "elem.drop" => withIndex .elemDrop s.elems trees
  | "memory.size" => withOptional .memorySize s.memories trees
  | "memory.grow" => withOptional .memoryGrow s.memories trees
  | "memory.fill" => withOptional .memoryFill s.memories trees
  | "memory.copy" =>
    let (into, source, rest) ← twoIndices s.memories trees
    return (.memoryCopy into source, rest)
  | "memory.init" =>
    let (memory, segment, rest) ← outerAndInner s.memories s.data trees
    return (.memoryInit segment memory, rest)
  | "data.drop" => withIndex .dataDrop s.data trees
  | "ref.null" =>
    match trees with
    | .word "func" :: rest => return (.refNull .funcref, rest)
    | _ => throw "expected a heap type"
  | "ref.is_null" => return (.refIsNull, trees)
  | "ref.func" => withIndex .refFunc s.funcs trees
  | "i32.const" => literal .i32 (Literal.int? 32) trees
  | "i64.const" => literal .i64 (Literal.int? 64) trees
  | "f32.const" => literal .f32 Literal.f32? trees
  | "f64.const" => literal .f64 Literal.f64? trees
  | op => tabled op trees

/-- Adds an operator. -/
def emit (op : Operator) : Elab Unit := modify fun b => { b with operators := b.operators.push op }

/-- Opens a block. -/
def openBlock (name : Option String) : Elab Unit :=
  modify fun b => { b with labels := name :: b.labels }

/-- Closes the innermost block. -/
def closeBlock : Elab Unit := do
  let b ← get
  match b.labels with
  | [] => throw "no block is open"
  | _ :: outer => set { b with labels := outer }

/-- Skips the name of the innermost block, which may be repeated where it ends or turns. -/
def repeatedLabel (trees : List Tree) : Elab (List Tree) := do
  match label trees with
  | (none, rest) => return rest
  | (some name, rest) =>
    match (← get).labels with
    | found :: _ => if found = some name then return rest else throw "mismatching label"
    | [] => throw "mismatching label"

/-- Whether a tree is a group, or the group that begins with a keyword. -/
def isGroup : Tree → Bool
  | .group _ => true
  | _ => false

@[inherit_doc isGroup]
def isGroupOf (keyword : String) : Tree → Bool
  | .group (.word head :: _) => head = keyword
  | _ => false

/-- The operator that opens a block. -/
def opening? (op : String) (type : BlockType) : Option Operator :=
  match op with
  | "block" => some (.block type)
  | "loop" => some (.loop type)
  | "if" => some (.ifThen type)
  | _ => none

/-- A flat operator, or a bracket; the rest behind it. -/
def flat (op : String) (trees : List Tree) : Elab (List Tree) := do
  match op with
  | "else" =>
    let rest ← repeatedLabel trees
    emit .elseOf
    return rest
  | "end" =>
    let rest ← repeatedLabel trees
    closeBlock
    emit .endOf
    return rest
  | op =>
    if (opening? op .empty).isSome then
      let (name, rest) := label trees
      let (type, rest) ← blockType rest
      emit ((opening? op type).getD .nop)
      openBlock name
      return rest
    else
      let (found, rest) ← operator op trees
      emit found
      return rest

mutual

/-- **A row of operators**, flat or folded. -/
def row : Nat → List Tree → Elab Unit
  | 0, _ => throw "nested too deeply"
  | _ + 1, [] => pure ()
  | depth + 1, .word op :: rest => do
    let rest ← flat op rest
    row depth rest
  | depth + 1, .group items :: rest => do
    folded depth items
    row depth rest
  | _ + 1, .bytes _ :: _ => throw "unexpected string"

/-- A folded operator: its operands first. -/
def folded : Nat → List Tree → Elab Unit
  | 0, _ => throw "nested too deeply"
  | depth + 1, .word op :: trees => do
    if op = "if" then
      let (name, rest) := label trees
      let (type, rest) ← blockType rest
      let (condition, branches) := rest.span fun t => !isGroupOf "then" t
      if !condition.all isGroup then throw "expected a folded operator"
      row depth condition
      emit (.ifThen type)
      openBlock name
      match branches with
      | [.group (_ :: yes)] => row depth yes
      | [.group (_ :: yes), .group (.word "else" :: no)] =>
        row depth yes
        emit .elseOf
        row depth no
      | _ => throw "expected one or two branches"
      closeBlock
      emit .endOf
    else if (opening? op .empty).isSome then
      let (name, rest) := label trees
      let (type, rest) ← blockType rest
      emit ((opening? op type).getD .nop)
      openBlock name
      row depth rest
      closeBlock
      emit .endOf
    else if op = "else" ∨ op = "end" then throw "unexpected bracket"
    else
      let (found, rest) ← operator op trees
      if !rest.all isGroup then throw "expected a folded operator"
      row depth rest
      emit found
  | _ + 1, _ => throw "expected an operator"

end

/-- The operators of a row on their own, with names for locals; all blocks are closed. -/
def operators (depth : Nat) (locals : List (Option String)) (trees : List Tree) :
    Elab (List Operator) := do
  modify fun b => { b with locals := locals, labels := [], operators := #[] }
  row depth trees
  let b ← get
  if !b.labels.isEmpty then throw "a block stays open"
  return b.operators.toList

end Code
end Text
end Wasm
end FunctionHost

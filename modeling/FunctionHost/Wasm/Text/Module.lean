import FunctionHost.Wasm.Binary.Sections
import FunctionHost.Wasm.Text.Code
/-!
# Modules in the text format

A module is a row of fields.  A first look gives every field its place in an index space, so that
fields can refer to later ones by name; a second look reads what the fields say.
-/
namespace FunctionHost
namespace Wasm
namespace Text

/-- What comes first in the definition of a function, table, memory or global. -/
structure Head where
  /-- Its name. -/
  name : Option String := none
  /-- The names under which it is exported. -/
  exports : List String := []
  /-- The two names under which it is imported, if it is. -/
  source : Option (String × String) := none
  /-- The rest of the definition. -/
  rest : List Tree := []
  deriving Inhabited

/-- The four kinds of definitions that can be imported and exported. -/
inductive EntityKind where
  /-- A function. -/
  | func
  /-- A table. -/
  | table
  /-- A memory. -/
  | memory
  /-- A global. -/
  | global
  deriving DecidableEq, Repr, Inhabited

/-- **A field of a module.** -/
inductive Field where
  /-- A type. -/
  | type (name : Option String) (type : FuncType)
  /-- A definition. -/
  | define (kind : EntityKind) (head : Head)
  /-- An export. -/
  | export_ (name : String) (kind : EntityKind) (index : String)
  /-- The start function. -/
  | start (index : String)
  /-- An element segment. -/
  | elem (name : Option String) (rest : List Tree)
  /-- A data segment. -/
  | data (name : Option String) (rest : List Tree)
  deriving Inhabited

namespace Field

/-- The text that a string spells. -/
def text? (content : List UInt8) : Option String := String.fromUTF8? (Bytes.ofList content)

/-- The kind that a keyword names. -/
def kind? : String → Option EntityKind
  | "func" => some .func
  | "table" => some .table
  | "memory" => some .memory
  | "global" => some .global
  | _ => none

/-- The name of a field, if it has one. -/
def name : List Tree → Option String × List Tree
  | .word chars :: rest =>
    if Code.isName chars then (some chars, rest) else (none, .word chars :: rest)
  | trees => (none, trees)

/-- Exports that are written inside a definition. -/
def inlineExports : List Tree → Option (List String × List Tree)
  | .group [.word "export", .bytes content] :: rest => do
    let first ← text? content
    let (others, rest) ← inlineExports rest
    return (first :: others, rest)
  | trees => some ([], trees)

/-- What comes first in a definition. -/
def head (trees : List Tree) : Option Head := do
  let (id, rest) := name trees
  let (exports, rest) ← inlineExports rest
  match rest with
  | .group [.word "import", .bytes space, .bytes item] :: rest =>
    return ⟨id, exports, some (← text? space, ← text? item), rest⟩
  | rest => return ⟨id, exports, none, rest⟩

/-- The type that a type field defines. -/
def functionType (trees : List Tree) : Option FuncType :=
  match trees with
  | [.group (.word "func" :: rest)] =>
    match (Code.signature rest).run {} with
    | .ok ((_, found, []), _) => some found
    | _ => none
  | _ => none

/-- **The field that a group is.** -/
def ofTree : Tree → Option Field
  | .group (.word "type" :: rest) => do
    let (id, rest) := name rest
    return .type id (← functionType rest)
  | .group [.word "import", .bytes space, .bytes item, .group (.word kind :: rest)] => do
    let (id, rest) := name rest
    return .define (← kind? kind) ⟨id, [], some (← text? space, ← text? item), rest⟩
  | .group [.word "export", .bytes content, .group [.word kind, .word index]] => do
    return .export_ (← text? content) (← kind? kind) index
  | .group [.word "start", .word index] => some (.start index)
  | .group (.word "elem" :: rest) =>
    let (id, rest) := name rest
    some (.elem id rest)
  | .group (.word "data" :: rest) =>
    let (id, rest) := name rest
    some (.data id rest)
  | .group (.word word :: rest) => do
    return .define (← kind? word) (← head rest)
  | _ => none

/-- Whether a memory is given by its contents, or a table by its elements. -/
def isInline (word : String) (h : Head) : Bool := h.rest.any (Code.isGroupOf word)

/-- The names of the spaces with a field in its place. -/
def addName (s : Spaces) : Field → Spaces
  | .type id _ => { s with types := s.types ++ [id] }
  | .define .func h => { s with funcs := s.funcs ++ [h.name] }
  | .define .table h =>
    { s with
      tables := s.tables ++ [h.name]
      elems := s.elems ++ (if isInline "elem" h then [none] else []) }
  | .define .memory h =>
    { s with
      memories := s.memories ++ [h.name]
      data := s.data ++ (if isInline "data" h then [none] else []) }
  | .define .global h => { s with globals := s.globals ++ [h.name] }
  | .elem id _ => { s with elems := s.elems ++ [id] }
  | .data id _ => { s with data := s.data ++ [id] }
  | _ => s

/-- Whether every name in a space is given once. -/
def allDifferent (space : List (Option String)) : Bool :=
  let names := space.filterMap id
  names.eraseDups.length = names.length

/-- Whether imports come before definitions. -/
def importsFirst : Bool → List Field → Bool
  | _, [] => true
  | defined, .define _ h :: rest =>
    if h.source.isSome then !defined && importsFirst defined rest else importsFirst true rest
  | defined, _ :: rest => importsFirst defined rest

end Field

/-- What reading the fields produces. -/
structure Draft where
  /-- The module so far, without its types. -/
  module : Module := {}
  /-- How deeply code may be nested. -/
  depth : Nat
  deriving Inhabited

namespace Draft

/-- Bounds on a size, and the rest behind them. -/
def limits : List Tree → Elab (Limits × List Tree)
  | .word first :: .word second :: rest =>
    match Literal.nat? first, Literal.nat? second with
    | some min, some max => return (⟨min, some max⟩, rest)
    | some min, none => return (⟨min, none⟩, .word second :: rest)
    | none, _ => throw "expected a size"
  | .word first :: rest =>
    match Literal.nat? first with
    | some min => return (⟨min, none⟩, rest)
    | none => throw "expected a size"
  | _ => throw "expected a size"

/-- The type of a table. -/
def tableType (trees : List Tree) : Elab TableType := do
  match ← limits trees with
  | (bounds, [element]) =>
    match Code.valueType? element with
    | some type => if type.isReference then return ⟨type, bounds⟩ else throw "expected a reference"
    | none => throw "expected a reference"
  | _ => throw "expected a table type"

/-- The type of a memory. -/
def memoryType (trees : List Tree) : Elab Limits := do
  match ← limits trees with
  | (bounds, []) => return bounds
  | _ => throw "expected a memory type"

/-- The type of a global, and the rest behind it. -/
def globalType : List Tree → Elab (GlobalType × List Tree)
  | .group [.word "mut", type] :: rest =>
    match Code.valueType? type with
    | some value => return (⟨value, true⟩, rest)
    | none => throw "expected a type"
  | type :: rest =>
    match Code.valueType? type with
    | some value => return (⟨value, false⟩, rest)
    | none => throw "expected a type"
  | [] => throw "expected a type"

/-- The index of a function type that is referred to or written out. -/
def typeIndex (trees : List Tree) : Elab (Nat × List (Option String) × List Tree) := do
  let (reference, names, type, rest) ← Code.typeUse trees
  let found ← match reference with
    | some found => pure found
    | none => Code.internType type
  return (found, names, rest)

/-- What an import asks for. -/
def importKind (kind : EntityKind) (trees : List Tree) : Elab ImportKind := do
  match kind with
  | .func =>
    match ← typeIndex trees with
    | (type, _, []) => return .func type
    | _ => throw "unexpected tokens"
  | .table => return .table (← tableType trees)
  | .memory => return .memory (← memoryType trees)
  | .global =>
    match ← globalType trees with
    | (type, []) => return .global type
    | _ => throw "unexpected tokens"

/-- The bytes of a row of strings. -/
def strings (trees : List Tree) : Elab Bytes := do
  let pieces ← trees.mapM fun t =>
    match t with
    | .bytes content => pure content
    | _ => throw "expected a string"
  return Bytes.ofList pieces.flatten

/-- The export of a definition. -/
def exportKind (kind : EntityKind) (index : Nat) : ExportKind :=
  match kind with
  | .func => .func index
  | .table => .table index
  | .memory => .memory index
  | .global => .global index

/-- How many definitions of a kind there are. -/
def count (m : Module) : EntityKind → Nat
  | .func => m.funcSpace.size
  | .table => m.tableSpace.size
  | .memory => m.memorySpace.size
  | .global => m.globalSpace.size

/-- The names in the space of a kind. -/
def spaceOf (s : Spaces) : EntityKind → List (Option String)
  | .func => s.funcs
  | .table => s.tables
  | .memory => s.memories
  | .global => s.globals

/-- A function of the module. -/
def function (d : Draft) (trees : List Tree) : Elab Draft := do
  let (type, params, rest) ← typeIndex trees
  let (locals, rest) ← Code.declarations "local" rest
  let names := params ++ locals.map (·.1)
  if !Field.allDifferent names then throw "duplicate local"
  let operators ← Code.operators d.depth names rest
  let body : FuncBody := ⟨locals.map (·.2), operators ++ [.endOf]⟩
  let m := d.module
  return { d with module := { m with funcs := m.funcs.push type, bodies := m.bodies.push body } }

/-- The number that code computes once. -/
def constant (d : Draft) (trees : List Tree) : Elab ConstExpr := Code.operators d.depth [] trees

/-- Elements by index. -/
def elementIndices (trees : List Tree) : Elab (List ConstExpr) := do
  let s := (← get).spaces
  trees.mapM fun t =>
    match t with
    | .word chars => do return [.refFunc (← Code.resolve s.funcs chars)]
    | _ => throw "expected an index"

/-- Elements that are computed. -/
def elementExprs (d : Draft) (trees : List Tree) : Elab (List ConstExpr) :=
  trees.mapM fun t =>
    match t with
    | .group (.word "item" :: rest) => d.constant rest
    | .group items => d.constant [.group items]
    | _ => throw "expected an element"

/-- The elements of a segment and their type. -/
def elements (d : Draft) (trees : List Tree) : Elab (ValueType × List ConstExpr) := do
  match trees with
  | .word "func" :: rest => return (.funcref, ← elementIndices rest)
  | first :: rest =>
    match Code.valueType? first with
    | some type =>
      if !type.isReference then throw "expected a reference type"
      else if rest.all Code.isGroup then return (type, ← elementExprs d rest)
      else return (type, ← elementIndices rest)
    | none => return (.funcref, ← elementIndices trees)
  | [] => return (.funcref, [])

/-- Where an active segment goes. -/
def offset (d : Draft) : List Tree → Elab (ConstExpr × List Tree)
  | .group (.word "offset" :: items) :: rest => return (← d.constant items, rest)
  | .group items :: rest => return (← d.constant [.group items], rest)
  | _ => throw "expected an offset"

/-- Adds an element segment. -/
def addElem (d : Draft) (e : ElemSegment) : Draft :=
  { d with module := { d.module with elems := d.module.elems.push e } }

/-- Adds a data segment. -/
def addData (d : Draft) (s : DataSegment) : Draft :=
  { d with module := { d.module with data := d.module.data.push s } }

/-- Whether a tree is a reference type in parentheses. -/
def isReferenceGroup : Tree → Bool
  | .group (.word "ref" :: _) => true
  | _ => false

/-- An element segment. -/
def elemField (d : Draft) (trees : List Tree) : Elab Draft := do
  let s := (← get).spaces
  let active (table : Nat) (rest : List Tree) : Elab Draft := do
    let (start, rest) ← d.offset rest
    let (type, items) ← d.elements rest
    return d.addElem ⟨type, items, .active table start⟩
  match trees with
  | .word "declare" :: rest =>
    let (type, items) ← d.elements rest
    return d.addElem ⟨type, items, .declared⟩
  | .group [.word "table", .word table] :: rest => active (← Code.resolve s.tables table) rest
  | .group items :: rest =>
    if isReferenceGroup (.group items) then
      let (type, items) ← d.elements trees
      return d.addElem ⟨type, items, .passive⟩
    else active 0 (.group items :: rest)
  | .word first :: .group items :: rest =>
    match Literal.nat? first with
    | some table => active table (.group items :: rest)
    | none =>
      let (type, items) ← d.elements trees
      return d.addElem ⟨type, items, .passive⟩
  | trees =>
    let (type, items) ← d.elements trees
    return d.addElem ⟨type, items, .passive⟩

/-- A data segment. -/
def dataField (d : Draft) (trees : List Tree) : Elab Draft := do
  match trees with
  | .group [.word "memory", .word memory] :: rest =>
    let memory ← Code.resolve (← get).spaces.memories memory
    let (start, rest) ← d.offset rest
    return d.addData ⟨← strings rest, .active memory start⟩
  | .group items :: rest =>
    let (start, rest) ← d.offset (.group items :: rest)
    return d.addData ⟨← strings rest, .active 0 start⟩
  | trees => return d.addData ⟨← strings trees, .passive⟩

/-- A memory that is given by its bounds or its contents. -/
def memoryField (d : Draft) (trees : List Tree) : Elab Draft := do
  let m := d.module
  match trees with
  | [.group (.word "data" :: contents)] =>
    let bytes ← strings contents
    let pages := (bytes.size + pageSize - 1) / pageSize
    let index := m.memorySpace.size
    let d := { d with module := { m with memories := m.memories.push ⟨pages, some pages⟩ } }
    return d.addData ⟨bytes, .active index [.const .i32 0]⟩
  | trees =>
    return { d with module := { m with memories := m.memories.push (← memoryType trees) } }

/-- A table that is given by its bounds or its elements. -/
def tableField (d : Draft) (trees : List Tree) : Elab Draft := do
  let m := d.module
  match trees with
  | [element, .group (.word "elem" :: contents)] =>
    match Code.valueType? element with
    | none => throw "expected a reference type"
    | some type =>
      if !type.isReference then throw "expected a reference type"
      let items ←
        if contents.all Code.isGroup then elementExprs d contents else elementIndices contents
      let index := m.tableSpace.size
      let bounds : Limits := ⟨items.length, some items.length⟩
      let d := { d with module := { m with tables := m.tables.push ⟨type, bounds⟩ } }
      return d.addElem ⟨type, items, .active index [.const .i32 0]⟩
  | trees => return { d with module := { m with tables := m.tables.push (← tableType trees) } }

/-- A global. -/
def globalField (d : Draft) (trees : List Tree) : Elab Draft := do
  let (type, rest) ← globalType trees
  let first ← d.constant rest
  let m := d.module
  return { d with module := { m with globals := m.globals.push ⟨type, first⟩ } }

/-- **What a field adds to the module.** -/
def field (d : Draft) (f : Field) : Elab Draft := do
  let m := d.module
  match f with
  | .type _ _ => return d
  | .define kind h =>
    let added := h.exports.map fun name => (⟨name, exportKind kind (count m kind)⟩ : Export)
    let m := { m with exports := m.exports ++ added.toArray }
    let d := { d with module := m }
    match h.source with
    | some (space, name) =>
      let item : Import := ⟨space, name, ← importKind kind h.rest⟩
      return { d with module := { m with imports := m.imports.push item } }
    | none =>
      match kind with
      | .func => d.function h.rest
      | .table => d.tableField h.rest
      | .memory => d.memoryField h.rest
      | .global => d.globalField h.rest
  | .export_ name kind index =>
    let found ← Code.resolve (spaceOf (← get).spaces kind) index
    return { d with module :=
      { m with exports := m.exports.push ⟨name, exportKind kind found⟩ } }
  | .start index =>
    if m.start.isSome then throw "multiple start functions"
    let found ← Code.resolve (← get).spaces.funcs index
    return { d with module := { m with start := some found } }
  | .elem _ rest => d.elemField rest
  | .data _ rest => d.dataField rest

/-- What a row of fields adds to the module. -/
def fields : Draft → List Field → Elab Draft
  | d, [] => return d
  | d, f :: rest => do fields (← d.field f) rest

/-- The types that are defined by name or number. -/
def typesOf (fields : List Field) : Array FuncType :=
  (fields.filterMap fun f => match f with | .type _ t => some t | _ => none).toArray

/-- The module of a row of fields. -/
def assemble (depth : Nat) (all : List Field) : Except String Module := do
  let spaces := all.foldl Field.addName {}
  let distinct := [spaces.types, spaces.funcs, spaces.tables, spaces.memories, spaces.globals,
    spaces.elems, spaces.data].all Field.allDifferent
  if !distinct then throw "duplicate name"
  if !Field.importsFirst false all then throw "imports must come before definitions"
  let (d, b) ← (fields { depth := depth } all).run { spaces := spaces, types := typesOf all }
  return { d.module with types := b.types, dataCount := some d.module.data.size }

end Draft

/-- The fields of a text, whether or not they stand in a module group; or the bytes of a module
that is only quoted. -/
def contents (trees : List Tree) : Sum Bytes (List Tree) :=
  match trees with
  | [.group (.word "module" :: rest)] =>
    match (Field.name rest).2 with
    | .word "binary" :: pieces =>
      let bytes := pieces.filterMap fun t =>
        match t with
        | .bytes content => some content
        | _ => none
      .inl (Bytes.ofList bytes.flatten)
    | rest => .inr rest
  | trees => .inr trees

/-- **The module that a text is**, or what is wrong with it. -/
def parse (text : String) : Except String Module :=
  match Tree.parse text with
  | none => .error "malformed tokens"
  | some [] => .error "expected at least one module field"
  | some trees =>
    match contents trees with
    | .inl bytes => Binary.decode bytes
    | .inr trees =>
      match trees.mapM Field.ofTree with
      | none => .error "malformed field"
      | some all => Draft.assemble (text.length + 2) all

end Text
end Wasm
end FunctionHost

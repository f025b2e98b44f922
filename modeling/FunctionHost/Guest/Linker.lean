import FunctionHost.Error
import FunctionHost.Guest.Wasi
import FunctionHost.Wasm.Code
/-!
# Linking

What the host offers for import, and how a module's imports are met.  Every import must be known
before the type of any is compared.
-/
namespace FunctionHost

open Wasm (FuncType ImportKind)

/-- **A function of the host** that guests can import. -/
inductive HostFunction where
  /-- The host call; answers are placed by the guest's function of the given name. -/
  | hostCall (allocateExport : String)
  /-- A function of the system interface. -/
  | wasi (name : String)
  deriving DecidableEq, Repr, Inhabited

/-- **What is offered for import.** -/
structure Linker where
  /-- Whether the system interface is. -/
  wasi : Bool := false
  /-- The host call, with the name of the guest's allocator. -/
  hostCall : Option String := none
  deriving DecidableEq, Repr, Inhabited

namespace Linker

/-- The module that guests import the host call from. -/
def hostSpace : String := "capsule"

/-- The name of the host call there. -/
def hostCallName : String := "host_call"

/-- The type of the host call: four pointers with lengths, and a packed result. -/
def hostCallType : FuncType :=
  ⟨[.i32, .i32, .i32, .i32, .i32, .i32, .i32, .i32], [.i64]⟩

/-- The refusal to offer something a second time. -/
def twice (what space name : String) : HostError :=
  .invalidConfig ("Failed to register " ++ what ++ ": import of `" ++ space ++ "::" ++ name
    ++ "` defined twice")

/-- The linker that also offers the host call. -/
def registerHostCall (l : Linker) (allocateExport : String) : Except HostError Linker :=
  if l.hostCall.isSome then .error (twice "host_call" hostSpace hostCallName)
  else .ok { l with hostCall := some allocateExport }

/-- The linker that also offers the system interface. -/
def registerWasi (l : Linker) : Except HostError Linker :=
  if l.wasi then .error (twice "WASI imports" Wasi.space "args_get")
  else .ok { l with wasi := true }

/-- Offers what the settings ask for: the linker afterwards, which keeps what came before a
refusal, and the outcome. -/
def register (l : Linker) (wasi : Bool) (allocateExport : String) :
    Linker × Except HostError Unit :=
  let start : Except HostError Linker := if wasi then l.registerWasi else .ok l
  match start with
  | .error e => (l, .error e)
  | .ok l =>
    match l.registerHostCall allocateExport with
    | .error e => (l, .error e)
    | .ok l => (l, .ok ())

/-- What is offered under two names. -/
def find? (l : Linker) (space name : String) : Option (HostFunction × FuncType) :=
  if space = hostSpace ∧ name = hostCallName then
    l.hostCall.map fun allocateExport => (.hostCall allocateExport, hostCallType)
  else if space = Wasi.space ∧ l.wasi then
    (Wasi.type? name).map fun type => (.wasi name, type)
  else none

/-- What an import asks for, if not a function. -/
def kindName : ImportKind → String
  | .func _ => "func"
  | .table _ => "table"
  | .memory _ => "memory"
  | .global _ => "global"

/-- An import by its two names. -/
def importName (i : Wasm.Import) : String := "`" ++ i.space ++ "::" ++ i.name ++ "`"

/-- What is offered for all imports, or the first one for which nothing is. -/
def findAll (l : Linker) : List Wasm.Import → Except String (List (HostFunction × FuncType))
  | [] => .ok []
  | i :: rest =>
    match l.find? i.space i.name with
    | none => .error ("unknown import: " ++ importName i ++ " has not been defined")
    | some offer => (findAll l rest).map (offer :: ·)

/-- Compares what is offered with what is asked for. -/
def checkTypes (m : Wasm.Module) :
    List (Wasm.Import × HostFunction × FuncType) → Except String Unit
  | [] => .ok ()
  | (i, _, offered) :: rest =>
    let refusal := "incompatible import type for " ++ importName i ++ ": "
    match i.kind with
    | .func type =>
      let asked := m.types[type]?.getD default
      if asked = offered then checkTypes m rest
      else
        .error (refusal ++ "types incompatible: expected type `" ++ asked.shown
          ++ "`, found type `" ++ offered.shown ++ "`")
    | kind => .error (refusal ++ "expected " ++ kindName kind ++ ", but found func")

/-- **What a module's imported functions are**, in order. -/
def link (l : Linker) (m : Wasm.Module) : Except String (Array HostFunction) := do
  let imports := m.imports.toList
  let offers ← l.findAll imports
  checkTypes m (imports.zip offers)
  return (offers.map (·.1)).toArray

end Linker
end FunctionHost

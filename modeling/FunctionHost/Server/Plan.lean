import FunctionHost.Error
import FunctionHost.Settings.File
/-!
# What to load

A `LoadPlan` says under which name a module is to be loaded, where its code comes from and how many
instances of it are to be kept.
-/
namespace FunctionHost

/-- Where the code of a module comes from. -/
inductive ModuleSource where
  /-- A file. -/
  | file (path : String)
  /-- Bytes that are there already. -/
  | bytes (content : Bytes)
  /-- A text that is there already. -/
  | text (content : String)
  deriving Inhabited

/-- **A module to be loaded.** -/
structure LoadPlan where
  /-- The name to load it under. -/
  name : String
  /-- Where its code comes from. -/
  source : ModuleSource
  /-- How many instances to keep. -/
  poolSize : Nat
  deriving Inhabited

namespace LoadPlan

/-- The plan for an entry of a settings file; the default counts where the entry says nothing. -/
def ofEntry (e : ModuleEntry) (defaultSize : UInt64) : LoadPlan where
  name := e.name
  source := .file e.path
  poolSize := (e.poolSize.getD defaultSize).toNat

/-- **Accepts a plan** with a name and at least one instance. -/
def validate (p : LoadPlan) : Except HostError Unit :=
  if p.name.isEmpty then .error (.invalidConfig "module name must not be empty")
  else if p.poolSize = 0 then
    .error (.invalidConfig ("module '" ++ p.name ++ "': pool_size must be at least 1"))
  else .ok ()

end LoadPlan
end FunctionHost

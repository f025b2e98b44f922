import FunctionHost.Dictionary
import FunctionHost.Error
/-!
# Registries

Which modules can be called, by name.  A name is given once; a registry that was closed is empty and
stays so.
-/
namespace FunctionHost

/-- **A registry**, with entries in `α`. -/
structure Registry (α : Type) where
  /-- The entries by name. -/
  entries : Dictionary α := .empty
  /-- Whether the registry is closed. -/
  closed : Bool := false
  deriving Inhabited

namespace Registry

variable {α : Type}

/-- The entry of a name. -/
def get (r : Registry α) (name : String) : Except HostError α :=
  if r.closed then .error .serverClosed
  else
    match r.entries.find? name with
    | some entry => .ok entry
    | none => .error (.moduleNotFound name)

/-- Accepts a name that can be given. -/
def checkAvailable (r : Registry α) (name : String) : Except HostError Unit :=
  if r.closed then .error .serverClosed
  else if r.entries.contains name then .error (.duplicateModule name)
  else .ok ()

/-- **Gives a name to an entry**, if the name can be given. -/
def publish (r : Registry α) (name : String) (entry : α) : Except HostError (Registry α) :=
  match r.checkAvailable name with
  | .ok _ => .ok { r with entries := r.entries.insert name entry }
  | .error e => .error e

/-- Takes a name back, and with it the entry. -/
def remove (r : Registry α) (name : String) : Registry α × Option α :=
  ({ r with entries := r.entries.erase name }, r.entries.find? name)

/-- **Closes the registry** and takes every entry out of it, in the order of the names; nothing
comes of closing it again. -/
def close (r : Registry α) : Registry α × Option (List (String × α)) :=
  if r.closed then (r, none)
  else ({ entries := .empty, closed := true }, some r.entries.entries)

/-- The names that are given, in order. -/
def names (r : Registry α) : List String := r.entries.names

/-- How many names are given. -/
def size (r : Registry α) : Nat := r.entries.size

end Registry
end FunctionHost

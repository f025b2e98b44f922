import FunctionHost.Document.Shape
import FunctionHost.Text.Decimal
import FunctionHost.Text.Quoted
import FunctionHost.Toml.Value
/-!
# Configuration texts by shape

A tree of tables as a document of a shape.  Members that the shape does not know are passed over;
the others are looked at in the order of the text, and the first one that does not fit is refused.
-/
namespace FunctionHost
namespace Toml

/-- A value, as refusals show it. -/
def shown : Toml → String
  | .text value => "string " ++ Text.quoted value
  | .integer value => Shape.shownInteger value
  | .float value => "floating point `" ++ Decimal.positionalText value ++ "`"
  | .flag value => Shape.shownFlag value
  | .moment => "map"
  | .array _ => "sequence"
  | .table _ _ => "map"
  | .tables _ _ => "sequence"

/-- The items, if it is an array of any kind. -/
def items? : Toml → Option (List Toml)
  | .array items => some items
  | .tables earlier last => some ((earlier ++ [last]).map (.table .headed))
  | _ => none

/-- The members, if it is a table; a moment has none that anybody knows. -/
def members? : Toml → Option Members
  | .table _ members => some members
  | .moment => some []
  | _ => none

/-- A value of another kind than expected. -/
def misfit {α : Type} (found : Toml) (expected : String) : Except String α :=
  .error (Shape.invalidType found.shown expected)

/-- A member of a record: how its value is looked at and its default. -/
structure Member where
  /-- The name. -/
  name : String
  /-- How the value is looked at. -/
  read : Toml → Except String Json
  /-- What it is if it is not there. -/
  fallback : Option Json

/-- The members that the record knows, in the order of the text. -/
def known (members : List Member) : Members → Except String (List (String × Json))
  | [] => .ok []
  | (name, found) :: rest =>
    match members.find? (·.name == name) with
    | none => known members rest
    | some member => do
      let value ← member.read found
      return (name, value) :: (← known members rest)

/-- The members of a record that is written as an array, by position. -/
def positional (name : String) (total : Nat) :
    Nat → List Member → List Toml → Except String (List (String × Json))
  | _, [], _ => .ok []
  | index, member :: rest, found :: more => do
    let value ← member.read found
    return (member.name, value) :: (← positional name total (index + 1) rest more)
  | index, member :: rest, [] =>
    match member.fallback with
    | none => .error (Shape.invalidLength index name total)
    | some _ => positional name total (index + 1) rest []

/-- A record, as a table or as an array. -/
def record (name : String) (shapes : List (String × Shape × Option Json)) (members : List Member)
    (found : Toml) : Except String Json := do
  match found.members?, found.items? with
  | some entries, _ => return .record (← Shape.complete (← known members entries) shapes)
  | none, some items =>
    return .record (← Shape.complete (← positional name members.length 0 members items) shapes)
  | none, none => misfit found ("struct " ++ name)

/-- A text for each name. -/
def texts : Members → Except String (List (String × Json))
  | [] => .ok []
  | (name, .text value) :: rest => (texts rest).map ((name, .text value) :: ·)
  | (_, found) :: _ => misfit found (Shape.expected .text)

mutual

/-- **A value as a document of a shape**, or why it is none. -/
def conform : Shape → Toml → Except String Json
  | .flag, .flag value => .ok (.bool value)
  | .flag, found => misfit found (Shape.expected .flag)
  | .count name max, .integer n =>
    if 0 ≤ n ∧ n ≤ max then .ok (.number n)
    else .error (Shape.invalidValue (Shape.shownInteger n) name)
  | .count name _, found => misfit found name
  | .text, .text value => .ok (.text value)
  | .text, found => misfit found (Shape.expected .text)
  | .checkedText problem, .text value =>
    match problem value with
    | none => .ok (.text value)
    | some reason => .error reason
  | .checkedText _, found => misfit found (Shape.expected .text)
  | .optional inner, found => conform inner found
  | .listOf item, found =>
    match found.items? with
    | some items => (items.mapM (conform item)).map .list
    | none => misfit found "a sequence"
  | .textMap, found =>
    match found.members? with
    | some members => (texts members).map .record
    | none => misfit found "a map"
  | .record name shapes, found => record name shapes (memberReaders shapes) found

/-- How the members of a record are looked at. -/
def memberReaders : List (String × Shape × Option Json) → List Member
  | [] => []
  | (name, shape, fallback) :: rest => ⟨name, conform shape, fallback⟩ :: memberReaders rest

end

end Toml
end FunctionHost

import FunctionHost.Json.Value
/-!
# Shapes of documents

What a document has to look like, as data: flags, counts with an upper bound, texts, lists, maps
and records whose members may have defaults.  Each format has one reader that follows a shape;
this module holds what the readers share, above all the wording of refusals.
-/
namespace FunctionHost

/-- **A shape.** -/
inductive Shape where
  /-- A truth value. -/
  | flag
  /-- A natural number up to a maximum; the name says which numbers these are. -/
  | count (name : String) (max : Nat)
  /-- A text. -/
  | text
  /-- A text or nothing; `problem` says what is wrong with a text. -/
  | checkedText (problem : String → Option String)
  /-- Something or nothing. -/
  | optional (inner : Shape)
  /-- Any number of things. -/
  | listOf (item : Shape)
  /-- Texts by name. -/
  | textMap
  /-- Members by name; a member without a default is required. -/
  | record (name : String) (members : List (String × Shape × Option Json))

namespace Shape

/-- What a reader expects where the shape stands. -/
def expected : Shape → String
  | .flag => "a boolean"
  | .count name _ => name
  | .text => "a string"
  | .checkedText _ => "a string"
  | .optional inner => inner.expected
  | .listOf _ => "a sequence"
  | .textMap => "a map"
  | .record name _ => "struct " ++ name

/-- Something of the wrong kind. -/
def invalidType (found expected : String) : String :=
  "invalid type: " ++ found ++ ", expected " ++ expected

/-- Something of the right kind that is out of range. -/
def invalidValue (found expected : String) : String :=
  "invalid value: " ++ found ++ ", expected " ++ expected

/-- A list with too few items for a record. -/
def invalidLength (length : Nat) (name : String) (members : Nat) : String :=
  "invalid length " ++ toString length ++ ", expected struct " ++ name ++ " with "
    ++ toString members ++ (if members = 1 then " element" else " elements")

/-- A required member that is not there. -/
def missingField (name : String) : String := "missing field `" ++ name ++ "`"

/-- A member that is there twice. -/
def duplicateField (name : String) : String := "duplicate field `" ++ name ++ "`"

/-- An integer, as refusals show it. -/
def shownInteger (n : Int) : String := "integer `" ++ toString n ++ "`"

/-- A truth value, as refusals show it. -/
def shownFlag (b : Bool) : String := "boolean `" ++ (if b then "true" else "false") ++ "`"

/-- The numbers of 16, 32 and 64 bits, and sizes. -/
def u16 : Shape := .count "u16" (UInt16.size - 1)

@[inherit_doc u16]
def u32 : Shape := .count "u32" (UInt32.size - 1)

@[inherit_doc u16]
def u64 : Shape := .count "u64" (UInt64.size - 1)

@[inherit_doc u16]
def usize : Shape := .count "usize" (UInt64.size - 1)

/-- The members of a record with defaults filled in, in the order of the shape, or the first
required one that is missing. -/
def complete (found : List (String × Json)) :
    List (String × Shape × Option Json) → Except String (List (String × Json))
  | [] => .ok []
  | (name, _, fallback) :: rest =>
    match (found.find? (·.1 == name)).map (·.2) <|> fallback with
    | none => .error (missingField name)
    | some value => (complete found rest).map ((name, value) :: ·)

end Shape
end FunctionHost

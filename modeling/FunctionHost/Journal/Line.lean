import FunctionHost.Journal
import FunctionHost.Json.Value
/-!
# Events as lines

An event as a document, and as a line for people to read.
-/
namespace FunctionHost

/-- The value of a field as a document. -/
def FieldValue.document : FieldValue → Json
  | .text value => .text value
  | .number value => .nat value
  | .flag value => .bool value

/-- The value of a field as a text. -/
def FieldValue.shown : FieldValue → String
  | .text value => value
  | .number value => toString value
  | .flag value => Text.truth value

namespace Event

/-- **An event as a document**: the message is one of its fields. -/
def document (e : Event) : Json := .record [
  ("level", .text e.level.name),
  ("fields", .record (("message", .text e.message)
    :: e.fields.map fun (name, value) => (name, value.document))),
  ("target", .text e.target)]

/-- An event as a line for people to read. -/
def shown (e : Event) : String :=
  let level := String.ofList (List.replicate (5 - e.level.name.length) ' ') ++ e.level.name
  let fields := e.fields.map fun (name, value) => " " ++ name ++ "=" ++ value.shown
  level ++ " " ++ e.target ++ ": " ++ e.message ++ String.join fields

end Event
end FunctionHost

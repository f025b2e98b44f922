import FunctionHost.Text.Quoted
/-!
# The journal

What the host reports about itself: events with a place of origin, a level, a message and named
values, in the order in which they happened.  What guests log goes to the same journal.
-/
namespace FunctionHost

/-- How important an event is. -/
inductive Level where
  /-- Something is broken. -/
  | error
  /-- Something is wrong. -/
  | warn
  /-- Something happened. -/
  | info
  /-- Something that helps to understand the host. -/
  | debug
  /-- Something that helps to follow it step by step. -/
  | trace
  deriving DecidableEq, Repr, Inhabited

namespace Level

/-- The name of the level. -/
def name : Level → String
  | .error => "ERROR"
  | .warn => "WARN"
  | .info => "INFO"
  | .debug => "DEBUG"
  | .trace => "TRACE"

/-- How much is reported when this level is the lowest one of interest. -/
def verbosity : Level → Nat
  | .error => 1
  | .warn => 2
  | .info => 3
  | .debug => 4
  | .trace => 5

end Level

/-- The value of a field. -/
inductive FieldValue where
  /-- A text. -/
  | text (value : String)
  /-- A number. -/
  | number (value : Nat)
  /-- A truth value. -/
  | flag (value : Bool)
  deriving DecidableEq, Repr, Inhabited

namespace FieldValue

/-- A duration, which differs from run to run: all are shown alike. -/
def duration : FieldValue := .text "_"

end FieldValue

/-- **An event.** -/
structure Event where
  /-- Where it comes from. -/
  target : String
  /-- How important it is. -/
  level : Level
  /-- What happened. -/
  message : String
  /-- With which values. -/
  fields : List (String × FieldValue) := []
  /-- Whether a guest wrote it. -/
  fromGuest : Bool := false
  deriving DecidableEq, Repr, Inhabited

/-- **A journal**: the events so far, the first one first. -/
abbrev Journal := Array Event

namespace Journal

/-- The events from a position on that are the host's own. -/
def hostEvents (j : Journal) (since : Nat) : List Event :=
  (j.toList.drop since).filter (!·.fromGuest)

/-- The events from a position on that guests wrote. -/
def guestEvents (j : Journal) (since : Nat) : List Event :=
  (j.toList.drop since).filter (·.fromGuest)

end Journal
end FunctionHost

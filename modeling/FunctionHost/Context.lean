/-!
# The context of a request

A request has an identity, perhaps a deadline and perhaps a token by which it can be cancelled.
Time is counted in milliseconds by a `Clock`, which also knows the cancelled tokens.

A **guarded wait** watches a piece of work together with a context.  `guard` is one look at it: the
work comes first, then cancellation, then the deadline.  Before the work is looked at for the first
time the context must be open, which `interruption` tells.  `Context.ending` says how and when a
guarded wait ends if work, cancellation and deadline come at given instants.
-/
namespace FunctionHost

/-- **Time and cancellation.** -/
structure Clock where
  /-- Milliseconds since the beginning. -/
  now : Nat := 0
  /-- The tokens that are cancelled. -/
  cancelled : List Nat := []
  /-- Tokens that will be cancelled, each with the instant. -/
  planned : List (Nat × Nat) := []
  deriving DecidableEq, Repr, Inhabited

namespace Clock

/-- Cancels a token. -/
def cancel (c : Clock) (token : Nat) : Clock := { c with cancelled := token :: c.cancelled }

/-- Cancels a token at an instant to come. -/
def plan (c : Clock) (instant token : Nat) : Clock :=
  { c with planned := c.planned ++ [(instant, token)] }

/-- The clock at a later instant; what was planned until then is cancelled. -/
def advance (c : Clock) (instant : Nat) : Clock :=
  let due := c.planned.filter (·.1 ≤ instant)
  { now := max c.now instant
    cancelled := due.map (·.2) ++ c.cancelled
    planned := c.planned.filter fun p => !(p.1 ≤ instant) }

/-- The last instant that can be told, in milliseconds. -/
def lastInstant : Nat := UInt64.size / 2 * 1000 - 1

end Clock

/-- **The identity of a request.** -/
inductive RequestId where
  /-- The caller chose it. -/
  | given (text : String)
  /-- The host made it up; no two are alike. -/
  | generated (number : Nat)
  deriving DecidableEq, Repr, Inhabited

namespace RequestId

/-- The identity in texts.  One that was made up differs from run to run: all are shown alike. -/
def shown : RequestId → String
  | .given text => text
  | .generated _ => "_"

/-- How many bytes an identity has; one that was made up has the 36 of a random identifier. -/
def length : RequestId → Nat
  | .given text => text.utf8ByteSize
  | .generated _ => 36

end RequestId

/-- **The context of a request.** -/
structure Context where
  /-- Its identity. -/
  request : RequestId
  /-- The module that serves it, once that is known. -/
  module : Option String := none
  /-- The entrypoint that serves it, once that is known. -/
  entrypoint : Option String := none
  /-- The instant at which it ends. -/
  deadline : Option Nat := none
  /-- The token by which it can be cancelled. -/
  token : Option Nat := none
  deriving DecidableEq, Repr, Inhabited

/-- Why a guarded wait ended before the work did. -/
inductive Interruption where
  /-- The context was cancelled. -/
  | canceled
  /-- The context's deadline came. -/
  | deadlineExceeded
  deriving DecidableEq, Repr, Inhabited

namespace Context

/-- The context with a deadline some milliseconds from now; one too far away to tell is none. -/
def withTimeout (c : Context) (now milliseconds : Nat) : Context :=
  let instant := now + milliseconds
  { c with deadline := if instant ≤ Clock.lastInstant then some instant else none }

/-- The context for an entrypoint of a module. -/
def serving (c : Context) (module entrypoint : String) : Context :=
  { c with module := some module, entrypoint := some entrypoint }

/-- Whether the context is cancelled. -/
def isCancelled (c : Context) (clock : Clock) : Bool :=
  match c.token with
  | none => false
  | some token => clock.cancelled.contains token

/-- Whether the deadline has come. -/
def isExpired (c : Context) (clock : Clock) : Bool :=
  match c.deadline with
  | none => false
  | some deadline => deadline ≤ clock.now

/-- Milliseconds to the deadline. -/
def remaining (c : Context) (clock : Clock) : Option Nat := c.deadline.map (· - clock.now)

/-- Why a wait ends now, if the work does not end it: cancellation counts before the deadline. -/
def interruption (c : Context) (clock : Clock) : Option Interruption :=
  if c.isCancelled clock then some .canceled
  else if c.isExpired clock then some .deadlineExceeded
  else none

/-- **One look at guarded work**: its result if there is one, else an interruption if there is
one, else nothing yet. -/
def guard {α : Type} (c : Context) (clock : Clock) (work : Option α) :
    Option (Except Interruption α) :=
  match work with
  | some result => some (.ok result)
  | none => (c.interruption clock).map .error

/-- The earlier of two instants, either of which may never come. -/
def earlier : Option Nat → Option Nat → Option Nat
  | none, b => b
  | a, none => a
  | some a, some b => some (min a b)

/-- The first instant, not before now, at which something ends a wait. -/
def wakeup (c : Context) (clock : Clock) (work : Option Nat) : Option Nat :=
  if c.isCancelled clock then some clock.now
  else
    let planned := (clock.planned.filter fun p => some p.2 = c.token).map (·.1)
    let first := planned.foldl (fun acc t => earlier acc (some t)) none
    (earlier work (earlier c.deadline first)).map (max clock.now)

/-- **How a guarded wait ends**, and the clock when it does: `work` is the instant at which the
work is done, if ever.  A context that is not open ends the wait before it begins. -/
def ending (c : Context) (clock : Clock) (work : Option Nat) :
    Option (Clock × Except Interruption Unit) :=
  match c.interruption clock with
  | some why => some (clock, .error why)
  | none =>
    match c.wakeup clock work with
    | none => none
    | some instant =>
      let later := clock.advance instant
      let done := match work with
        | some w => if w ≤ later.now then some () else none
        | none => none
      (c.guard later done).map (later, ·)

end Context
end FunctionHost

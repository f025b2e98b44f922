import FunctionHost.Context
/-!
# Permits

A pool gives out one permit per instance, first come first served: whoever finds none waits, and a
permit that is given back goes to whoever waits longest.  It is theirs from then on, also before
they notice.  Once the permits are closed nobody gets one any more.
-/
namespace FunctionHost

/-- **Somebody who waits** for a permit. -/
structure Waiter where
  /-- The number under which they wait. -/
  ticket : Nat
  /-- The request on whose behalf they wait. -/
  context : Context
  /-- The instant since which they wait. -/
  since : Nat
  /-- Whether a permit is theirs. -/
  granted : Bool := false
  deriving DecidableEq, Repr, Inhabited

/-- **Permits** and those who wait for one. -/
structure Permits where
  /-- How many permits nobody has. -/
  free : Nat
  /-- Those who wait, the longest first. -/
  waiters : List Waiter := []
  /-- Whether nobody gets a permit any more. -/
  closed : Bool := false
  deriving DecidableEq, Repr, Inhabited

namespace Permits

/-- Those who wait, once the first of them without a permit has got one. -/
def grantFirst : List Waiter → Option (List Waiter)
  | [] => none
  | w :: rest =>
    if w.granted then (grantFirst rest).map (w :: ·)
    else some ({ w with granted := true } :: rest)

/-- **Gives a permit back**: it goes to whoever waits longest, if anybody does. -/
def release (p : Permits) : Permits :=
  match if p.closed then none else grantFirst p.waiters with
  | some waiters => { p with waiters := waiters }
  | none => { p with free := p.free + 1 }

/-- Takes a permit that nobody has. -/
def take? (p : Permits) : Option Permits :=
  match p.closed, p.free with
  | false, free + 1 => some { p with free := free }
  | _, _ => none

/-- Begins to wait. -/
def enqueue (p : Permits) (w : Waiter) : Permits := { p with waiters := p.waiters ++ [w] }

/-- Whoever waits under a number. -/
def waiter? (p : Permits) (ticket : Nat) : Option Waiter :=
  p.waiters.find? (·.ticket = ticket)

/-- Nobody waits under a number any more; a permit granted to them is not given back. -/
def remove (p : Permits) (ticket : Nat) : Permits :=
  { p with waiters := p.waiters.filter (·.ticket ≠ ticket) }

/-- **Stops waiting**: a permit granted before goes back. -/
def withdraw (p : Permits) (w : Waiter) : Permits :=
  let p := p.remove w.ticket
  if w.granted then p.release else p

/-- No permit is given out any more. -/
def close (p : Permits) : Permits := { p with closed := true }

end Permits
end FunctionHost

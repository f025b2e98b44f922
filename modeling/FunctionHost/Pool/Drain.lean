import FunctionHost.Pool.Basic
/-!
# Draining a pool

A pool is closed at once and for ever.  Whoever drains it then waits until no instance is leased or
time is up, and destroys what is idle; what is still leased is destroyed when it comes back.  Nobody
looks at what is leased all the time: whoever waits is told each time an instance has come back.
-/
namespace FunctionHost

/-- **What came of draining a pool.** -/
structure DrainOutcome where
  /-- How many idle instances were destroyed. -/
  destroyed : Nat
  /-- How many instances were still leased. -/
  outstanding : Nat
  deriving DecidableEq, Repr, Inhabited

/-- **The wait of somebody who drains a pool.** -/
structure DrainWait where
  /-- The instant until which they wait. -/
  deadline : Option Nat
  /-- How often the pool had told of an instance when they began to wait. -/
  told : Nat
  deriving DecidableEq, Repr, Inhabited

namespace Pool

variable {σ : Type}

/-- The pool once nobody gets an instance any more. -/
def close (p : Pool) : Pool := { p with permits := p.permits.close }

/-- The instant until which somebody waits who waits for some milliseconds; one too far away to
tell is none. -/
def drainDeadline (clock : Clock) (milliseconds : Nat) : Option Nat :=
  let instant := clock.now + milliseconds
  if instant ≤ Clock.lastInstant then some instant else none

/-- The end of draining. -/
def emptied (w : World σ) (p : Pool) : World σ × Pool × DrainOutcome :=
  let outcome : DrainOutcome := { destroyed := p.idle.length, outstanding := p.leased }
  let w := { w with slots := w.slots - outcome.destroyed }
  let p := { p with idle := [], destroyed := p.destroyed + outcome.destroyed }
  let w := if outcome.outstanding = 0 then w else
    w.report (event .warn "Drain timed out with leases outstanding" [
      ("outstanding", .number outcome.outstanding)])
  (w.report (event .info "Instance pool drained" [("destroyed", .number outcome.destroyed)]),
    p, outcome)

/-- Whether draining is over. -/
def drainOver (clock : Clock) (p : Pool) (deadline : Option Nat) : Bool :=
  p.leased = 0 || deadline.any (· ≤ clock.now)

/-- **Looks whether draining is over**, given the instant until which to wait. -/
def pollDrain (w : World σ) (p : Pool) (deadline : Option Nat) :
    World σ × Pool × Option DrainOutcome :=
  if drainOver w.clock p deadline then
    let (w, p, outcome) := emptied w p
    (w, p, some outcome)
  else (w, p, none)

/-- A wait that begins now. -/
def await (p : Pool) (deadline : Option Nat) : DrainWait := ⟨deadline, p.returned⟩

/-- The instant at which somebody who drains the pool looks again, as far as that can be told: at once
if they have been told of an instance since they began to wait. -/
def drainDue (clock : Clock) (p : Pool) (wait : DrainWait) : Option Nat :=
  if p.returned ≠ wait.told then some clock.now else wait.deadline.map (max clock.now)

end Pool
end FunctionHost

import FunctionHost.Pool.Basic
/-!
# Checking an instance out

Somebody who wants an instance gets one at once, or waits for one as long as their context and the
pool's settings allow.  While they wait, the pool keeps them under a number: `checkout` begins,
`pollCheckout` looks whether the wait is over, `leaveQueue` gives up.
-/
namespace FunctionHost
namespace Pool

variable {σ : Type}

/-- The context of a wait: without a deadline of its own the pool's applies. -/
def bounded (p : Pool) (clock : Clock) (c : Context) : Context :=
  match c.deadline, p.checkoutTimeout with
  | none, some ms => c.withTimeout clock.now ms
  | _, _ => c

/-- The end of a wait that its context ended. -/
def interrupted (w : World σ) (p : Pool) (since : Nat) : Interruption → World σ × HostError
  | .canceled => (w, .canceled)
  | .deadlineExceeded =>
    let waited := w.clock.now - since
    (w.report (p.namedEvent .debug "Checkout timed out" [("waited_ms", .number waited)]),
      .timeout waited)

/-- **Asks for an instance**: a lease, a refusal, or a number under which to wait. -/
def checkout (w : World σ) (p : Pool) (c : Context) :
    World σ × Pool × Standing Nat (Except HostError Nat) :=
  if p.closed then (w, p, .ended (.error p.closedError))
  else
    let c := p.bounded w.clock c
    match c.interruption w.clock with
    | some why =>
      let (w, e) := interrupted w p w.clock.now why
      (w, p, .ended (.error e))
    | none =>
      match p.permits.take? with
      | some permits =>
        let (w, p, outcome) := lend w { p with permits := permits }
        (w, p, .ended outcome)
      | none =>
        let ticket := p.nextNumber
        let waiter : Waiter := { ticket := ticket, context := c, since := w.clock.now }
        (w, { p with permits := p.permits.enqueue waiter, nextNumber := ticket + 1 },
          .blocked ticket)

/-- **Looks whether a wait is over**: a permit counts before cancellation, and that before the
deadline. -/
def pollCheckout (w : World σ) (p : Pool) (ticket : Nat) :
    World σ × Pool × Standing Nat (Except HostError Nat) :=
  match p.permits.waiter? ticket with
  | none => (w, p, .ended (.error p.closedError))
  | some waiter =>
    if p.closed then
      (w, { p with permits := p.permits.withdraw waiter }, .ended (.error p.closedError))
    else if waiter.granted then
      let (w, p, outcome) := lend w { p with permits := p.permits.remove ticket }
      (w, p, .ended outcome)
    else
      match waiter.context.interruption w.clock with
      | some why =>
        let (w, e) := interrupted w p waiter.since why
        (w, { p with permits := p.permits.withdraw waiter }, .ended (.error e))
      | none => (w, p, .blocked ticket)

/-- Gives up waiting. -/
def leaveQueue (p : Pool) (ticket : Nat) : Pool :=
  match p.permits.waiter? ticket with
  | none => p
  | some waiter => { p with permits := p.permits.withdraw waiter }

/-- The instant at which a wait is over, as far as that can be told. -/
def checkoutDue (clock : Clock) (p : Pool) (ticket : Nat) : Option Nat :=
  match p.permits.waiter? ticket with
  | none => some clock.now
  | some waiter =>
    if p.closed || waiter.granted then some clock.now else waiter.context.wakeup clock none

/-- **Asks for an instance without waiting.** -/
def tryCheckout (w : World σ) (p : Pool) : World σ × Pool × Except HostError Nat :=
  if p.closed then (w, p, .error p.closedError)
  else
    match p.permits.take? with
    | some permits => lend w { p with permits := permits }
    | none => (w, p, .error (.poolExhausted p.name))

/-! ## Calls on a leased instance -/

/-- The refusal of a call on a lease that is over. -/
def releasedError : HostError := .execution "lease already released"

/-- The pool after a step of a call on a lease. -/
def afterCall (p : Pool) (l : Lease) (i : Instance) :
    Standing Call Call.Result → Pool × Standing Unit Call.Result
  | .busy c => (p.setLease { l with held := i, call := some c }, .busy ())
  | .blocked c => (p.setLease { l with held := i, call := some c }, .blocked ())
  | .ended result => (p.setLease { l with held := i, call := none }, .ended result)

/-- **Begins a call** on a leased instance. -/
def beginCall (w : World σ) (p : Pool) (lease : Nat) (c : Context) (entrypoint : String)
    (payload : Bytes) : World σ × Pool × Standing Unit Call.Result :=
  match p.lease? lease with
  | none => (w, p, .ended (.error releasedError))
  | some l =>
    let (w, i, standing) := Call.begin w l.held c entrypoint payload
    let (p, standing) := p.afterCall l i standing
    (w, p, standing)

/-- **Takes a call further.** -/
def proceedCall (rounds : Nat) (w : World σ) (p : Pool) (lease : Nat) :
    World σ × Pool × Standing Unit Call.Result :=
  match p.lease? lease with
  | none => (w, p, .ended (.error releasedError))
  | some l =>
    match l.call with
    | none => (w, p, .ended (.error releasedError))
    | some c =>
      let (w, i, standing) := Call.proceed rounds w l.held c
      let (p, standing) := p.afterCall l i standing
      (w, p, standing)

/-- Gives a call up where it waits; the instance stays as the call left it. -/
def dropCall (p : Pool) (lease : Nat) : Pool :=
  match p.lease? lease with
  | none => p
  | some l => p.setLease { l with call := none }

/-- The instant at which a call on a lease goes on. -/
def callDue (clock : Clock) (p : Pool) (lease : Nat) : Option Nat :=
  match (p.lease? lease).bind (·.call) with
  | none => some clock.now
  | some c => c.wakeup clock

end Pool
end FunctionHost

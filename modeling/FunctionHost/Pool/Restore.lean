import FunctionHost.Pool.Basic
/-!
# Giving an instance back

An instance that comes back and is well tidies up and becomes idle.  One that is faulted, or that
faults while tidying up, is destroyed; another one is made in its place unless the pool is closed.
If that fails the pool has one instance less for ever.

A lease that is dropped rather than given back counts as faulted.
-/
namespace FunctionHost

/-- **What became of an instance that came back.** -/
inductive Restored where
  /-- It tidied up and is idle. -/
  | kept (i : Instance)
  /-- It is gone, and another one is idle in its place. -/
  | replaced (i : Instance)
  /-- It is gone and could not be replaced. -/
  | lost (cause : HostError)
  /-- It is gone, and nothing takes its place in a closed pool. -/
  | discarded
  deriving Inhabited

namespace Pool

variable {σ : Type}

/-- The end of a restoration: its permit is given back. -/
def settled (p : Pool) (r : Restoration) : Pool :=
  ((p.removeRestoration r.number).releasePermit).finishReturn

/-- The end of a restoration that leaves an instance behind. -/
def keep (p : Pool) (r : Restoration) (i : Instance) : Pool :=
  settled { p with idle := i :: p.idle } r

/-- What follows a step of making the replacement. -/
def afterBirth (w : World σ) (p : Pool) (r : Restoration) :
    Standing Birth Birth.Result → World σ × Pool × Standing Unit Restored
  | .busy b => (w, p.setRestoration { r with stage := .replacing b }, .busy ())
  | .blocked b => (w, p.setRestoration { r with stage := .replacing b }, .blocked ())
  | .ended (.ok i) =>
    if p.closed then
      (w.freeSlot, { p with destroyed := p.destroyed + 1 }.settled r, .ended .discarded)
    else (w, { p with replaced := p.replaced + 1 }.keep r i, .ended (.replaced i))
  | .ended (.error e) =>
    let (w, p) := shrink w p e
    (w, (p.removeRestoration r.number).finishReturn, .ended (.lost e))

/-- **Destroys the instance** that came back and begins to replace it if the pool is open. -/
def replace (w : World σ) (p : Pool) (r : Restoration) : World σ × Pool × Standing Unit Restored :=
  let id := ("instance_id", FieldValue.number r.instanceId)
  let w := w.freeSlot
  let p := { p with destroyed := p.destroyed + 1 }
  if p.closed then
    (w.report (p.namedEvent .debug "Instance destroyed after drain" [id]), p.settled r,
      .ended .discarded)
  else
    let w := w.report (p.namedEvent .warn "Replacing faulted instance" [id])
    let p := { p with made := p.made + 1 }
    let (w, standing) := Birth.begin w p.blueprint p.made
    afterBirth w p r standing

/-- What follows a step of tidying up. -/
def afterReset (w : World σ) (p : Pool) (r : Restoration) (i : Instance) :
    Standing Reset Reset.Result → World σ × Pool × Standing Unit Restored
  | .busy x => (w, p.setRestoration { r with stage := .resetting i x }, .busy ())
  | .blocked x => (w, p.setRestoration { r with stage := .resetting i x }, .blocked ())
  | .ended (.ok _) =>
    if p.closed then replace w p r
    else
      let i := i.setState .idle
      (w, p.keep r i, .ended (.kept i))
  | .ended (.error e) =>
    replace (w.report (p.namedEvent .warn "Reset failed" [
      ("instance_id", .number r.instanceId), ("error", .text e.message)])) p r

/-- Begins a restoration. -/
def startRestoration (w : World σ) (p : Pool) (r : Restoration) (i : Instance) :
    World σ × Pool × Standing Unit Restored :=
  if i.isFaulted then replace w p r
  else
    let (w, i, standing) := Reset.begin w i
    afterReset w p r i standing

/-- **Takes a restoration further.** -/
def proceedRestoration (rounds : Nat) (w : World σ) (p : Pool) (number : Nat) :
    World σ × Pool × Standing Unit Restored :=
  match p.restoration? number with
  | none => (w, p, .ended .discarded)
  | some r =>
    match r.stage with
    | .pending i => startRestoration w p r i
    | .resetting i x =>
      let (w, i, standing) := Reset.proceed rounds w i x
      afterReset w p r i standing
    | .replacing b =>
      let (w, standing) := Birth.proceed rounds w b
      afterBirth w p r standing

/-- The instant at which a restoration goes on. -/
def restorationDue (clock : Clock) (p : Pool) (number : Nat) : Option Nat :=
  match p.restoration? number with
  | some ⟨_, _, .resetting _ r⟩ => r.wakeup clock
  | some ⟨_, _, .replacing b⟩ => b.wakeup clock
  | _ => some clock.now

/-- Gives a restoration up where it waits: its instance is gone and its permit given back, but
nobody accounts for the lease any more. -/
def dropRestoration (w : World σ) (p : Pool) (number : Nat) : World σ × Pool :=
  match p.restoration? number with
  | none => (w, p)
  | some _ => (w.freeSlot, (p.removeRestoration number).releasePermit)

/-- A lease becomes a restoration that has not begun; its number, too. -/
def giveBack (p : Pool) (l : Lease) : Pool × Nat :=
  let r : Restoration :=
    { number := p.nextNumber, instanceId := l.held.id, stage := .pending l.held }
  ({ p.removeLease l.number with
      restorations := p.restorations ++ [r]
      nextNumber := p.nextNumber + 1 }, r.number)

/-- **Gives a leased instance back**: the number of the restoration, if the lease is there. -/
def release (p : Pool) (lease : Nat) : Pool × Option Nat :=
  match p.lease? lease with
  | none => (p, none)
  | some l =>
    let (p, number) := p.giveBack { l with call := none }
    (p, some number)

/-- **Drops a lease**: the instance counts as faulted and is restored by somebody else. -/
def abandon (w : World σ) (p : Pool) (lease : Nat) : World σ × Pool × Option Nat :=
  match p.lease? lease with
  | none => (w, p, none)
  | some l =>
    let w := w.report (p.namedEvent .debug "Lease abandoned" [("instance_id", .number l.held.id)])
    let (p, number) := p.giveBack { l with held := l.held.setState .faulted, call := none }
    (w, p, some number)

/-- Drops a lease where nobody can restore anything: the instance is lost. -/
def abandonForGood (w : World σ) (p : Pool) (lease : Nat) : World σ × Pool :=
  match p.lease? lease with
  | none => (w, p)
  | some l =>
    let p := { p.removeLease l.number with destroyed := p.destroyed + 1 }
    let (w, p) := shrink w.freeSlot p (.execution "lease abandoned outside a runtime")
    (w, p.finishReturn)

end Pool
end FunctionHost

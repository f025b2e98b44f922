import FunctionHost.Guest.Instance
import FunctionHost.Pool.Permits
/-!
# Pools

A pool holds the instances of one module.  An instance is idle, or leased to somebody, or being
restored after a lease; what is idle is lent last in, first out.  A lease stands for an instance
and for a permit, so there are never more free permits than idle instances.

Leases and restorations have numbers, which the pool gives out; whoever holds a number can act on
what it stands for.  Everything that happens to a pool happens in one of the acts of this folder,
each of which goes on until it waits for something.
-/
namespace FunctionHost

/-- **An instance that somebody holds**, and the call in progress on it. -/
structure Lease where
  /-- The number of the lease. -/
  number : Nat
  /-- The instance. -/
  held : Instance
  /-- The call in progress, if there is one. -/
  call : Option Call := none
  deriving Inhabited

/-- How far a restoration has come. -/
inductive RestorationStage where
  /-- It has not begun. -/
  | pending (i : Instance)
  /-- The instance tidies up. -/
  | resetting (i : Instance) (r : Reset)
  /-- The instance is gone and another one is being made. -/
  | replacing (b : Birth)
  deriving Inhabited

/-- **What happens after a lease**: the instance becomes idle again or is replaced. -/
structure Restoration where
  /-- Its number. -/
  number : Nat
  /-- The number of the instance that was leased. -/
  instanceId : Nat
  /-- How far it has come. -/
  stage : RestorationStage
  deriving Inhabited

/-- **A pool.** -/
structure Pool where
  /-- What its instances are made from. -/
  blueprint : Blueprint
  /-- How many instances it was made for. -/
  size : Nat
  /-- Milliseconds that a request without a deadline waits for an instance. -/
  checkoutTimeout : Option Nat
  /-- How many instances have been numbered. -/
  made : Nat
  /-- Instances that nobody uses, the next one to be lent first. -/
  idle : List Instance
  /-- The permits. -/
  permits : Permits
  /-- The leases. -/
  leases : List Lease := []
  /-- The restorations in progress. -/
  restorations : List Restoration := []
  /-- The next number for a waiter, a lease or a restoration. -/
  nextNumber : Nat := 0
  /-- How many instances there are. -/
  capacity : Nat
  /-- How many instances are leased or being restored. -/
  leased : Nat := 0
  /-- How often those who drain the pool were told that an instance has come back. -/
  returned : Nat := 0
  /-- How many instances were destroyed. -/
  destroyed : Nat := 0
  /-- How many instances were replaced. -/
  replaced : Nat := 0
  deriving Inhabited

namespace Pool

/-- The name of the pool's module. -/
def name (p : Pool) : String := p.blueprint.name

/-- Whether the pool is closed. -/
def closed (p : Pool) : Bool := p.permits.closed

/-- Whether instances were lost that could not be replaced. -/
def degraded (p : Pool) : Bool := p.capacity < p.size

/-- The pool, as diagnostics show it. -/
def shown (p : Pool) : String := Text.openRecord "InstancePool" [
  ("module_id", Text.quoted p.name),
  ("size", toString p.size)]

/-- An event about a pool. -/
def event (level : Level) (message : String) (fields : List (String × FieldValue)) : Event :=
  { target := "capsule_core::pool", level := level, message := message, fields := fields }

/-- An event about a pool that names its module. -/
def namedEvent (p : Pool) (level : Level) (message : String)
    (fields : List (String × FieldValue)) : Event :=
  event level message (("module", .text p.name) :: fields)

/-- The refusal of a closed pool. -/
def closedError (p : Pool) : HostError := .poolClosed p.name

/-- The pool with a permit given back. -/
def releasePermit (p : Pool) : Pool := { p with permits := p.permits.release }

/-! ## Leases -/

/-- The lease with a number. -/
def lease? (p : Pool) (number : Nat) : Option Lease := p.leases.find? (·.number = number)

/-- The lease, as diagnostics show it. -/
def leaseShown (p : Pool) (l : Lease) : String := Text.record "PooledInstance" [
  ("module_id", Text.quoted p.name),
  ("instance", Text.optional (some (toString l.held.id)))]

/-- The pool with another state of a lease. -/
def setLease (p : Pool) (l : Lease) : Pool :=
  { p with leases := p.leases.map fun x => if x.number = l.number then l else x }

/-- The pool without a lease. -/
def removeLease (p : Pool) (number : Nat) : Pool :=
  { p with leases := p.leases.filter (·.number ≠ number) }

/-- **Lends an instance** to the holder of a permit. -/
def lend {σ : Type} (w : World σ) (p : Pool) : World σ × Pool × Except HostError Nat :=
  if p.closed then (w, p.releasePermit, .error p.closedError)
  else
    match p.idle with
    | [] =>
      (w.report (p.namedEvent .error "Permit acquired with no idle instance" []),
        p.releasePermit, .error (.execution "no idle instance available"))
    | i :: rest =>
      let l : Lease := { number := p.nextNumber, held := i.setState .leased }
      (w, { p with
          idle := rest
          leases := p.leases ++ [l]
          nextNumber := p.nextNumber + 1
          leased := p.leased + 1 }, .ok l.number)

/-! ## Restorations -/

/-- The restoration with a number. -/
def restoration? (p : Pool) (number : Nat) : Option Restoration :=
  p.restorations.find? (·.number = number)

/-- The pool with another stage of a restoration. -/
def setRestoration (p : Pool) (r : Restoration) : Pool :=
  { p with restorations := p.restorations.map fun x => if x.number = r.number then r else x }

/-- The pool without a restoration. -/
def removeRestoration (p : Pool) (number : Nat) : Pool :=
  { p with restorations := p.restorations.filter (·.number ≠ number) }

/-- The pool once a leased instance is accounted for, and those who drain the pool are told. -/
def finishReturn (p : Pool) : Pool :=
  { p with leased := p.leased - 1, returned := p.returned + 1 }

/-- **Gives an instance up** that is not replaced: its permit is never given out again. -/
def shrink {σ : Type} (w : World σ) (p : Pool) (cause : HostError) : World σ × Pool :=
  let p := { p with capacity := p.capacity - 1 }
  (w.report (p.namedEvent .error "Instance replacement failed, pool degraded" [
    ("capacity", .number p.capacity),
    ("size", .number p.size),
    ("error", .text cause.message)]), p)

end Pool
end FunctionHost

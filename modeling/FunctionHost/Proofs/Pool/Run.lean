import FunctionHost.Pool.Checkout
import FunctionHost.Pool.Drain
import FunctionHost.Pool.Fill
import FunctionHost.Pool.Restore

/-!
# Runs of a pool

Everything that happens to a pool happens in a `PoolAct`, which goes on until it waits for
something.  A **run** is any list of acts, each in a world of its own: between two acts time may
have passed, tokens may have been cancelled, other pools may have done anything.  So whatever is
shown of all runs holds for any number of tasks, however they take turns.

Not every list of acts can come about — a task that gives an instance back has to have leased it —
but each act finds what it acts on by number and does nothing if it is not there.

A run begins with a pool that was filled (`Filled`).  That too takes turns in any worlds, since the
guests being made may wait.
-/
namespace FunctionHost

/-- Whether an instance that came back is still there. -/
def RestorationStage.holds : RestorationStage → Bool
  | .pending _ | .resetting _ _ => true
  | .replacing _ => false

/-- Whether an instance is gone and could not be replaced. -/
def Restored.isLost : Restored → Bool
  | .lost _ => true
  | _ => false

/-- **What can happen to a pool** until it waits again. -/
inductive PoolAct where
  /-- Somebody asks for an instance. -/
  | checkout (context : Context)
  /-- Somebody asks for an instance and would not wait. -/
  | tryCheckout
  /-- Somebody who waits looks again. -/
  | pollCheckout (ticket : Nat)
  /-- Somebody gives up waiting. -/
  | leaveQueue (ticket : Nat)
  /-- A call begins. -/
  | beginCall (lease : Nat) (context : Context) (entrypoint : String) (payload : Bytes)
  /-- A call goes on. -/
  | proceedCall (rounds lease : Nat)
  /-- A call is given up, but not its lease. -/
  | dropCall (lease : Nat)
  /-- An instance is given back. -/
  | release (lease : Nat)
  /-- A lease is dropped. -/
  | abandon (lease : Nat)
  /-- A lease is dropped where nobody can restore anything. -/
  | abandonForGood (lease : Nat)
  /-- A restoration begins or goes on. -/
  | proceedRestoration (rounds number : Nat)
  /-- A restoration is given up. -/
  | dropRestoration (number : Nat)
  /-- The pool is drained, or whoever drains it looks again. -/
  | drain (deadline : Option Nat)

/-- **An instance of a pool**, with what it is in. -/
inductive Holding where
  /-- Nobody uses it. -/
  | idle (i : Instance)
  /-- Somebody holds it. -/
  | leased (l : Lease)
  /-- It came back, or another one is being made in its place. -/
  | returning (r : Restoration)

namespace PoolAct

variable {σ : Type}

/-- The pool after an act. -/
def perform (w : World σ) (p : Pool) : PoolAct → Pool
  | .checkout c => (p.checkout w c).2.1
  | .tryCheckout => (p.tryCheckout w).2.1
  | .pollCheckout ticket => (p.pollCheckout w ticket).2.1
  | .leaveQueue ticket => p.leaveQueue ticket
  | .beginCall lease c entrypoint payload => (p.beginCall w lease c entrypoint payload).2.1
  | .proceedCall rounds lease => (p.proceedCall rounds w lease).2.1
  | .dropCall lease => p.dropCall lease
  | .release lease => (p.release lease).1
  | .abandon lease => (p.abandon w lease).2.1
  | .abandonForGood lease => (p.abandonForGood w lease).2
  | .proceedRestoration rounds number => (p.proceedRestoration rounds w number).2.1
  | .dropRestoration number => (p.dropRestoration w number).2
  | .drain deadline => (p.close.pollDrain w deadline).2.1

/-- Rounds of guest code in an act. -/
def rounds : PoolAct → Nat
  | .proceedCall rounds _ | .proceedRestoration rounds _ => rounds
  | _ => 0

/-- The instance whose code an act runs, if it runs any. -/
def runs? (p : Pool) : PoolAct → Option Holding
  | .proceedCall _ lease => (p.lease? lease).bind fun l => l.call.map fun _ => .leased l
  | .proceedRestoration _ number => (p.restoration? number).map .returning
  | _ => none

/-- What became of an instance that came back, if the act is the end of its restoration. -/
def restored? (w : World σ) (p : Pool) : PoolAct → Option Restored
  | .proceedRestoration rounds number =>
    (p.restoration? number).bind fun _ => (p.proceedRestoration rounds w number).2.2.result?
  | _ => none

/-- Whether an act ends a restoration without an instance in the place of the one that is gone. -/
def fails (w : World σ) (p : Pool) (a : PoolAct) : Bool := (a.restored? w p).any Restored.isLost

/-- Whether an act breaks off a restoration in progress. -/
def interrupts (p : Pool) : PoolAct → Bool
  | .dropRestoration number => (p.restoration? number).isSome
  | _ => false

/-- Whether an act breaks off a restoration whose instance is still there. -/
def vanishes (p : Pool) : PoolAct → Bool
  | .dropRestoration number => (p.restoration? number).any (·.stage.holds)
  | _ => false

/-- Whether an act gives an instance up for good. -/
def forsakes (p : Pool) : PoolAct → Bool
  | .abandonForGood lease => (p.lease? lease).isSome
  | _ => false

/-- **An orderly act**: restorations are not given up, and leases are dropped only where somebody
can restore their instances. -/
def Orderly : PoolAct → Prop
  | .dropRestoration _ | .abandonForGood _ => False
  | _ => True

theorem Orderly.quiet {a : PoolAct} (h : a.Orderly) (p : Pool) :
    a.interrupts p = false ∧ a.vanishes p = false ∧ a.forsakes p = false := by
  cases a with
  | dropRestoration number => exact h.elim
  | abandonForGood lease => exact h.elim
  | _ => exact ⟨rfl, rfl, rfl⟩

end PoolAct

/-- **An act and the world** that it finds. -/
structure Moment (σ : Type) where
  /-- What all guests share at that moment. -/
  world : World σ
  /-- What happens. -/
  act : PoolAct

variable {σ : Type}

namespace Pool

/-- **The pool after a run.** -/
def run (p : Pool) (ms : List (Moment σ)) : Pool := ms.foldl (fun p m => m.act.perform m.world p) p

@[simp] theorem run_nil (p : Pool) : p.run ([] : List (Moment σ)) = p := rfl

@[simp] theorem run_cons (p : Pool) (m : Moment σ) (ms : List (Moment σ)) :
    p.run (m :: ms) = (m.act.perform m.world p).run ms := rfl

theorem run_append (p : Pool) (ms ms' : List (Moment σ)) :
    p.run (ms ++ ms') = (p.run ms).run ms' := List.foldl_append

/-- What a moment keeps, a run keeps. -/
theorem run_induction {I : Pool → Prop} {p : Pool} (hp : I p)
    (hstep : ∀ q (m : Moment σ), I q → I (m.act.perform m.world q)) (ms : List (Moment σ)) :
    I (p.run ms) := by
  induction ms generalizing p with
  | nil => exact hp
  | cons m ms ih => exact ih (hstep p m hp)

/-- How often something is the case in a run, seen from the pool before each moment. -/
def countMoments (is : Pool → Moment σ → Bool) (p : Pool) : List (Moment σ) → Nat
  | [] => 0
  | m :: ms => (is p m).toNat + (m.act.perform m.world p).countMoments is ms

/-- What the moments of a run bring, one after another, seen from the pool before each of them. -/
def collect {α : Type} (brings : Pool → Moment σ → List α) (p : Pool) : List (Moment σ) → List α
  | [] => []
  | m :: ms => brings p m ++ (m.act.perform m.world p).collect brings ms

end Pool

/-! ## Filled pools -/

/-- What one turn of the filling of a pool makes of how it stands. -/
def Filling.turn (s : Standing Filling Filling.Result) (m : Nat × World σ) :
    Standing Filling Filling.Result :=
  match s.work? with
  | some f => (Filling.proceed m.1 m.2 f).2
  | none => s

/-- **How the filling of a pool stands** that began in a world and had some turns since then, each
of some rounds and in a world of its own. -/
def Filling.turns (b : Blueprint) (size : Nat) (timeout : Option Nat) (w : World σ)
    (ms : List (Nat × World σ)) : Standing Filling Filling.Result :=
  ms.foldl Filling.turn (Filling.begin w b size timeout).2

/-- **A pool that was filled.** -/
def Filled (σ : Type) (b : Blueprint) (size : Nat) (timeout : Option Nat) (p : Pool) : Prop :=
  ∃ (w : World σ) (ms : List (Nat × World σ)), Filling.turns b size timeout w ms = .ended (.ok p)

end FunctionHost

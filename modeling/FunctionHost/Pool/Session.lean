import FunctionHost.Guest.Alone
import FunctionHost.Pool.Checkout
import FunctionHost.Pool.Drain
import FunctionHost.Pool.Fill
import FunctionHost.Pool.Restore
import FunctionHost.Session
/-!
# Using a pool by name

A pool in a session: its leases are kept under names, and everything that can be done with a pool is
a `PoolCommand`.
-/
namespace FunctionHost

/-- **What can be done with a pool.** -/
inductive PoolCommand where
  /-- Asks for an instance, to be kept under a name. -/
  | checkout (name : String)
  /-- The same without waiting. -/
  | tryCheckout (name : String)
  /-- Calls an entrypoint of a leased instance. -/
  | call (name entrypoint : String) (payload : Bytes)
  /-- Gives an instance back and waits until it is restored. -/
  | giveBack (name : String)
  /-- Drops a lease. -/
  | abandon (name : String)
  /-- Drops a lease where nobody can restore anything. -/
  | abandonForGood (name : String)
  /-- Drains the pool, waiting at most so long. -/
  | drain (milliseconds : Option Nat)
  /-- Gives an instance back and then drains the pool at once. -/
  | giveBackAndDrain (name : String) (milliseconds : Nat)
  /-- Looks at the pool. -/
  | look
  /-- Shows the pool and a lease. -/
  | inspect (name : String)

/-- **What comes of a command.** -/
inductive PoolReply where
  /-- An instance was leased. -/
  | leased (i : Instance)
  /-- No instance was leased. -/
  | refused (e : HostError)
  /-- A call is over; the instance afterwards. -/
  | called (outcome : Call.Result) (now : Option Instance)
  /-- It is done. -/
  | ok
  /-- There is no lease of that name. -/
  | noSuchLease
  /-- The pool is drained. -/
  | drained (outcome : DrainOutcome)
  /-- What the pool is like. -/
  | seen (p : Pool)
  /-- Diagnostic texts of the pool and of the lease, if it is there. -/
  | inspected (pool : String) (lease : Option String)

/-- **A pool and its leases by name.** -/
structure PoolBench (σ : Type) where
  /-- What all guests share. -/
  world : World σ
  /-- The pool. -/
  pool : Pool
  /-- The leases by name. -/
  leases : List (String × Nat) := []
  /-- Restorations that nobody waits for and nobody has taken up. -/
  left : List Nat := []

/-- A command in progress. -/
inductive PoolWork where
  /-- It has not begun. -/
  | start (command : PoolCommand) (context : Context)
  /-- It waits for an instance. -/
  | waiting (ticket : Nat) (name : String)
  /-- A call is in progress. -/
  | calling (lease : Nat) (name : String)
  /-- An instance is being restored, after which the pool may be drained. -/
  | restoring (number : Nat) (drain : Option Nat)
  /-- It waits until the pool is drained. -/
  | draining (wait : DrainWait)
  deriving Inhabited

instance : Inhabited PoolCommand := ⟨.look⟩

namespace PoolBench

variable {σ : Type}

/-- Rounds of guest code in one turn. -/
def quantum : Nat := 4096

/-- How far a command has come. -/
abbrev Turn (σ : Type) := PoolBench σ × Standing PoolWork PoolReply

/-- The bench after an act on the pool. -/
def after (b : PoolBench σ) (w : World σ) (p : Pool) : PoolBench σ :=
  { b with world := w, pool := p }

/-- Drops a lease. -/
def abandon (b : PoolBench σ) (lease : Nat) : PoolBench σ :=
  let (w, p, number) := b.pool.abandon b.world lease
  { b.after w p with left := b.left ++ number.toList }

/-- Keeps a lease under a name; a lease that had the name is dropped. -/
def keep (b : PoolBench σ) (name : String) (lease : Nat) : PoolBench σ :=
  let old := b.leases.find? (·.1 = name)
  let b := { b with leases := (name, lease) :: b.leases.filter (·.1 ≠ name) }
  match old with
  | some (_, other) => b.abandon other
  | none => b

/-- The lease of a name. -/
def named? (b : PoolBench σ) (name : String) : Option Nat :=
  (b.leases.find? (·.1 = name)).map (·.2)

/-- The bench without a name. -/
def forget (b : PoolBench σ) (name : String) : PoolBench σ :=
  { b with leases := b.leases.filter (·.1 ≠ name) }

/-- The instance of a lease. -/
def held? (b : PoolBench σ) (lease : Nat) : Option Instance :=
  (b.pool.lease? lease).map (·.held)

/-- What follows when an instance was leased or refused. -/
def leased (b : PoolBench σ) (name : String) : Except HostError Nat → Turn σ
  | .error e => (b, .ended (.refused e))
  | .ok lease =>
    (b.keep name lease, .ended (match b.held? lease with
      | some i => .leased i
      | none => .noSuchLease))

/-- What follows a look at a wait for an instance. -/
def afterCheckout (b : PoolBench σ) (name : String) :
    World σ × Pool × Standing Nat (Except HostError Nat) → Turn σ
  | (w, p, .busy ticket) => (b.after w p, .busy (.waiting ticket name))
  | (w, p, .blocked ticket) => (b.after w p, .blocked (.waiting ticket name))
  | (w, p, .ended outcome) => (b.after w p).leased name outcome

/-- What follows a step of a call. -/
def afterCall (b : PoolBench σ) (lease : Nat) (name : String) :
    World σ × Pool × Standing Unit Call.Result → Turn σ
  | (w, p, .busy _) => (b.after w p, .busy (.calling lease name))
  | (w, p, .blocked _) => (b.after w p, .blocked (.calling lease name))
  | (w, p, .ended result) =>
    let b := b.after w p
    (b.keep name lease, .ended (.called result (b.held? lease)))

/-- Looks whether the pool is drained. -/
def pollDrain (b : PoolBench σ) (deadline : Option Nat) : Turn σ :=
  match b.pool.pollDrain b.world deadline with
  | (w, p, some outcome) => (b.after w p, .ended (.drained outcome))
  | (w, p, none) => (b.after w p, .blocked (.draining (p.await deadline)))

/-- Begins to drain the pool. -/
def startDrain (b : PoolBench σ) (milliseconds : Option Nat) : Turn σ :=
  { b with pool := b.pool.close }.pollDrain
    (milliseconds.bind (Pool.drainDeadline b.world.clock))

/-- Takes a restoration further. -/
def pollRestoration (b : PoolBench σ) (number : Nat) (drain : Option Nat) : Turn σ :=
  match b.pool.proceedRestoration quantum b.world number with
  | (w, p, .busy _) => (b.after w p, .busy (.restoring number drain))
  | (w, p, .blocked _) => (b.after w p, .blocked (.restoring number drain))
  | (w, p, .ended _) =>
    match drain with
    | none => (b.after w p, .ended .ok)
    | some ms => (b.after w p).startDrain (some ms)

/-- Gives an instance back. -/
def startRestoration (b : PoolBench σ) (name : String) (drain : Option Nat) : Turn σ :=
  match (b.named? name).map b.pool.release with
  | some (p, some number) =>
    ({ b with pool := p }.forget name).pollRestoration number drain
  | _ => (b, .ended .noSuchLease)

/-- Begins a command. -/
def begin (b : PoolBench σ) (c : Context) : PoolCommand → Turn σ
  | .checkout name => b.afterCheckout name (b.pool.checkout b.world c)
  | .tryCheckout name =>
    let (w, p, outcome) := b.pool.tryCheckout b.world
    (b.after w p).leased name outcome
  | .call name entrypoint payload =>
    match b.named? name with
    | none => (b, .ended .noSuchLease)
    | some lease =>
      (b.forget name).afterCall lease name
        (b.pool.beginCall b.world lease c entrypoint payload)
  | .giveBack name => b.startRestoration name none
  | .giveBackAndDrain name milliseconds => b.startRestoration name (some milliseconds)
  | .abandon name =>
    match b.named? name with
    | none => (b, .ended .noSuchLease)
    | some lease => ((b.forget name).abandon lease, .ended .ok)
  | .abandonForGood name =>
    match b.named? name with
    | none => (b, .ended .ok)
    | some lease =>
      let (w, p) := b.pool.abandonForGood b.world lease
      ((b.forget name).after w p, .ended .ok)
  | .drain milliseconds => b.startDrain milliseconds
  | .look => (b, .ended (.seen b.pool))
  | .inspect name =>
    let lease := (b.named? name).bind b.pool.lease?
    (b, .ended (.inspected b.pool.shown (lease.map b.pool.leaseShown)))

/-- Takes a command further. -/
def poll (b : PoolBench σ) : PoolWork → Turn σ
  | .start command c => b.begin c command
  | .waiting ticket name => b.afterCheckout name (b.pool.pollCheckout b.world ticket)
  | .calling lease name => b.afterCall lease name (b.pool.proceedCall quantum b.world lease)
  | .restoring number drain => b.pollRestoration number drain
  | .draining wait => b.pollDrain wait.deadline

/-- The instant at which a command goes on. -/
def due (b : PoolBench σ) : PoolWork → Option Nat
  | .start _ _ => some b.world.clock.now
  | .waiting ticket _ => Pool.checkoutDue b.world.clock b.pool ticket
  | .calling lease _ => Pool.callDue b.world.clock b.pool lease
  | .restoring number _ => Pool.restorationDue b.world.clock b.pool number
  | .draining wait => Pool.drainDue b.world.clock b.pool wait

/-- Gives a command up where it waits. -/
def drop (b : PoolBench σ) : PoolWork → PoolBench σ
  | .start _ _ => b
  | .waiting ticket _ => { b with pool := b.pool.leaveQueue ticket }
  | .calling lease _ => b.abandon lease
  | .restoring number _ =>
    let (w, p) := b.pool.dropRestoration b.world number
    b.after w p
  | .draining _ => b

/-- **A pool as the subject of a session.** -/
def subject : Subject PoolCommand (PoolBench σ) PoolWork PoolReply where
  poll := poll
  due := due
  collect := fun b => ({ b with left := [] }, b.left.map fun number => .restoring number none)
  now := fun b => b.world.clock.now
  advance := fun b instant => { b with world := b.world.advance instant }
  clock := fun b => b.world.clock
  cancel := fun b token => { b with world := b.world.cancel token }
  start := fun command c => .start command c
  drop := drop

/-- A pool that is filled while nothing else goes on. -/
def fill (w : World σ) (blueprint : Blueprint) (size : Nat) (timeout : Option Nat) :
    World σ × Option Filling.Result :=
  let (w, standing) := Filling.begin w blueprint size timeout
  Alone.finish (Filling.proceed quantum) (fun clock f => f.birth.wakeup clock)
    Session.patience w standing

end PoolBench
end FunctionHost

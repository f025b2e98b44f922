import FunctionHost.Server.Work
import FunctionHost.Session
/-!
# Using a server

A server in a session: everything that can be asked of a server is a `ServerCommand`.

Guest code takes no time of the server's clock, but it must not run for ever: once it has used up
its grace, an epoch passes with each turn that it takes, so that the deadline of a call is reached
if epochs matter at all.
-/
namespace FunctionHost

/-- **What can be asked of a server.** -/
inductive ServerCommand where
  /-- Loads a module. -/
  | load (plan : LoadPlan)
  /-- Calls an entrypoint of a module. -/
  | execute (name entrypoint : String) (payload : Bytes)
  /-- Unloads a module. -/
  | unload (name : String)
  /-- Shuts the server down. -/
  | shutDown
  /-- Lets some epochs pass. -/
  | tick (count : Nat)
  deriving Inhabited

/-- A command that has not begun, or where it waits. -/
inductive ServerTask where
  /-- It has not begun. -/
  | start (command : ServerCommand) (context : Context)
  /-- It waits. -/
  | under (work : ServerWork)
  deriving Inhabited

namespace Server

variable {σ : Type}

/-- Rounds of guest code in one turn. -/
def quantum : Nat := 32

/-- Turns that work may take at once. -/
def patience : Nat := 1000000000000

/-- Turns of guest code during which no epoch passes. -/
def grace : Nat := 128

/-- Begins a command. -/
def begin (s : Server σ) (c : Context) : ServerCommand → Turn σ
  | .load plan => s.load plan
  | .execute name entrypoint payload => s.execute quantum name entrypoint payload c
  | .unload name => s.unload name
  | .shutDown => s.shutDown
  | .tick count => ({ s with world := s.world.tick count }, .ended .done)

/-- **Takes work further.** -/
def proceed (s : Server σ) : ServerWork → Turn σ
  | .compiling plan => s.fill plan
  | .filling name contentHash f =>
    s.afterFilling name contentHash (Filling.proceed quantum s.world f)
  | .waiting pool ticket c entrypoint payload =>
    s.afterCheckout quantum pool c entrypoint payload ((s.pool pool).pollCheckout s.world ticket)
  | .calling pool lease =>
    s.afterCall quantum pool lease ((s.pool pool).proceedCall quantum s.world lease)
  | .restoring pool number outcome => s.restore quantum pool number outcome
  | .unloading pool wait => s.pollUnload pool wait.deadline
  | .closing drains => s.pollClose drains

/-- The server after a turn of guest code beyond its grace. -/
def lapse (s : Server σ) : Server σ :=
  if s.ticking then { s with world := s.world.tick 1 } else s

/-- **Takes work as far as it goes**: guest code runs until it waits or is over. -/
def press : Nat → Turn σ → Turn σ
  | turns + 1, (s, .busy work) =>
    press turns ((if turns + grace < patience then s.lapse else s).proceed work)
  | _, t => t

/-- Begins a command or takes it further. -/
def poll (s : Server σ) : ServerTask → Server σ × Standing ServerTask ServerReply
  | .start command c => (press patience (s.begin c command)).map id (·.lift .under)
  | .under work => (press patience (s.proceed work)).map id (·.lift .under)

/-- The instant at which work goes on, as far as that can be told. -/
def due (s : Server σ) : ServerWork → Option Nat
  | .compiling _ => some s.world.clock.now
  | .filling _ _ f => f.birth.wakeup s.world.clock
  | .waiting pool ticket _ _ _ => Pool.checkoutDue s.world.clock (s.pool pool) ticket
  | .calling pool lease => Pool.callDue s.world.clock (s.pool pool) lease
  | .restoring pool number _ => Pool.restorationDue s.world.clock (s.pool pool) number
  | .unloading pool wait => Pool.drainDue s.world.clock (s.pool pool) wait
  | .closing drains =>
    (drains.filterMap fun d => Pool.drainDue s.world.clock (s.pool d.pool) d.wait).min?

/-- Gives work up where it waits: what it held is let go of. -/
def drop (s : Server σ) : ServerWork → Server σ
  | .filling _ _ f => { s with world := Filling.drop s.world f }
  | .waiting pool ticket _ _ _ => s.after pool s.world ((s.pool pool).leaveQueue ticket)
  | .calling pool lease =>
    let (w, p, number) := (s.pool pool).abandon s.world lease
    { s.after pool w p with left := s.left ++ number.toList.map (pool, ·) }
  | .restoring pool number _ =>
    let (w, p) := (s.pool pool).dropRestoration s.world number
    s.after pool w p
  | .compiling _ | .unloading _ _ | .closing _ => s

/-- **A server as the subject of a session.** -/
def subject : Subject ServerCommand (Server σ) ServerTask ServerReply where
  poll := poll
  due := fun s task =>
    match task with
    | .start _ _ => some s.world.clock.now
    | .under work => s.due work
  collect := fun s =>
    ({ s with left := [] }, s.left.map fun (pool, number) => .under (.restoring pool number none))
  now := fun s => s.world.clock.now
  advance := fun s instant => { s with world := s.world.advance instant }
  clock := fun s => s.world.clock
  cancel := fun s token => { s with world := s.world.cancel token }
  start := .start
  drop := fun s task =>
    match task with
    | .start _ _ => s
    | .under work => s.drop work

end Server
end FunctionHost

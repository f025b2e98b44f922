import FunctionHost.Context
import FunctionHost.Schedule
/-!
# Sessions

In a session commands are given one after another.  A command can be run to its end, or be left to
a task, which is referred to by a name afterwards: it can be waited for, asked about, or aborted.
Between two commands everything goes on as far as it goes without time passing.
-/
namespace FunctionHost

/-- How the context of a command is made. -/
structure ContextPlan where
  /-- The identity of the request. -/
  request : RequestId
  /-- Milliseconds until its deadline. -/
  timeout : Option Nat := none
  /-- The name of the token by which it can be cancelled. -/
  token : Option String := none
  deriving Repr, Inhabited

/-- The context that a plan makes at an instant. -/
def ContextPlan.context (plan : ContextPlan) (clock : Clock) (token : Option Nat) : Context :=
  let c : Context := { request := plan.request, token := token }
  match plan.timeout with
  | some milliseconds => c.withTimeout clock.now milliseconds
  | none => c

/-- **What can be done in a session**, with commands in `κ`. -/
inductive Directive (κ : Type) where
  /-- A command is run to its end. -/
  | run (command : κ) (plan : ContextPlan)
  /-- Some milliseconds pass. -/
  | wait (milliseconds : Nat)
  /-- A command is left to a task. -/
  | spawn (name : String) (command : κ) (plan : ContextPlan)
  /-- Asks whether a task is over. -/
  | askFinished (name : String)
  /-- Waits for a task, and takes what came of it. -/
  | join (name : String)
  /-- Gives a task up where it waits. -/
  | abort (name : String)
  /-- Cancels a token. -/
  | cancel (token : String)

/-- **The answer** to a directive, with results in `ρ`. -/
inductive Feedback (ρ : Type) where
  /-- What came of a command. -/
  | result (value : ρ)
  /-- It is done. -/
  | ok
  /-- The task is there. -/
  | spawned
  /-- Whether a task is over, if it is there. -/
  | finished (value : Option Bool)
  /-- The task takes too long. -/
  | pending
  /-- The task was aborted. -/
  | aborted
  /-- There is no such task. -/
  | noSuchTask
  /-- The command took too long and was given up. -/
  | hang

/-- **What a session is about**: commands in `κ` become work in `φ`. -/
structure Subject (κ σ φ ρ : Type) extends Crew σ φ ρ where
  /-- The time and the cancelled tokens. -/
  clock : σ → Clock
  /-- Cancels a token. -/
  cancel : σ → Nat → σ
  /-- A command as work that has not begun. -/
  start : κ → Context → φ
  /-- Gives work up where it waits. -/
  drop : σ → φ → σ

/-- **A session.** -/
structure Session (σ φ ρ : Type) where
  /-- The tasks and what they share. -/
  schedule : Schedule σ φ ρ
  /-- Tasks that were aborted. -/
  aborted : List String := []
  /-- The names of the tokens, by number. -/
  tokens : List String := []

namespace Session

variable {κ σ φ ρ : Type}

/-- Turns that nothing in a session needs. -/
def patience : Nat := 1000000000000

/-- Milliseconds after which a command is given up. -/
def commandLimit : Nat := 1000000

/-- Milliseconds after which a task is not waited for any longer. -/
def joinLimit : Nat := 100000

/-- Lets everything go on as far as it goes without time passing. -/
def settled (t : Subject κ σ φ ρ) (s : Session σ φ ρ) : Session σ φ ρ :=
  { s with
    schedule := ((s.schedule.gather t.toCrew).wake t.toCrew).settle t.toCrew patience }

/-- Whether a task is over, if it is there. -/
def finished? (s : Session σ φ ρ) (name : String) : Option Bool :=
  if s.aborted.contains name then some true
  else if (s.schedule.result? name).isSome then some true
  else if (s.schedule.task? name).isSome then some false
  else none

/-- The number of a token; a name that is new gets a new one. -/
def token (s : Session σ φ ρ) : Option String → Session σ φ ρ × Option Nat
  | none => (s, none)
  | some name =>
    match s.tokens.findIdx? (· = name) with
    | some number => (s, some number)
    | none => ({ s with tokens := s.tokens ++ [name] }, some s.tokens.length)

/-- The work for a command, with a context made now. -/
def prepare (t : Subject κ σ φ ρ) (s : Session σ φ ρ) (command : κ) (plan : ContextPlan) :
    Session σ φ ρ × φ :=
  let (s, token) := s.token plan.token
  (s, t.start command (plan.context (t.clock s.schedule.state) token))

/-- Runs a command to its end. -/
def run (t : Subject κ σ φ ρ) (s : Session σ φ ρ) (command : κ) (plan : ContextPlan) :
    Session σ φ ρ × Feedback ρ :=
  let (s, work) := s.prepare t command plan
  let limit := t.now s.schedule.state + commandLimit
  match s.schedule.attend t.toCrew limit patience (.busy work) with
  | (schedule, .ended value) => (settled t { s with schedule := schedule }, .result value)
  | (schedule, .blocked work) | (schedule, .busy work) =>
    let schedule := { schedule with state := t.drop schedule.state work }
    (settled t { s with schedule := schedule }, .hang)

/-- Waits for a task. -/
def join (t : Subject κ σ φ ρ) (s : Session σ φ ρ) (name : String) :
    Session σ φ ρ × Feedback ρ :=
  if s.aborted.contains name then ({ s with aborted := s.aborted.erase name }, .aborted)
  else if (s.finished? name).isNone then (s, .noSuchTask)
  else
    let limit := t.now s.schedule.state + joinLimit
    let schedule := s.schedule.runUntil t.toCrew (fun x => (x.result? name).isSome) limit patience
    match schedule.result? name with
    | some value => ({ s with schedule := schedule.remove name }, .result value)
    | none => ({ s with schedule := schedule }, .pending)

/-- Gives a task up where it waits; one that is over stays as it is. -/
def abort (t : Subject κ σ φ ρ) (s : Session σ φ ρ) (name : String) : Session σ φ ρ :=
  match s.schedule.task? name with
  | none => s
  | some task =>
    let schedule := s.schedule.remove name
    settled t
      { s with
        schedule := { schedule with state := t.drop schedule.state task.work }
        aborted := name :: s.aborted }

/-- Leaves a command to a task; a task that had the name before goes on without one. -/
def spawn (t : Subject κ σ φ ρ) (s : Session σ φ ρ) (name : String) (command : κ)
    (plan : ContextPlan) : Session σ φ ρ :=
  let (s, work) := s.prepare t command plan
  let schedule := (s.schedule.forget name).add ⟨some name, work⟩
  settled t { s with schedule := schedule, aborted := s.aborted.erase name }

/-- **Does what a directive says.** -/
def step (t : Subject κ σ φ ρ) (s : Session σ φ ρ) : Directive κ → Session σ φ ρ × Feedback ρ
  | .run command plan => s.run t command plan
  | .wait milliseconds =>
    let target := t.now s.schedule.state + milliseconds
    let schedule := s.schedule.runUntil t.toCrew (fun x => target ≤ t.now x.state) target patience
    (settled t { s with schedule := schedule }, .ok)
  | .spawn name command plan => (s.spawn t name command plan, .spawned)
  | .askFinished name => (s, .finished (s.finished? name))
  | .join name => s.join t name
  | .abort name => (s.abort t name, .ok)
  | .cancel name =>
    match s.tokens.findIdx? (· = name) with
    | none => (s, .ok)
    | some number =>
      let state := t.cancel s.schedule.state number
      (settled t { s with schedule := { s.schedule with state := state } }, .ok)

end Session
end FunctionHost

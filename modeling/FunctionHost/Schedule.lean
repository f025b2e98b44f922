import FunctionHost.Standing
/-!
# Schedules

Many pieces of work share one state and take turns.  What would go on at once stands in a queue;
what waits stands in the order in which it began to wait, and joins the queue in that order when it
would go on.  Time passes only when all work waits, and then jumps to the first instant at which
some of it goes on.

Beside the tasks there may be work in front, which somebody attends to: it has its turn whenever the
queue is empty, and first of all when time has passed.
-/
namespace FunctionHost

/-- **What a schedule knows about its work**: `σ` is what all work shares, `φ` is work in progress
and `ρ` what comes of it. -/
structure Crew (σ φ ρ : Type) where
  /-- Takes some work as far as it goes. -/
  poll : σ → φ → σ × Standing φ ρ
  /-- The instant at which work that waits goes on, if time alone brings it. -/
  due : σ → φ → Option Nat
  /-- The work that was left to others since this was asked last. -/
  collect : σ → σ × List φ
  /-- The time. -/
  now : σ → Nat
  /-- Lets time pass up to an instant. -/
  advance : σ → Nat → σ

/-- Some work and its name. -/
structure Task (φ : Type) where
  /-- The name, if somebody refers to it. -/
  name : Option String
  /-- The work. -/
  work : φ
  deriving Inhabited

/-- **Work that takes turns.** -/
structure Schedule (σ φ ρ : Type) where
  /-- What all work shares. -/
  state : σ
  /-- What would go on at once, in the order of the turns. -/
  queue : List (Task φ) := []
  /-- What waits, in the order in which it began to wait. -/
  waiting : List (Task φ) := []
  /-- What came of the named work that is over, the last one first. -/
  results : List (String × ρ) := []

namespace Schedule

variable {σ φ ρ : Type}

/-- Whether work that waits would go on at once. -/
def ready (c : Crew σ φ ρ) (state : σ) (work : φ) : Bool :=
  (c.due state work).any (· ≤ c.now state)

/-- The schedule with everything in the queue that would go on at once. -/
def wake (c : Crew σ φ ρ) (s : Schedule σ φ ρ) : Schedule σ φ ρ :=
  let (woken, waiting) := s.waiting.partition fun task => ready c s.state task.work
  { s with queue := s.queue ++ woken, waiting := waiting }

/-- The schedule with the work that was left to others. -/
def gather (c : Crew σ φ ρ) (s : Schedule σ φ ρ) : Schedule σ φ ρ :=
  let (state, more) := c.collect s.state
  { s with state := state, queue := s.queue ++ more.map (⟨none, ·⟩) }

/-- Adds work. -/
def add (s : Schedule σ φ ρ) (task : Task φ) : Schedule σ φ ρ :=
  { s with queue := s.queue ++ [task] }

/-- The schedule after a task has had its turn. -/
def file (s : Schedule σ φ ρ) (name : Option String) : Standing φ ρ → Schedule σ φ ρ
  | .busy work => s.add ⟨name, work⟩
  | .blocked work => { s with waiting := s.waiting ++ [⟨name, work⟩] }
  | .ended result => { s with results := (name.map (·, result)).toList ++ s.results }

/-- **A turn of a task** that was taken from the queue. -/
def turn (c : Crew σ φ ρ) (s : Schedule σ φ ρ) (task : Task φ) : Schedule σ φ ρ :=
  let (state, standing) := c.poll s.state task.work
  (({ s with state := state }.file task.name standing).gather c).wake c

/-- Turns until all work waits. -/
def settle (c : Crew σ φ ρ) : Nat → Schedule σ φ ρ → Schedule σ φ ρ
  | 0, s => s
  | turns + 1, s =>
    match s.queue with
    | [] => s
    | task :: rest => settle c turns ({ s with queue := rest }.turn c task)

/-- The first instant at which some work that waits goes on. -/
def nextInstant (c : Crew σ φ ρ) (s : Schedule σ φ ρ) : Option Nat :=
  (s.waiting.filterMap fun task => c.due s.state task.work).min?

/-- The schedule at a later instant. -/
def advance (c : Crew σ φ ρ) (s : Schedule σ φ ρ) (instant : Nat) : Schedule σ φ ρ :=
  { s with state := c.advance s.state instant }.wake c

/-- **Runs until something is the case** or time has passed up to an instant. -/
def runUntil (c : Crew σ φ ρ) (done : Schedule σ φ ρ → Bool) (limit : Nat) :
    Nat → Schedule σ φ ρ → Schedule σ φ ρ
  | 0, s => s
  | turns + 1, s =>
    match s.queue with
    | task :: rest => runUntil c done limit turns ({ s with queue := rest }.turn c task)
    | [] =>
      if done s then s
      else
        match (s.nextInstant c).filter (· ≤ limit) with
        | some instant => runUntil c done limit turns (s.advance c instant)
        | none => settle c turns (s.advance c limit)

/-- A turn of the work in front. -/
def front (c : Crew σ φ ρ) (s : Schedule σ φ ρ) (work : φ) : Schedule σ φ ρ × Standing φ ρ :=
  let (state, standing) := c.poll s.state work
  (({ s with state := state }.gather c).wake c, standing)

/-- **Attends to work in front** until it is over or time has passed up to an instant. -/
def attend (c : Crew σ φ ρ) (limit : Nat) :
    Nat → Schedule σ φ ρ → Standing φ ρ → Schedule σ φ ρ × Standing φ ρ
  | 0, s, standing => (s, standing)
  | _, s, .ended result => (s, .ended result)
  | turns + 1, s, .busy work =>
    let (s, standing) := s.front c work
    attend c limit turns s standing
  | turns + 1, s, .blocked work =>
    match s.queue with
    | task :: rest => attend c limit turns ({ s with queue := rest }.turn c task) (.blocked work)
    | [] =>
      if ready c s.state work then
        let (s, standing) := s.front c work
        attend c limit turns s standing
      else
        let instants := (s.nextInstant c).toList ++ (c.due s.state work).toList
        match instants.min?.filter (· ≤ limit) with
        | none => (s.advance c limit, .blocked work)
        | some instant =>
          let s := s.advance c instant
          if ready c s.state work then
            let (s, standing) := s.front c work
            attend c limit turns s standing
          else attend c limit turns s (.blocked work)

/-- The task with a name. -/
def task? (s : Schedule σ φ ρ) (name : String) : Option (Task φ) :=
  (s.queue ++ s.waiting).find? (·.name = some name)

/-- What came of the task with a name. -/
def result? (s : Schedule σ φ ρ) (name : String) : Option ρ :=
  (s.results.find? (·.1 = name)).map (·.2)

/-- The schedule in which a name is given to no task. -/
def forget (s : Schedule σ φ ρ) (name : String) : Schedule σ φ ρ :=
  let free (task : Task φ) : Task φ :=
    if task.name = some name then { task with name := none } else task
  { s with
    queue := s.queue.map free
    waiting := s.waiting.map free
    results := s.results.filter (·.1 ≠ name) }

/-- The schedule without the task of a name. -/
def remove (s : Schedule σ φ ρ) (name : String) : Schedule σ φ ρ :=
  { s with
    queue := s.queue.filter (·.name ≠ some name)
    waiting := s.waiting.filter (·.name ≠ some name)
    results := s.results.filter (·.1 ≠ name) }

end Schedule
end FunctionHost

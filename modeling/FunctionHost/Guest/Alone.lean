import FunctionHost.Guest.Instance
/-!
# A guest with nobody beside it

When nothing else goes on, work that waits can have the clock jump to the instant at which it goes
on.  `finish` does that until the work is over; `Birth.finish`, `Call.finish` and the like are its
instances.  Guest code need not end, so the number of rounds is bounded.
-/
namespace FunctionHost
namespace Alone

variable {σ α ρ : Type}

/-- Rounds of an activity between two looks at the clock. -/
def quantum : Nat := 1024

/-- Turns that no guest with a fuel limit needs. -/
def patience : Nat := 1000000000000

/-- **Runs some work to its end**: it is taken further until it is over, and while it waits the
clock jumps.  No result if it waits for nothing or takes more than so many turns. -/
def finish (proceed : World σ → α → World σ × Standing α ρ) (wakeup : Clock → α → Option Nat) :
    Nat → World σ → Standing α ρ → World σ × Option ρ
  | _, w, .ended result => (w, some result)
  | 0, w, _ => (w, none)
  | turns + 1, w, .busy work =>
    let (w, standing) := proceed w work
    finish proceed wakeup turns w standing
  | turns + 1, w, .blocked work =>
    match wakeup w.clock work with
    | none => (w, none)
    | some instant =>
      let (w, standing) := proceed (w.advance instant) work
      finish proceed wakeup turns w standing

end Alone

variable {σ : Type}

/-- Runs a function of a guest to its end. -/
def Activity.finish (b : Body) (turns : Nat) (w : World σ) (g : Guest) (a : Activity) :
    World σ × Option (Guest × Activity.Result) :=
  let proceed (w : World σ) (x : Guest × Activity) :=
    match Activity.proceed b Alone.quantum w x.1 x.2 with
    | (w, g, .busy a) => (w, .busy (g, a))
    | (w, g, .blocked a) => (w, .blocked (g, a))
    | (w, g, .ended result) => (w, .ended (g, result))
  Alone.finish proceed (fun clock x => Activity.wakeup clock x.2) turns w (.busy (g, a))

/-- Makes an instance. -/
def Birth.finish (turns : Nat) (w : World σ) (blueprint : Blueprint) (id : Nat) :
    World σ × Option Birth.Result :=
  let (w, standing) := Birth.begin w blueprint id
  Alone.finish (Birth.proceed Alone.quantum) Birth.wakeup turns w standing

/-- Calls an entrypoint. -/
def Call.finish (turns : Nat) (w : World σ) (i : Instance) (context : Context)
    (entrypoint : String) (payload : Bytes) : World σ × Option (Instance × Call.Result) :=
  let pair (r : World σ × Instance × Standing Call Call.Result) :=
    match r with
    | (w, i, .busy c) => (w, Standing.busy (i, c))
    | (w, i, .blocked c) => (w, .blocked (i, c))
    | (w, i, .ended result) => (w, .ended (i, result))
  let (w, standing) := pair (Call.begin w i context entrypoint payload)
  Alone.finish (fun w x => pair (Call.proceed Alone.quantum w x.1 x.2))
    (fun clock x => Call.wakeup clock x.2) turns w standing

/-- Resets an instance. -/
def Reset.finish (turns : Nat) (w : World σ) (i : Instance) :
    World σ × Option (Instance × Reset.Result) :=
  let pair (r : World σ × Instance × Standing Reset Reset.Result) :=
    match r with
    | (w, i, .busy x) => (w, Standing.busy (i, x))
    | (w, i, .blocked x) => (w, .blocked (i, x))
    | (w, i, .ended result) => (w, .ended (i, result))
  let (w, standing) := pair (Reset.begin w i)
  Alone.finish (fun w x => pair (Reset.proceed Alone.quantum w x.1 x.2))
    (fun clock x => Reset.wakeup clock x.2) turns w standing

end FunctionHost

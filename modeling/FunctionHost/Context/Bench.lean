import FunctionHost.Context
/-!
# One context at a time

A context under a clock of its own, to be given deadlines, cancelled and waited under while nothing
else goes on.
-/
namespace FunctionHost

/-- **A context at work.** -/
structure ContextBench where
  /-- The clock. -/
  clock : Clock := {}
  /-- The context. -/
  current : Context
  /-- A context that was put aside. -/
  aside : Option Context := none
  /-- The token by which somebody can cancel. -/
  handle : Option Nat := none
  /-- How many tokens there are. -/
  tokens : Nat := 0

/-- **What can be done with a context.** -/
inductive ContextCommand where
  /-- A deadline some milliseconds from now, none if that is too far away. -/
  | limit (milliseconds : Nat)
  /-- No deadline. -/
  | unlimit
  /-- A deadline some milliseconds from now. -/
  | deadline (milliseconds : Nat)
  /-- Another identity. -/
  | rename (request : RequestId)
  /-- A token of its own, which is kept. -/
  | tokenize
  /-- An entrypoint of a module to serve. -/
  | serve (module entrypoint : String)
  /-- A context of which only the identity is known. -/
  | renew (request : RequestId)
  /-- Puts a copy of the context aside. -/
  | save
  /-- Exchanges the context and the one put aside. -/
  | swap
  /-- Cancels by the token that was kept. -/
  | cancel
  /-- Forgets the token that was kept. -/
  | dropHandle
  /-- Some milliseconds pass. -/
  | wait (milliseconds : Nat)
  /-- Waits for work that takes so long, if it ends; somebody may cancel meanwhile. -/
  | guard (work cancelAfter : Option Nat)

namespace ContextBench

/-- The bench with another context. -/
def set (b : ContextBench) (c : Context) : ContextBench := { b with current := c }

/-- **Waits for work**; how that ends, if it does. -/
def guard (b : ContextBench) (work cancelAfter : Option Nat) :
    ContextBench × Option (Except Interruption Unit) :=
  let clock := match cancelAfter, b.handle with
    | some ms, some token => b.clock.plan (b.clock.now + ms) token
    | _, _ => b.clock
  match b.current.ending clock (work.map (clock.now + ·)) with
  | none => ({ b with clock := clock }, none)
  | some (clock, outcome) => ({ b with clock := clock }, some outcome)

/-- **Does what a command says**; only a wait has an outcome. -/
def step (b : ContextBench) : ContextCommand → ContextBench × Option (Except Interruption Unit)
  | .limit ms => (b.set (b.current.withTimeout b.clock.now ms), none)
  | .unlimit => (b.set { b.current with deadline := none }, none)
  | .deadline ms => (b.set { b.current with deadline := some (b.clock.now + ms) }, none)
  | .rename request => (b.set { b.current with request := request }, none)
  | .tokenize =>
    ({ b.set { b.current with token := some b.tokens } with
        handle := some b.tokens
        tokens := b.tokens + 1 }, none)
  | .serve module entrypoint => (b.set (b.current.serving module entrypoint), none)
  | .renew request => (b.set { request := request }, none)
  | .save => ({ b with aside := some b.current }, none)
  | .swap =>
    match b.aside with
    | some c => ({ b.set c with aside := some b.current }, none)
    | none => (b, none)
  | .cancel =>
    match b.handle with
    | some token => ({ b with clock := b.clock.cancel token }, none)
    | none => (b, none)
  | .dropHandle => ({ b with handle := none }, none)
  | .wait ms => ({ b with clock := b.clock.advance (b.clock.now + ms) }, none)
  | .guard work cancelAfter => b.guard work cancelAfter

end ContextBench
end FunctionHost

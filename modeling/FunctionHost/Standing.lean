/-!
# Work in progress

Guest code runs in stretches, and now and then it waits for the host.  Whatever runs guest code is
therefore described by a value of what is in progress and a function that takes it further; a
`Standing` says how far that came.
-/
namespace FunctionHost

/-- **How far some work has come**: `α` is what is in progress, `ρ` what comes of it. -/
inductive Standing (α ρ : Type) where
  /-- It would go on at once. -/
  | busy (work : α)
  /-- It waits. -/
  | blocked (work : α)
  /-- It is over. -/
  | ended (result : ρ)
  deriving Inhabited

namespace Standing

variable {α β ρ : Type}

/-- The standing of some work as that of a larger one. -/
def lift (f : α → β) : Standing α ρ → Standing β ρ
  | .busy a => .busy (f a)
  | .blocked a => .blocked (f a)
  | .ended r => .ended r

/-- What is in progress, if it is not over. -/
def work? : Standing α ρ → Option α
  | .busy a | .blocked a => some a
  | .ended _ => none

/-- What came of it, if it is over. -/
def result? : Standing α ρ → Option ρ
  | .ended r => some r
  | _ => none

end Standing
end FunctionHost

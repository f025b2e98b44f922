import FunctionHost.Bytes
import FunctionHost.Context
import FunctionHost.Error
import FunctionHost.Journal
/-!
# Callbacks

What answers the host calls of guests.  A callback has a state of its own.  It is asked once per
host call and says at once what its state becomes, what the answer will be and from when on it is
there; a guest that asked for something slow waits until then.
-/
namespace FunctionHost

/-- **What a guest asks for**: an operation of a namespace, a key and a payload. -/
structure HostRequest where
  /-- The namespace. -/
  space : String
  /-- The operation. -/
  operation : String
  /-- The key. -/
  key : String
  /-- The payload. -/
  payload : Bytes
  deriving Inhabited

namespace HostRequest

/-- The request, as diagnostics show it. -/
def shown (r : HostRequest) : String := Text.record "CallRequest" [
  ("namespace", Text.quoted r.space),
  ("operation", Text.quoted r.operation),
  ("key", Text.quoted r.key),
  ("payload", Text.list (r.payload.toList.map fun b => toString b.toNat))]

end HostRequest

/-- The outcome of a host call. -/
abbrev Reply := Except CallbackError Bytes

/-- **What a callback does with a request.** -/
structure Answer (σ : Type) where
  /-- Its state from now on. -/
  state : σ
  /-- The outcome. -/
  reply : Reply
  /-- Milliseconds until the outcome is there. -/
  delay : Nat := 0
  /-- What it reports. -/
  events : List Event := []
  /-- How many epochs it lets pass. -/
  ticks : Nat := 0

/-- **A callback** with states in `σ`. -/
abbrev Callback (σ : Type) := Context → HostRequest → σ → Answer σ

/-- The answer of a callback that acts on a part of a state, as an answer about the whole. -/
def Answer.map {σ τ : Type} (embed : σ → τ) (a : Answer σ) : Answer τ :=
  { state := embed a.state, reply := a.reply, delay := a.delay, events := a.events,
    ticks := a.ticks }

namespace Callback

/-- Two callbacks as one: the state says which of them is in charge. -/
def either {σ τ : Type} (left : Callback σ) (right : Callback τ) : Callback (σ ⊕ τ) :=
  fun c r state =>
    match state with
    | .inl s => (left c r s).map .inl
    | .inr t => (right c r t).map .inr

end Callback
end FunctionHost

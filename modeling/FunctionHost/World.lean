import FunctionHost.Callback
import FunctionHost.Settings.Host
/-!
# What all guests share

The clock, the epoch, the room for instances, the callback with its state, and the journal.
Everything else belongs to one instance or to one pool.
-/
namespace FunctionHost

/-- **What all guests share.** -/
structure World (σ : Type) where
  /-- Time and cancellation. -/
  clock : Clock := {}
  /-- The epoch, which is compared with the deadlines of guest code. -/
  epoch : Nat := 0
  /-- The settings of the engine. -/
  engine : EngineSettings := {}
  /-- How many instances live. -/
  slots : Nat := 0
  /-- What answers host calls. -/
  callback : Callback σ
  /-- The state of the callback. -/
  state : σ
  /-- What was reported. -/
  journal : Journal := #[]
  /-- How many identities were made up. -/
  minted : Nat := 0
  /-- What guests wrote to the standard output. -/
  output : Bytes := ByteArray.empty
  /-- What guests wrote to the standard error. -/
  errors : Bytes := ByteArray.empty

namespace World

variable {σ : Type} (w : World σ)

/-- The world after an event. -/
def report (e : Event) : World σ := { w with journal := w.journal.push e }

/-- The world after some epochs. -/
def tick (count : Nat) : World σ := { w with epoch := w.epoch + count }

/-- The world at a later instant. -/
def advance (instant : Nat) : World σ := { w with clock := w.clock.advance instant }

/-- The world after a token was cancelled. -/
def cancel (token : Nat) : World σ := { w with clock := w.clock.cancel token }

/-- A request that nobody made: an identity of its own, no deadline, no token. -/
def freshContext : World σ × Context :=
  ({ w with minted := w.minted + 1 }, { request := .generated w.minted })

/-- **Asking the callback**: what it does at once is done; its answer is handed on. -/
def ask (c : Context) (r : HostRequest) : World σ × Answer σ :=
  let answer := w.callback c r w.state
  ({ w with
      state := answer.state
      journal := w.journal ++ answer.events.toArray
      epoch := w.epoch + answer.ticks }, answer)

/-- How many instances may live at once, if room for them is set aside. -/
def slotLimit : Option Nat :=
  if w.engine.poolingAllocator then some w.engine.maxInstances.toNat else none

/-- The world with room taken for an instance; the limit if there is no room. -/
def takeSlot : Except Nat (World σ) :=
  match w.slotLimit with
  | some limit => if w.slots < limit then .ok { w with slots := w.slots + 1 } else .error limit
  | none => .ok { w with slots := w.slots + 1 }

/-- The world with the room of an instance given back. -/
def freeSlot : World σ := { w with slots := w.slots - 1 }

/-- **How many epochs cover some milliseconds**, at least one. -/
def epochTicks (engine : EngineSettings) (milliseconds : Nat) : Nat :=
  max ((milliseconds + engine.tickMs - 1) / engine.tickMs) 1

/-- The epoch at which guest code armed now for some milliseconds is stopped, if it ever is. -/
def deadlineFor (milliseconds : Nat) : Option Nat :=
  if w.engine.epochInterruption then some (w.epoch + epochTicks w.engine milliseconds) else none

end World
end FunctionHost

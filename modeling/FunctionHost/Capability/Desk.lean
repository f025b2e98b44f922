import FunctionHost.Capability.Router
import FunctionHost.World
/-!
# Who answers host calls

Either a router with its capabilities or a recorder that answers for all namespaces.
-/
namespace FunctionHost

/-- **Who answers host calls.** -/
abbrev Desk := Router ⊕ Recorder

namespace Desk

/-- The desk as a callback. -/
def callback : Callback Desk := Callback.either Router.callback Recorder.callback

/-- The capabilities of a desk to try out guests with. -/
def trial (admissions : Nat) : List Capability :=
  [.probe { admissions := admissions }, .keyValue {}, .log]

/-- A desk to try out guests with. -/
def forTrial (admissions : Nat) : Desk := .inl (Router.ofList (trial admissions))

/-- What a probe or a recorder at the desk was asked, the last one first. -/
def seen : Desk → List String
  | .inl router =>
    match router.capabilities.find? Probe.space with
    | some (.probe probe) => probe.seen
    | _ => []
  | .inr recorder => recorder.seen

/-- The desk, as diagnostics show it. -/
def shown : Desk → String
  | .inl router => router.shown
  | .inr _ => Recorder.shown

/-- What is reported when the capabilities of a desk to try out guests with are registered. -/
def reports : Desk → Journal
  | .inl _ => ((trial 0).map fun c => Router.registered c.space).toArray
  | .inr _ => #[]

/-- **The world** in which a desk answers. -/
def world (d : Desk) (engine : EngineSettings) : World Desk :=
  { callback := callback, state := d, engine := engine, journal := d.reports }

end Desk

/-! ## A router alone -/

/-- **A router at work**, with nobody but its callers beside it. -/
structure RouterBench where
  /-- What all callers share. -/
  world : World Router := { callback := Router.callback, state := {} }
  /-- The key-value store registered last, if another capability has taken its place. -/
  replaced : Option KeyValue := none

namespace RouterBench

/-- The key-value store registered last. -/
def keyValue? (b : RouterBench) : Option KeyValue :=
  match b.world.state.capabilities.find? KeyValue.space with
  | some (.keyValue store) => some store
  | _ => b.replaced

/-- **Registers a capability**; whether it takes the place of another one. -/
def register (b : RouterBench) (c : Capability) : RouterBench × Bool :=
  let (router, old) := b.world.state.register c
  ({ world := { b.world with state := router }, replaced := b.keyValue? }, old.isSome)

/-- Asks the router. -/
def ask (b : RouterBench) (c : Context) (r : HostRequest) : RouterBench × Reply :=
  let (w, answer) := b.world.ask c r
  ({ b with world := w }, answer.reply)

end RouterBench
end FunctionHost

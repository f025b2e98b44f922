import FunctionHost.Files
import FunctionHost.Guest.Bench
import FunctionHost.Guest.Engine
import FunctionHost.Pool.Checkout
import FunctionHost.Pool.Drain
import FunctionHost.Pool.Fill
import FunctionHost.Pool.Restore
import FunctionHost.Server.Registry
/-!
# Servers

A server holds the pools of all modules that are loaded, and a registry in which a module is found
once its pool is full.  It is open until it is shut down, which happens once.
-/
namespace FunctionHost

/-- **What a server is made from.** -/
structure ServerPlan where
  /-- Whether somebody answers host calls. -/
  answered : Bool := true
  /-- The settings. -/
  settings : HostSettings := {}
  deriving Inhabited

/-- The plan, as diagnostics show it. -/
def ServerPlan.shown (p : ServerPlan) : String := Text.record "ServerConfig" [
  ("callback", Text.truth p.answered),
  ("runtime", p.settings.shown)]

/-- What the registry knows of a module. -/
structure Served where
  /-- The hash of what its code was read from. -/
  contentHash : String
  /-- The number of its pool. -/
  pool : Nat
  deriving DecidableEq, Repr, Inhabited

/-- **A server.** -/
structure Server (σ : Type) where
  /-- What all guests share. -/
  world : World σ
  /-- The settings. -/
  settings : HostSettings
  /-- What is offered for import. -/
  linker : Linker
  /-- The files that modules are loaded from. -/
  files : Files := Files.none
  /-- The pools by number, also those of modules that are not served any more. -/
  pools : Array Pool := #[]
  /-- The modules by name. -/
  registry : Registry Served := {}
  /-- Whether the server was shut down. -/
  closed : Bool := false
  /-- Whether epochs pass by themselves. -/
  ticking : Bool := false
  /-- Restorations, by pool, that nobody waits for and nobody has taken up. -/
  left : List (Nat × Nat) := []

namespace Server

variable {σ : Type}

/-- An event about a server. -/
def event (level : Level) (message : String) (fields : List (String × FieldValue)) : Event :=
  { target := "capsule_server::server", level := level, message := message, fields := fields }

/-- The server after an event. -/
def report (s : Server σ) (e : Event) : Server σ := { s with world := s.world.report e }

/-- **A server without modules**, if its plan is acceptable. -/
def start (w : World σ) (files : Files) (plan : ServerPlan) :
    World σ × Except HostError (Server σ) :=
  if !plan.answered then (w, .error (.invalidConfig "a host callback is required"))
  else
    match plan.settings.execution.validate with
    | .error e => (w, .error e)
    | .ok _ =>
      let engine := plan.settings.engine
      let execution := plan.settings.execution
      let w := Engine.start { w with engine := engine }
      match ({} : Linker).register execution.wasi execution.allocateExport with
      | (_, .error e) => (w, .error e)
      | (linker, .ok _) =>
        let w := (Engine.startTicker w).report (event .info "Server created" [
          ("pooling", .flag engine.poolingAllocator),
          ("epoch", .flag engine.epochInterruption)])
        (w, .ok {
          world := w
          settings := plan.settings
          linker := linker
          files := files
          ticking := engine.epochInterruption })

/-- The server, as diagnostics show it. -/
def shown (s : Server σ) : String := Text.openRecord "Server" [
  ("modules", toString s.registry.size),
  ("closed", Text.truth s.closed)]

/-- The pool with a number. -/
def pool (s : Server σ) (number : Nat) : Pool := s.pools.getD number default

/-- The server after an act on a pool. -/
def after (s : Server σ) (number : Nat) (w : World σ) (p : Pool) : Server σ :=
  { s with world := w, pools := s.pools.setIfInBounds number p }

/-- The names of the modules that are served, in order. -/
def modules (s : Server σ) : List String := s.registry.names

/-- The pool of a module, if it is served and the server is open. -/
def status? (s : Server σ) (name : String) : Option Pool :=
  match s.registry.get name with
  | .ok served => some (s.pool served.pool)
  | .error _ => none

/-- Accepts work unless the server was shut down. -/
def ensureOpen (s : Server σ) : Except HostError Unit :=
  if s.closed then .error .serverClosed else .ok ()

/-- An error of a pool, as callers of the server see it: a pool that is closed because the server
was shut down reads as a closed server. -/
def seenFromOutside (s : Server σ) : HostError → HostError
  | .poolClosed name => if s.closed then .serverClosed else .poolClosed name
  | e => e

end Server
end FunctionHost

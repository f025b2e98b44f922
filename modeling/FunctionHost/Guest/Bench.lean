import FunctionHost.Guest.Alone
import FunctionHost.Guest.Compile
/-!
# One instance at a time

A blueprint and the instance that was made from it last, to be called and reset while nothing else
goes on.
-/
namespace FunctionHost

/-- The blueprint for a module that is linked with a linker. -/
def Blueprint.withLinker (linker : Linker) (s : ExecutionSettings) (name : String)
    (c : Compiled) : Blueprint where
  name := name
  program := c.program
  contentHash := c.contentHash
  linker := linker
  execution := s

/-- **The blueprint for a module** under some settings. -/
def Blueprint.of (s : ExecutionSettings) (name : String) (c : Compiled) :
    Except HostError Blueprint :=
  match ({} : Linker).register s.wasi s.allocateExport with
  | (_, .error e) => .error e
  | (linker, .ok _) => .ok (.withLinker linker s name c)

/-- **An instance at work.** -/
structure GuestBench (σ : Type) where
  /-- What all guests share. -/
  world : World σ
  /-- What the instance was made from. -/
  blueprint : Blueprint
  /-- How many instances were numbered. -/
  made : Nat
  /-- The instance. -/
  current : Instance

namespace GuestBench

variable {σ : Type}

/-- The answer for guest code that never ends. -/
def endless : HostError := .execution "no end"

/-- Makes the first instance. -/
def begin (w : World σ) (blueprint : Blueprint) : World σ × Except HostError (GuestBench σ) :=
  match Birth.finish Alone.patience w blueprint 1 with
  | (w, some (.ok i)) => (w, .ok { world := w, blueprint := blueprint, made := 1, current := i })
  | (w, some (.error e)) => (w, .error e)
  | (w, none) => (w, .error endless)

/-- Calls an entrypoint. -/
def call (b : GuestBench σ) (c : Context) (entrypoint : String) (payload : Bytes) :
    GuestBench σ × Call.Result :=
  match Call.finish Alone.patience b.world b.current c entrypoint payload with
  | (w, some (i, outcome)) => ({ b with world := w, current := i }, outcome)
  | (w, none) => ({ b with world := w }, .error endless)

/-- Resets the instance. -/
def reset (b : GuestBench σ) : GuestBench σ × Reset.Result :=
  match Reset.finish Alone.patience b.world b.current with
  | (w, some (i, outcome)) => ({ b with world := w, current := i }, outcome)
  | (w, none) => ({ b with world := w }, .error endless)

/-- Makes another instance in place of the current one, which stays if that fails. -/
def renew (b : GuestBench σ) : GuestBench σ × Except HostError Unit :=
  let made := b.made + 1
  match Birth.finish Alone.patience b.world b.blueprint made with
  | (w, some (.ok i)) => ({ b with world := w.freeSlot, made := made, current := i }, .ok ())
  | (w, some (.error e)) => ({ b with world := w, made := made }, .error e)
  | (w, none) => ({ b with world := w, made := made }, .error endless)

end GuestBench
end FunctionHost

import FunctionHost.World
/-!
# The engine

What runs guest code, as far as it shows: that it was started, how it was set up, and whether the
epochs pass by themselves.
-/
namespace FunctionHost
namespace Engine

/-- An event about the engine. -/
def event (level : Level) (message : String) (fields : List (String × FieldValue)) : Event :=
  { target := "capsule_core::engine", level := level, message := message, fields := fields }

/-- **The world once the engine is started.** -/
def start {σ : Type} (w : World σ) : World σ :=
  let s := w.engine
  let w :=
    if s.poolingAllocator then
      w.report (event .info "Pooling allocator enabled" [
        ("max_instances", .number s.maxInstances.toNat),
        ("instance_memory_mb", .number s.instanceMemoryMb.toNat)])
    else w
  w.report (event .info "Wasmtime engine initialized" [])

/-- The world once epochs pass by themselves, unless they do not matter. -/
def startTicker {σ : Type} (w : World σ) : World σ :=
  if w.engine.epochInterruption then
    w.report (event .debug "Epoch ticker started" [("tick_ms", .text (toString w.engine.tickMs))])
  else w

/-- The engine, as diagnostics show it. -/
def shown (s : EngineSettings) : String := Text.openRecord "WasmEngine" [
  ("pooling_allocator", Text.truth s.poolingAllocator),
  ("epoch_interruption", Text.truth s.epochInterruption),
  ("epoch_tick_ms", toString s.epochTickMs.toNat)]

/-- What makes epochs pass, as diagnostics show it while it does. -/
def tickerShown : String := Text.record "EpochTicker" [("running", Text.truth true)]

end Engine
end FunctionHost

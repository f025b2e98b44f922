import FunctionHost.Document.Shape
import FunctionHost.Error
import FunctionHost.Text.Quoted
/-!
# Settings of a host

How guest code is compiled, what a call may use and how many instances are kept, each in a section
of its own.  Every setting has a default, so a document names only what differs from it.

For each section there are three views: `document` writes it, `shape` says what a document of it
looks like, and `ofDocument` takes one apart that has that shape.
-/
namespace FunctionHost

/-- **How guest code is compiled** and how time is counted. -/
structure EngineSettings where
  /-- Whether room for instances is set aside in advance. -/
  poolingAllocator : Bool := false
  /-- How many instances may live at once, if room is set aside. -/
  maxInstances : UInt32 := 1000
  /-- Megabytes set aside for the memory of each instance. -/
  instanceMemoryMb : UInt32 := 64
  /-- Whether the passing of epochs stops guest code. -/
  epochInterruption : Bool := true
  /-- Milliseconds in an epoch. -/
  epochTickMs : UInt64 := 10
  deriving DecidableEq, Repr, Inhabited

namespace EngineSettings

/-- The length of an epoch; an epoch takes some time even if the setting is zero. -/
def tickMs (s : EngineSettings) : Nat := max s.epochTickMs.toNat 1

/-- The settings as a document. -/
def document (s : EngineSettings) : Json := .record [
  ("pooling_allocator", .bool s.poolingAllocator),
  ("max_instances", .nat s.maxInstances.toNat),
  ("instance_memory_mb", .nat s.instanceMemoryMb.toNat),
  ("epoch_interruption", .bool s.epochInterruption),
  ("epoch_tick_ms", .nat s.epochTickMs.toNat)]

/-- What a document of these settings looks like. -/
def shape : Shape :=
  let standard : EngineSettings := {}
  .record "EngineConfig" [
    ("pooling_allocator", .flag, some (.bool standard.poolingAllocator)),
    ("max_instances", .u32, some (.nat standard.maxInstances.toNat)),
    ("instance_memory_mb", .u32, some (.nat standard.instanceMemoryMb.toNat)),
    ("epoch_interruption", .flag, some (.bool standard.epochInterruption)),
    ("epoch_tick_ms", .u64, some (.nat standard.epochTickMs.toNat))]

/-- The settings that a document of their shape holds. -/
def ofDocument (d : Json) : EngineSettings where
  poolingAllocator := (d.child "pooling_allocator").asFlag
  maxInstances := .ofNat (d.child "max_instances").asNat
  instanceMemoryMb := .ofNat (d.child "instance_memory_mb").asNat
  epochInterruption := (d.child "epoch_interruption").asFlag
  epochTickMs := .ofNat (d.child "epoch_tick_ms").asNat

/-- The settings, as diagnostics show them. -/
def shown (s : EngineSettings) : String := Text.record "EngineConfig" [
  ("pooling_allocator", Text.truth s.poolingAllocator),
  ("max_instances", toString s.maxInstances.toNat),
  ("instance_memory_mb", toString s.instanceMemoryMb.toNat),
  ("epoch_interruption", Text.truth s.epochInterruption),
  ("epoch_tick_ms", toString s.epochTickMs.toNat)]

end EngineSettings

/-- **What a call may use** and the names by which host and guest know each other. -/
structure ExecutionSettings where
  /-- The fuel budget. -/
  maxFuel : UInt64 := 10000000
  /-- Whether fuel is counted at all. -/
  fuelMetering : Bool := true
  /-- Milliseconds that a call may take. -/
  timeoutMs : UInt64 := 10000
  /-- Megabytes that the memory of an instance may have. -/
  maxMemoryMb : UInt32 := 64
  /-- The name under which guests export their allocator. -/
  allocateExport : String := "allocate"
  /-- Whether the system interface is offered to guests. -/
  wasi : Bool := true
  /-- Whether guests share the host's standard streams. -/
  inheritStdio : Bool := true
  deriving DecidableEq, Repr, Inhabited

namespace ExecutionSettings

/-- The largest memory whose regions packed results can name, in megabytes. -/
def addressableMb : Nat := 2048

/-- Bytes that the memory of an instance may have. -/
def maxMemoryBytes (s : ExecutionSettings) : Nat := s.maxMemoryMb.toNat * 1024 * 1024

/-- The fuel budget of a call: without counting, the largest there is. -/
def budget (s : ExecutionSettings) : Nat :=
  if s.fuelMetering then s.maxFuel.toNat else UInt64.size - 1

/-- **Accepts the settings** unless results could not name all of a guest's memory. -/
def validate (s : ExecutionSettings) : Except HostError Unit :=
  if addressableMb < s.maxMemoryMb.toNat then
    .error (.invalidConfig ("max_memory_mb is " ++ toString s.maxMemoryMb.toNat
      ++ ", but results can only address " ++ toString addressableMb ++ " MB"))
  else .ok ()

/-- The settings as a document. -/
def document (s : ExecutionSettings) : Json := .record [
  ("max_fuel", .nat s.maxFuel.toNat),
  ("fuel_metering", .bool s.fuelMetering),
  ("timeout_ms", .nat s.timeoutMs.toNat),
  ("max_memory_mb", .nat s.maxMemoryMb.toNat),
  ("allocate_export", .text s.allocateExport),
  ("wasi", .bool s.wasi),
  ("inherit_stdio", .bool s.inheritStdio)]

/-- What a document of these settings looks like. -/
def shape : Shape :=
  let standard : ExecutionSettings := {}
  .record "ExecutionConfig" [
    ("max_fuel", .u64, some (.nat standard.maxFuel.toNat)),
    ("fuel_metering", .flag, some (.bool standard.fuelMetering)),
    ("timeout_ms", .u64, some (.nat standard.timeoutMs.toNat)),
    ("max_memory_mb", .u32, some (.nat standard.maxMemoryMb.toNat)),
    ("allocate_export", .text, some (.text standard.allocateExport)),
    ("wasi", .flag, some (.bool standard.wasi)),
    ("inherit_stdio", .flag, some (.bool standard.inheritStdio))]

/-- The settings that a document of their shape holds. -/
def ofDocument (d : Json) : ExecutionSettings where
  maxFuel := .ofNat (d.child "max_fuel").asNat
  fuelMetering := (d.child "fuel_metering").asFlag
  timeoutMs := .ofNat (d.child "timeout_ms").asNat
  maxMemoryMb := .ofNat (d.child "max_memory_mb").asNat
  allocateExport := (d.child "allocate_export").asText
  wasi := (d.child "wasi").asFlag
  inheritStdio := (d.child "inherit_stdio").asFlag

/-- The settings, as diagnostics show them. -/
def shown (s : ExecutionSettings) : String := Text.record "ExecutionConfig" [
  ("max_fuel", toString s.maxFuel.toNat),
  ("fuel_metering", Text.truth s.fuelMetering),
  ("timeout_ms", toString s.timeoutMs.toNat),
  ("max_memory_mb", toString s.maxMemoryMb.toNat),
  ("allocate_export", Text.quoted s.allocateExport),
  ("wasi", Text.truth s.wasi),
  ("inherit_stdio", Text.truth s.inheritStdio)]

end ExecutionSettings

/-- **How many instances are kept** and how long anyone waits for them. -/
structure PoolSettings where
  /-- Instances of a module that does not say how many. -/
  defaultSize : UInt64 := 4
  /-- Milliseconds to wait for an idle instance; zero means without limit. -/
  checkoutTimeoutMs : UInt64 := 5000
  /-- Milliseconds to wait for leased instances when a pool is drained. -/
  drainTimeoutMs : UInt64 := 5000
  deriving DecidableEq, Repr, Inhabited

namespace PoolSettings

/-- How long to wait for an idle instance, if not without limit. -/
def checkoutTimeout (s : PoolSettings) : Option Nat :=
  if s.checkoutTimeoutMs = 0 then none else some s.checkoutTimeoutMs.toNat

/-- The settings as a document. -/
def document (s : PoolSettings) : Json := .record [
  ("default_size", .nat s.defaultSize.toNat),
  ("checkout_timeout_ms", .nat s.checkoutTimeoutMs.toNat),
  ("drain_timeout_ms", .nat s.drainTimeoutMs.toNat)]

/-- What a document of these settings looks like. -/
def shape : Shape :=
  let standard : PoolSettings := {}
  .record "PoolConfig" [
    ("default_size", .usize, some (.nat standard.defaultSize.toNat)),
    ("checkout_timeout_ms", .u64, some (.nat standard.checkoutTimeoutMs.toNat)),
    ("drain_timeout_ms", .u64, some (.nat standard.drainTimeoutMs.toNat))]

/-- The settings that a document of their shape holds. -/
def ofDocument (d : Json) : PoolSettings where
  defaultSize := .ofNat (d.child "default_size").asNat
  checkoutTimeoutMs := .ofNat (d.child "checkout_timeout_ms").asNat
  drainTimeoutMs := .ofNat (d.child "drain_timeout_ms").asNat

/-- The settings, as diagnostics show them. -/
def shown (s : PoolSettings) : String := Text.record "PoolConfig" [
  ("default_size", toString s.defaultSize.toNat),
  ("checkout_timeout_ms", toString s.checkoutTimeoutMs.toNat),
  ("drain_timeout_ms", toString s.drainTimeoutMs.toNat)]

end PoolSettings

/-- **The settings of a host**, by section. -/
structure HostSettings where
  /-- How guest code is compiled. -/
  engine : EngineSettings := {}
  /-- What a call may use. -/
  execution : ExecutionSettings := {}
  /-- How many instances are kept. -/
  pool : PoolSettings := {}
  deriving DecidableEq, Repr, Inhabited

namespace HostSettings

/-- The settings as a document. -/
def document (s : HostSettings) : Json := .record [
  ("engine", s.engine.document),
  ("execution", s.execution.document),
  ("pool", s.pool.document)]

/-- What a document of these settings looks like. -/
def shape : Shape :=
  let standard : HostSettings := {}
  .record "RuntimeConfig" [
    ("engine", EngineSettings.shape, some standard.engine.document),
    ("execution", ExecutionSettings.shape, some standard.execution.document),
    ("pool", PoolSettings.shape, some standard.pool.document)]

/-- The settings that a document of their shape holds. -/
def ofDocument (d : Json) : HostSettings where
  engine := .ofDocument (d.child "engine")
  execution := .ofDocument (d.child "execution")
  pool := .ofDocument (d.child "pool")

/-- The settings, as diagnostics show them. -/
def shown (s : HostSettings) : String := Text.record "RuntimeConfig" [
  ("engine", s.engine.shown),
  ("execution", s.execution.shown),
  ("pool", s.pool.shown)]

end HostSettings
end FunctionHost

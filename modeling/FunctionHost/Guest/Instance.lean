import FunctionHost.Guest.Activity
/-!
# Instances

An `Instance` is a guest with a number and a state.  It is made from a `Blueprint`, serves calls one
after another, and is reset in between.  A fault is final: a faulted instance runs no guest code any
more.

Making, calling and resetting run guest code and so may have to wait.  Each of the three has a
structure that holds what is in progress (`Birth`, `Call`, `Reset`), a function that begins it and
one that takes it further.
-/
namespace FunctionHost

open Wasm (Word)

/-- The state of an instance. -/
inductive InstanceState where
  /-- Nobody uses it. -/
  | idle
  /-- Somebody holds it. -/
  | leased
  /-- It must not be used any more. -/
  | faulted
  deriving DecidableEq, Repr, Inhabited

/-- The name of the state. -/
def InstanceState.name : InstanceState → String
  | .idle => "Idle"
  | .leased => "Leased"
  | .faulted => "Faulted"

/-- **What instances are made from.** -/
structure Blueprint where
  /-- The name of the module. -/
  name : String
  /-- Its code. -/
  program : Wasm.Program
  /-- The hash of what the code was read from. -/
  contentHash : String
  /-- What is offered for import. -/
  linker : Linker
  /-- What a call may use. -/
  execution : ExecutionSettings
  deriving Inhabited

/-- The blueprint, as diagnostics show it. -/
def Blueprint.shown (b : Blueprint) : String :=
  Text.openRecord "InstanceFactory" [("module_name", Text.quoted b.name)]

/-- **An instance.** -/
structure Instance where
  /-- Its number; the instances of a blueprint are numbered from one. -/
  id : Nat
  /-- What never changes about it. -/
  body : Body
  /-- What its guest is like. -/
  guest : Guest
  /-- Its state. -/
  state : InstanceState := .idle
  deriving Inhabited

namespace Instance

/-- Whether the instance must not be used any more. -/
def isFaulted (i : Instance) : Bool := i.state = .faulted

/-- The instance in another state; a fault stays. -/
def setState (i : Instance) (s : InstanceState) : Instance :=
  if i.isFaulted then i else { i with state := s }

/-- The instance that must not be used any more. -/
def fault (i : Instance) : Instance := { i with state := .faulted }

/-- The memory that host and guest share. -/
def memory (i : Instance) : Wasm.Memory := i.guest.memory (i.body.memory?.getD 0)

/-- The instance, as diagnostics show it. -/
def shown (i : Instance) : String := Text.openRecord "Instance" [
  ("id", toString i.id),
  ("module", Text.quoted i.body.name),
  ("state", i.state.name)]

/-- An event about an instance. -/
def event (level : Level) (message : String) (fields : List (String × FieldValue)) : Event :=
  { target := "capsule_core::instance", level := level, message := message, fields := fields }

/-- The refusal to use a faulted instance. -/
def faultedError : HostError := .execution "instance is faulted"

end Instance

/-! ## Making an instance -/

/-- **An instance being made**: its start function runs, or else its initialization. -/
structure Birth where
  /-- Its number. -/
  id : Nat
  /-- What never changes about it. -/
  body : Body
  /-- What its guest is like so far. -/
  guest : Guest
  /-- Whether the start function is over and the initialization runs. -/
  initializing : Bool
  /-- What runs. -/
  activity : Activity
  deriving Inhabited

/-- What comes of making an instance. -/
abbrev Birth.Result := Except HostError Instance

namespace Birth

variable {σ : Type}

/-- What an instance may use. -/
def ceilings (w : World σ) (s : ExecutionSettings) : Wasm.Ceilings :=
  let pooled := w.engine.poolingAllocator
  { memoryBytes := s.maxMemoryBytes
    reservedBytes := if pooled then some (w.engine.instanceMemoryMb.toNat * 1024 * 1024) else none
    tableElements := if pooled then 20000 else UInt32.size - 1
    fuel := s.budget
    deadline := w.deadlineFor s.timeoutMs.toNat }

/-- The end of an attempt that took room for the instance. -/
def abandon (w : World σ) (reason : String) : World σ × Standing Birth Result :=
  (w.freeSlot, .ended (.error (.instantiationFailed reason)))

/-- An exported function that acts: its index if it is there, or what is wrong with its type. -/
def action? (b : Body) (name : String) : Except String (Option Nat) :=
  match b.program.function? name with
  | none => .ok none
  | some (index, type) =>
    let unusable (what : String) := .error ("`" ++ name ++ "` export unusable: " ++ what)
    if !type.params.isEmpty then unusable "type mismatch with parameters"
    else if !type.results.isEmpty then unusable "type mismatch with results"
    else .ok (some index)

/-- What is missing for host and guest to work together, if anything is; otherwise the function
that initializes the guest, if there is one. -/
def exports (b : Body) : Except String (Option Nat) := do
  if b.memory?.isNone then throw "module does not export `memory`"
  let allocator := b.execution.allocateExport
  if (b.function? allocator Body.allocatorType).isNone then
    let why :=
      if (b.program.function? allocator).isNone then "failed to find function export `"
      else "failed to convert function `"
    let rest := if (b.program.function? allocator).isNone then "`" else "` to given type"
    throw ("allocator export `" ++ allocator ++ "` unusable: " ++ why ++ allocator ++ rest)
  let _ ← action? b "reset"
  action? b "_initialize"

/-- The instance that is ready. -/
def ready (w : World σ) (id : Nat) (b : Body) (g : Guest) : World σ × Standing Birth Result :=
  (w.report (Instance.event .debug "Instance created" [("instance_id", .number id)]),
    .ended (.ok { id := id, body := b, guest := g }))

/-- What follows the start function: exports are looked up and the guest initializes itself. -/
def afterStart (w : World σ) (id : Nat) (b : Body) (g : Guest) : World σ × Standing Birth Result :=
  match exports b with
  | .error reason => abandon w reason
  | .ok none => ready w id b g
  | .ok (some func) =>
    let (g, a) := Activity.start b w g func []
    (w, .busy { id := id, body := b, guest := g, initializing := true, activity := a })

/-- **What an instance starts from**: its imports are met, room is taken for it and its first state
set up; or why it has none. -/
def furnish (w : World σ) (blueprint : Blueprint) : World σ × Except String (Body × Guest) :=
  match blueprint.linker.link blueprint.program.module with
  | .error reason => (w, .error reason)
  | .ok imports =>
    match w.takeSlot with
    | .error limit =>
      (w, .error ("maximum concurrent limit of " ++ toString limit
        ++ " for core instances reached"))
    | .ok w =>
      match blueprint.program.setup (ceilings w blueprint.execution) with
      | .error fault => (w.freeSlot, .error fault.message)
      | .ok store =>
        let b : Body :=
          { name := blueprint.name, program := blueprint.program, imports := imports
            execution := blueprint.execution }
        (w, .ok (b, { store := store }))

/-- **Begins to make an instance** with a number. -/
def begin (w : World σ) (blueprint : Blueprint) (id : Nat) : World σ × Standing Birth Result :=
  match furnish w blueprint with
  | (w, .error reason) => (w, .ended (.error (.instantiationFailed reason)))
  | (w, .ok (b, g)) =>
    match blueprint.program.module.start with
    | none => afterStart w id b g
    | some func =>
      let (g, a) := Activity.start b w g func []
      (w, .busy { id := id, body := b, guest := g, initializing := false, activity := a })

/-- **Takes the making of an instance further.** -/
def proceed (rounds : Nat) (w : World σ) (b : Birth) : World σ × Standing Birth Result :=
  match Activity.proceed b.body rounds w b.guest b.activity with
  | (w, g, .busy a) => (w, .busy { b with guest := g, activity := a })
  | (w, g, .blocked a) => (w, .blocked { b with guest := g, activity := a })
  | (w, g, .ended result) =>
    match result, b.initializing with
    | .ok _, false => afterStart w b.id b.body g
    | .ok _, true => ready w b.id b.body (g.refuel b.body.execution.budget)
    | .error stop, false => abandon w stop.full
    | .error stop, true => abandon w ("`_initialize` failed: " ++ stop.full)

/-- The world after the making of an instance was given up. -/
def drop (w : World σ) : World σ := w.freeSlot

end Birth

/-! ## Calling an entrypoint -/

/-- **A call in progress.** -/
structure Call where
  /-- The request. -/
  context : Context
  /-- The entrypoint. -/
  func : Nat
  /-- The payload. -/
  payload : Bytes
  /-- Milliseconds that the call may take. -/
  timeoutMs : Nat
  /-- The fuel that was left when it began. -/
  fuelBefore : Nat
  /-- Whether the payload is in place and the entrypoint runs. -/
  entered : Bool
  /-- What runs. -/
  activity : Activity
  deriving Inhabited

/-- What comes of a call. -/
abbrev Call.Result := Except HostError Bytes

namespace Call

variable {σ : Type}

/-- Milliseconds that a call may take: those of the settings, or fewer if the request ends
earlier. -/
def effectiveTimeout (c : Context) (clock : Clock) (configured : Nat) : Nat :=
  match c.remaining clock with
  | some rest => min rest configured
  | none => configured

/-- **What a packed result says** to the caller, given the guest's memory. -/
def decode (m : Wasm.Memory) (word : Word) : Except HostError Bytes :=
  match Packed.decode word with
  | .ok ptr len => if len = 0 then .ok ByteArray.empty else Region.read m ptr len
  | .err ptr len => do throw (.execution (Utf8.decodeLossy (← Region.read m ptr len)))
  | .failed => .error (.execution "guest reported failure without an error document")

/-- The error of an interrupted call. -/
def interrupted (timeoutMs : Nat) : Interruption → HostError
  | .canceled => .canceled
  | .deadlineExceeded => .executionTimeout timeoutMs

/-- Whether an error says that the guest's memory is not as it should be. -/
def isMemoryFault : Except HostError Bytes → Bool
  | .error (.memoryFault _) => true
  | _ => false

/-- The report of a call that is over. -/
def report (i : Instance) (fuel : Nat) : Except HostError Bytes → Event
  | .ok result => Instance.event .debug "Call completed" [
      ("duration_ms", .duration),
      ("fuel_consumed", .number fuel),
      ("result_len", .number result.size)]
  | .error e => Instance.event .warn "Call failed" [
      ("duration_ms", .duration),
      ("fuel_consumed", .number fuel),
      ("faulted", .flag i.isFaulted),
      ("error", .text e.message)]

/-- **The end of a call.**  The instance is faulted if the call was `broken` off, if a result lies
outside memory, or if the guest's memory cannot be trusted any more. -/
def conclude (w : World σ) (i : Instance) (fuelBefore : Nat) (broken : Bool)
    (outcome : Except HostError Bytes) : World σ × Instance × Standing Call Result :=
  let i := if broken || isMemoryFault outcome then i.fault else i
  let (w, i) := match i.guest.poisoned with
    | some reason =>
      (w.report (Instance.event .warn "Instance poisoned by host call"
        [("reason", .text reason)]), i.fault)
    | none => (w, i)
  let fuel := fuelBefore - i.guest.store.fuel.remaining
  let i := { i with guest := i.guest.endCall fuel }
  (w.report (report i fuel outcome), i, .ended outcome)

/-- Runs the entrypoint. -/
def enter (w : World σ) (i : Instance) (c : Call) (ptr : UInt32) : Instance × Call :=
  let args := [ptr.toUInt64, UInt64.ofNat c.payload.size]
  let (g, a) := Activity.start i.body w i.guest c.func args
  ({ i with guest := g }, { c with entered := true, activity := a })

/-- **Begins a call** of an entrypoint. -/
def begin (w : World σ) (i : Instance) (context : Context) (entrypoint : String)
    (payload : Bytes) : World σ × Instance × Standing Call Result :=
  if i.isFaulted then (w, i, .ended (.error Instance.faultedError))
  else
    match i.body.function? entrypoint Body.entrypointType with
    | none => (w, i, .ended (.error (.entrypointNotFound entrypoint)))
    | some func =>
      let timeoutMs :=
        effectiveTimeout context w.clock i.body.execution.timeoutMs.toNat
      let armed := if w.engine.epochInterruption then i.guest.arm (w.deadlineFor timeoutMs)
        else i.guest
      let i := { i with guest := armed.beginCall context }
      let fuelBefore := i.guest.store.fuel.remaining
      match context.interruption w.clock with
      | some why => conclude w i fuelBefore true (.error (interrupted timeoutMs why))
      | none =>
        let c : Call :=
          { context := context, func := func, payload := payload, timeoutMs := timeoutMs
            fuelBefore := fuelBefore, entered := false, activity := default }
        if payload.size = 0 then
          let (i, c) := enter w i c 0
          (w, i, .busy c)
        else if Allocation.maxLength < payload.size then
          conclude w i fuelBefore true (.error (Allocation.tooLong payload.size))
        else
          match i.body.function? i.body.execution.allocateExport Body.allocatorType with
          | none => conclude w i fuelBefore true (.error Allocation.null)
          | some allocator =>
            let (g, a) :=
              Activity.start i.body w i.guest allocator [UInt64.ofNat payload.size]
            (w, { i with guest := g }, .busy { c with activity := a })

/-- What follows when the function that runs for a call has ended. -/
def continue? (w : World σ) (i : Instance) (c : Call) (result : Except Stop (List Word)) :
    World σ × Instance × Standing Call Result :=
  if c.entered then
    match result with
    | .ok results =>
      conclude w i c.fuelBefore false (decode i.memory (results.head?.getD Packed.failure))
    | .error stop => conclude w i c.fuelBefore true (.error (stop.error c.timeoutMs))
  else
    match Allocation.place i.memory result c.payload with
    | .error e => conclude w i c.fuelBefore true (.error e)
    | .ok (ptr, m) =>
      let i := { i with guest := i.guest.withMemory (i.body.memory?.getD 0) m }
      let (i, c) := enter w i c ptr
      (w, i, .busy c)

/-- **Takes a call further.**  A call that waits is over as soon as its context is not open. -/
def proceed (rounds : Nat) (w : World σ) (i : Instance) (c : Call) :
    World σ × Instance × Standing Call Result :=
  let guest := i.guest
  match Activity.proceed i.body rounds w guest c.activity with
  | (w, g, .busy a) => (w, { i with guest := g }, .busy { c with activity := a })
  | (w, g, .blocked a) =>
    let i := { i with guest := g }
    match c.context.interruption w.clock with
    | some why => conclude w i c.fuelBefore true (.error (interrupted c.timeoutMs why))
    | none => (w, i, .blocked { c with activity := a })
  | (w, g, .ended result) => continue? w { i with guest := g } c result

end Call

/-! ## Resetting an instance -/

/-- **A reset in progress.** -/
structure Reset where
  /-- What runs. -/
  activity : Activity
  deriving Inhabited

/-- What comes of a reset. -/
abbrev Reset.Result := Except HostError Unit

namespace Reset

variable {σ : Type}

/-- The end of a reset that failed. -/
def fail (w : World σ) (i : Instance) (e : HostError) :
    World σ × Instance × Standing Reset Result :=
  (w, i.fault, .ended (.error e))

/-- **Begins a reset**: the fuel account is filled and the guest may tidy up. -/
def begin (w : World σ) (i : Instance) : World σ × Instance × Standing Reset Result :=
  let size := i.memory.size
  let limit := i.body.execution.maxMemoryBytes
  if i.isFaulted then (w, i, .ended (.error Instance.faultedError))
  else if limit < size then
    fail w i (.memoryFault ("memory grew to " ++ toString size ++ " bytes, limit is "
      ++ toString limit))
  else
    let g := i.guest.refuel i.body.execution.budget
    match i.body.function? "reset" Body.actionType with
    | none => (w, { i with guest := g }, .ended (.ok ()))
    | some func =>
      let g := if w.engine.epochInterruption then
        g.arm (w.deadlineFor i.body.execution.timeoutMs.toNat) else g
      let (g, a) := Activity.start i.body w g func []
      (w, { i with guest := g }, .busy ⟨a⟩)

/-- **Takes a reset further.** -/
def proceed (rounds : Nat) (w : World σ) (i : Instance) (r : Reset) :
    World σ × Instance × Standing Reset Result :=
  match Activity.proceed i.body rounds w i.guest r.activity with
  | (w, g, .busy a) => (w, { i with guest := g }, .busy ⟨a⟩)
  | (w, g, .blocked a) => (w, { i with guest := g }, .blocked ⟨a⟩)
  | (w, g, .ended (.ok _)) =>
    (w, { i with guest := g.refuel i.body.execution.budget }, .ended (.ok ()))
  | (w, g, .ended (.error stop)) =>
    fail w { i with guest := g } (stop.error i.body.execution.timeoutMs.toNat)

end Reset
/-! ## Waiting -/

/-- The instant at which the making of an instance goes on. -/
def Birth.wakeup (clock : Clock) (b : Birth) : Option Nat := b.activity.wakeup clock

/-- The instant at which a call goes on, be it that its context ends it. -/
def Call.wakeup (clock : Clock) (c : Call) : Option Nat :=
  Context.earlier (c.activity.wakeup clock) (c.context.wakeup clock none)

/-- The instant at which a reset goes on. -/
def Reset.wakeup (clock : Clock) (r : Reset) : Option Nat := r.activity.wakeup clock

end FunctionHost

import FunctionHost.Guest.Instance

/-!
# What a turn can come to

Calls, resets and the making of instances begin and go on in functions of many branches.  Here it is
said once for each of them what it can come to and under which conditions (`Call.Begins`,
`Call.Proceeds`, `Reset.Begins`, `Reset.Proceeds`, `Birth.Furnishes`, `Birth.Begins`,
`Birth.Proceeds`).  Whatever holds of all turns is shown by going through these cases, and nobody
else has to know the branches.

The end of a call is one of the things that a turn can come to.  It ends the call with the outcome
that it is given, takes the request from the guest, and decides whether the instance is faulted
(`Call.conclude_ended`, `Call.conclude_guest`, `Call.conclude_isFaulted`).
-/
namespace FunctionHost

variable {σ : Type}

/-! ## Calls -/

namespace Call

variable {w : World σ} {i : Instance} {context : Context} {entrypoint : String} {payload : Bytes}
  {rounds : Nat} {c : Call}

theorem conclude_ended (w : World σ) (i : Instance) (fuel : Nat) (broken : Bool)
    (outcome : Except HostError Bytes) :
    (conclude w i fuel broken outcome).2.2 = .ended outcome := rfl

theorem conclude_guest (w : World σ) (i : Instance) (fuel : Nat) (broken : Bool)
    (outcome : Except HostError Bytes) :
    (conclude w i fuel broken outcome).2.1.guest =
      i.guest.endCall (fuel - i.guest.store.fuel.remaining) := by
  have hfault : (if broken || isMemoryFault outcome then i.fault else i).guest = i.guest := by
    split <;> rfl
  unfold conclude
  generalize (if broken || isMemoryFault outcome then i.fault else i) = j at hfault
  rw [← hfault]
  dsimp only
  split <;> rfl

/-- **A call faults its instance as it ends** if it was broken off, if what it returns was not to be
found in memory, and if the guest is poisoned. -/
theorem conclude_isFaulted (w : World σ) (i : Instance) (fuel : Nat) (broken : Bool)
    (outcome : Except HostError Bytes) :
    (conclude w i fuel broken outcome).2.1.isFaulted =
      (i.isFaulted || (broken || isMemoryFault outcome || i.guest.poisoned.isSome)) := by
  have hfault : (if broken || isMemoryFault outcome then i.fault else i).guest = i.guest := by
    split <;> rfl
  have hmarked : (if broken || isMemoryFault outcome then i.fault else i).isFaulted =
      (i.isFaulted || (broken || isMemoryFault outcome)) := by
    cases broken || isMemoryFault outcome
    · exact (Bool.or_false _).symm
    · exact (Bool.or_true _).symm
  rw [← Bool.or_assoc, ← hmarked, ← hfault]
  unfold conclude
  generalize (if broken || isMemoryFault outcome then i.fault else i) = j
  dsimp only
  cases j.guest.poisoned with
  | some reason => exact (Bool.or_true _).symm
  | none => exact (Bool.or_false _).symm

/-- **The guest that is to serve a request**: its deadline is set, and the request is attached. -/
def prepared (w : World σ) (i : Instance) (c : Context) : Guest :=
  let timeoutMs := effectiveTimeout c w.clock i.body.execution.timeoutMs.toNat
  let armed := if w.engine.epochInterruption then i.guest.arm (w.deadlineFor timeoutMs) else i.guest
  armed.beginCall c

/-- A call that is about to have its entrypoint run, or its allocator. -/
def fresh (w : World σ) (i : Instance) (c : Context) (func : Nat) (payload : Bytes) : Call :=
  { context := c, func := func, payload := payload
    timeoutMs := effectiveTimeout c w.clock i.body.execution.timeoutMs.toNat
    fuelBefore := (prepared w i c).store.fuel.remaining, entered := false, activity := default }

/-- **What keeps a call from running guest code** on an instance that could serve it, and the error
that it ends with. -/
inductive Hindered (w : World σ) (i : Instance) (c : Context) (payload : Bytes) : HostError → Prop
  | interrupted {why : Interruption} (hover : c.interruption w.clock = some why) :
      Hindered w i c payload
        (interrupted (effectiveTimeout c w.clock i.body.execution.timeoutMs.toNat) why)
  | tooLong (hopen : c.interruption w.clock = none) (hsize : payload.size ≠ 0)
      (hlong : Allocation.maxLength < payload.size) :
      Hindered w i c payload (Allocation.tooLong payload.size)
  | unallocatable (hopen : c.interruption w.clock = none) (hsize : payload.size ≠ 0)
      (hlong : ¬ Allocation.maxLength < payload.size)
      (hfind : i.body.function? i.body.execution.allocateExport Body.allocatorType = none) :
      Hindered w i c payload Allocation.null

/-- **How a call begins.** -/
inductive Begins (w : World σ) (i : Instance) (c : Context) (entrypoint : String)
    (payload : Bytes) : World σ × Instance × Standing Call Result → Prop
  /-- The instance is faulted. -/
  | refused (hfault : i.isFaulted = true) :
      Begins w i c entrypoint payload (w, i, .ended (.error Instance.faultedError))
  /-- There is no such entrypoint. -/
  | missing (hfit : i.isFaulted = false)
      (hentry : i.body.function? entrypoint Body.entrypointType = none) :
      Begins w i c entrypoint payload (w, i, .ended (.error (.entrypointNotFound entrypoint)))
  /-- The request is attached, and the call is over. -/
  | hindered {func : Nat} {e : HostError} (hfit : i.isFaulted = false)
      (hentry : i.body.function? entrypoint Body.entrypointType = some func)
      (h : Hindered w i c payload e) :
      Begins w i c entrypoint payload
        (conclude w { i with guest := prepared w i c } (prepared w i c).store.fuel.remaining true
          (.error e))
  /-- There is no payload, so that the entrypoint is run at once. -/
  | entered {func : Nat} (hfit : i.isFaulted = false)
      (hentry : i.body.function? entrypoint Body.entrypointType = some func)
      (hopen : c.interruption w.clock = none) (hsize : payload.size = 0) :
      Begins w i c entrypoint payload
        (w, (enter w { i with guest := prepared w i c } (fresh w i c func payload) 0).1,
          .busy (enter w { i with guest := prepared w i c } (fresh w i c func payload) 0).2)
  /-- The allocator is run. -/
  | allocating {func allocator : Nat} (hfit : i.isFaulted = false)
      (hentry : i.body.function? entrypoint Body.entrypointType = some func)
      (hopen : c.interruption w.clock = none) (hsize : payload.size ≠ 0)
      (hlong : ¬ Allocation.maxLength < payload.size)
      (hfind : i.body.function? i.body.execution.allocateExport Body.allocatorType =
        some allocator) :
      Begins w i c entrypoint payload
        (w, { i with guest := (Activity.start i.body w (prepared w i c) allocator
            [UInt64.ofNat payload.size]).1 },
          .busy { fresh w i c func payload with activity := (Activity.start i.body w
            (prepared w i c) allocator [UInt64.ofNat payload.size]).2 })

theorem begins (w : World σ) (i : Instance) (c : Context) (entrypoint : String)
    (payload : Bytes) : Begins w i c entrypoint payload (begin w i c entrypoint payload) := by
  unfold begin
  split
  · exact .refused ‹_›
  · rename_i hfault
    have hfit : i.isFaulted = false := Bool.eq_false_iff.mpr hfault
    split
    · exact .missing hfit ‹_›
    · rename_i hentry
      dsimp only
      split
      · exact .hindered hfit hentry (.interrupted ‹_›)
      · rename_i hopen
        split
        · exact .entered hfit hentry hopen ‹_›
        · rename_i hsize
          split
          · exact .hindered hfit hentry (.tooLong hopen hsize ‹_›)
          · rename_i hlong
            split
            · exact .hindered hfit hentry (.unallocatable hopen hsize hlong ‹_›)
            · exact .allocating hfit hentry hopen hsize hlong ‹_›

/-- **How a call ends** when its guest was run until it stopped or waits: whether the call is broken
off, and what it returns. -/
inductive Concludes (i : Instance) (c : Call) :
    World σ → Guest → Standing Activity Activity.Result → Bool → Result → Prop
  /-- It waits, and the request is over. -/
  | interrupted {v : World σ} {g : Guest} {a : Activity} {why : Interruption}
      (hover : c.context.interruption v.clock = some why) :
      Concludes i c v g (.blocked a) true (.error (interrupted c.timeoutMs why))
  /-- The entrypoint has answered. -/
  | answered {v : World σ} {g : Guest} {results : List Wasm.Word} (hentered : c.entered = true) :
      Concludes i c v g (.ended (.ok results)) false
        (decode (g.memory (i.body.memory?.getD 0)) (results.head?.getD Packed.failure))
  /-- The entrypoint was stopped. -/
  | stopped {v : World σ} {g : Guest} {stop : Stop} (hentered : c.entered = true) :
      Concludes i c v g (.ended (.error stop)) true (.error (stop.error c.timeoutMs))
  /-- The allocator has found no place for the payload. -/
  | unplaced {v : World σ} {g : Guest} {result : Activity.Result} {e : HostError}
      (hentered : c.entered = false)
      (hplace : Allocation.place (g.memory (i.body.memory?.getD 0)) result c.payload = .error e) :
      Concludes i c v g (.ended result) true (.error e)

/-- **What a turn of a call comes to** when its guest was run. -/
inductive Proceeds (i : Instance) (c : Call) :
    World σ × Guest × Standing Activity Activity.Result →
      World σ × Instance × Standing Call Result → Prop
  | busy {v : World σ} {g : Guest} {a : Activity} :
      Proceeds i c (v, g, .busy a) (v, { i with guest := g }, .busy { c with activity := a })
  | waiting {v : World σ} {g : Guest} {a : Activity}
      (hopen : c.context.interruption v.clock = none) :
      Proceeds i c (v, g, .blocked a) (v, { i with guest := g }, .blocked { c with activity := a })
  /-- The payload is copied to its place, and the entrypoint is run. -/
  | entered {v : World σ} {g : Guest} {result : Activity.Result} {ptr : UInt32} {m : Wasm.Memory}
      (hentered : c.entered = false)
      (hplace : Allocation.place (g.memory (i.body.memory?.getD 0)) result c.payload =
        .ok (ptr, m)) :
      Proceeds i c (v, g, .ended result)
        (v, (enter v { i with guest := g.withMemory (i.body.memory?.getD 0) m } c ptr).1,
          .busy (enter v { i with guest := g.withMemory (i.body.memory?.getD 0) m } c ptr).2)
  | concluded {v : World σ} {g : Guest} {s : Standing Activity Activity.Result} {broken : Bool}
      {outcome : Result} (h : Concludes i c v g s broken outcome) :
      Proceeds i c (v, g, s) (conclude v { i with guest := g } c.fuelBefore broken outcome)

theorem proceeds (rounds : Nat) (w : World σ) (i : Instance) (c : Call) :
    Proceeds i c (Activity.proceed i.body rounds w i.guest c.activity) (proceed rounds w i c) := by
  unfold proceed
  dsimp only
  generalize Activity.proceed i.body rounds w i.guest c.activity = run
  obtain ⟨v, g, s⟩ := run
  cases s with
  | busy a => exact .busy
  | blocked a =>
    dsimp only
    split
    · exact .concluded (.interrupted ‹_›)
    · exact .waiting ‹_›
  | ended result =>
    dsimp only [continue?]
    split
    · split
      · exact .concluded (.answered ‹_›)
      · exact .concluded (.stopped ‹_›)
    · rename_i hentered
      have hentered : c.entered = false := Bool.eq_false_iff.mpr hentered
      split
      · exact .concluded (.unplaced hentered ‹_›)
      · exact .entered hentered ‹_›

end Call

/-! ## Resets -/

namespace Reset

/-- The guest that is to tidy up: its fuel account is full, and its deadline is set. -/
def prepared (w : World σ) (i : Instance) : Guest :=
  let g := i.guest.refuel i.body.execution.budget
  if w.engine.epochInterruption then g.arm (w.deadlineFor i.body.execution.timeoutMs.toNat) else g

/-- **How a reset begins.** -/
inductive Begins (w : World σ) (i : Instance) : World σ × Instance × Standing Reset Result → Prop
  /-- The instance is faulted. -/
  | refused (hfault : i.isFaulted = true) :
      Begins w i (w, i, .ended (.error Instance.faultedError))
  /-- Its memory is too large. -/
  | grown {reason : String} (hfit : i.isFaulted = false)
      (hsize : i.body.execution.maxMemoryBytes < i.memory.size) :
      Begins w i (fail w i (.memoryFault reason))
  /-- The guest has nothing to tidy up with. -/
  | done (hfit : i.isFaulted = false) (hsize : i.memory.size ≤ i.body.execution.maxMemoryBytes)
      (hreset : i.body.function? "reset" Body.actionType = none) :
      Begins w i
        (w, { i with guest := i.guest.refuel i.body.execution.budget }, .ended (.ok ()))
  /-- The guest tidies up. -/
  | started {func : Nat} (hfit : i.isFaulted = false)
      (hsize : i.memory.size ≤ i.body.execution.maxMemoryBytes)
      (hreset : i.body.function? "reset" Body.actionType = some func) :
      Begins w i
        (w, { i with guest := (Activity.start i.body w (prepared w i) func []).1 },
          .busy ⟨(Activity.start i.body w (prepared w i) func []).2⟩)

theorem begins (w : World σ) (i : Instance) : Begins w i (begin w i) := by
  unfold begin
  dsimp only
  split
  · exact .refused ‹_›
  · rename_i hfault
    have hfit : i.isFaulted = false := Bool.eq_false_iff.mpr hfault
    split
    · exact .grown hfit ‹_›
    · rename_i hsize
      have hsize := Nat.le_of_not_lt hsize
      split
      · exact .done hfit hsize ‹_›
      · exact .started hfit hsize ‹_›

/-- **What a turn of a reset comes to** when its guest was run. -/
inductive Proceeds (i : Instance) :
    World σ × Guest × Standing Activity Activity.Result →
      World σ × Instance × Standing Reset Result → Prop
  | busy {v : World σ} {g : Guest} {a : Activity} :
      Proceeds i (v, g, .busy a) (v, { i with guest := g }, .busy ⟨a⟩)
  | waiting {v : World σ} {g : Guest} {a : Activity} :
      Proceeds i (v, g, .blocked a) (v, { i with guest := g }, .blocked ⟨a⟩)
  | done {v : World σ} {g : Guest} {results : List Wasm.Word} :
      Proceeds i (v, g, .ended (.ok results))
        (v, { i with guest := g.refuel i.body.execution.budget }, .ended (.ok ()))
  | stopped {v : World σ} {g : Guest} {stop : Stop} :
      Proceeds i (v, g, .ended (.error stop))
        (fail v { i with guest := g } (stop.error i.body.execution.timeoutMs.toNat))

theorem proceeds (rounds : Nat) (w : World σ) (i : Instance) (r : Reset) :
    Proceeds i (Activity.proceed i.body rounds w i.guest r.activity) (proceed rounds w i r) := by
  unfold proceed
  generalize Activity.proceed i.body rounds w i.guest r.activity = run
  obtain ⟨v, g, s⟩ := run
  match s with
  | .busy a => exact .busy
  | .blocked a => exact .waiting
  | .ended (.ok results) => exact .done
  | .ended (.error stop) => exact .stopped

end Reset

/-! ## Making instances -/

namespace Birth

/-- **What comes of furnishing an instance.** -/
inductive Furnishes (w : World σ) (b : Blueprint) :
    World σ × Except String (Body × Guest) → Prop
  /-- Something that it imports is missing. -/
  | unlinked {reason : String} (hlink : b.linker.link b.program.module = .error reason) :
      Furnishes w b (w, .error reason)
  /-- There is no room. -/
  | crowded {limit : Nat} {reason : String} (htake : w.takeSlot = .error limit) :
      Furnishes w b (w, .error reason)
  /-- It cannot be set up in the room that was taken for it. -/
  | unfit {v : World σ} {fault : Wasm.SetupFault} (htake : w.takeSlot = .ok v)
      (hsetup : b.program.setup (ceilings v b.execution) = .error fault) :
      Furnishes w b (v.freeSlot, .error fault.message)
  | furnished {imports : Array HostFunction} {v : World σ} {store : Wasm.Store}
      (hlink : b.linker.link b.program.module = .ok imports) (htake : w.takeSlot = .ok v)
      (hsetup : b.program.setup (ceilings v b.execution) = .ok store) :
      Furnishes w b
        (v, .ok ({ name := b.name, program := b.program, imports := imports
                   execution := b.execution }, { store := store }))

theorem furnishes (w : World σ) (b : Blueprint) : Furnishes w b (furnish w b) := by
  unfold furnish
  split
  · exact .unlinked ‹_›
  · rename_i imports hlink
    split
    · exact .crowded ‹_›
    · rename_i v htake
      split
      · exact .unfit htake ‹_›
      · exact .furnished hlink htake ‹_›

/-- **How the making of an instance begins.** -/
inductive Begins (w : World σ) (b : Blueprint) (id : Nat) : World σ × Standing Birth Result → Prop
  | unfurnished {v : World σ} {reason : String} (h : Furnishes w b (v, .error reason)) :
      Begins w b id (v, .ended (.error (.instantiationFailed reason)))
  /-- There is no start function. -/
  | startless {v : World σ} {x : Body} {g : Guest} (h : Furnishes w b (v, .ok (x, g)))
      (hstart : b.program.module.start = none) : Begins w b id (afterStart v id x g)
  /-- The start function is run. -/
  | starting {v : World σ} {x : Body} {g : Guest} {func : Nat}
      (h : Furnishes w b (v, .ok (x, g))) (hstart : b.program.module.start = some func) :
      Begins w b id
        (v, .busy { id := id, body := x, guest := (Activity.start x v g func []).1
                    initializing := false, activity := (Activity.start x v g func []).2 })

theorem begins (w : World σ) (b : Blueprint) (id : Nat) : Begins w b id (begin w b id) := by
  have hfurnishes := furnishes w b
  unfold begin
  generalize furnish w b = made at hfurnishes
  match made with
  | (v, .error reason) => exact .unfurnished hfurnishes
  | (v, .ok (x, g)) =>
    dsimp only
    split
    · exact .startless hfurnishes ‹_›
    · exact .starting hfurnishes ‹_›

/-- **What a turn of the making of an instance comes to** when its guest was run. -/
inductive Proceeds (x : Birth) :
    World σ × Guest × Standing Activity Activity.Result →
      World σ × Standing Birth Result → Prop
  | busy {v : World σ} {g : Guest} {a : Activity} :
      Proceeds x (v, g, .busy a) (v, .busy { x with guest := g, activity := a })
  | waiting {v : World σ} {g : Guest} {a : Activity} :
      Proceeds x (v, g, .blocked a) (v, .blocked { x with guest := g, activity := a })
  /-- The start function is over. -/
  | started {v : World σ} {g : Guest} {results : List Wasm.Word}
      (hstart : x.initializing = false) :
      Proceeds x (v, g, .ended (.ok results)) (afterStart v x.id x.body g)
  /-- The guest has initialized itself. -/
  | initialized {v : World σ} {g : Guest} {results : List Wasm.Word}
      (hinit : x.initializing = true) :
      Proceeds x (v, g, .ended (.ok results))
        (ready v x.id x.body (g.refuel x.body.execution.budget))
  | abandoned {v : World σ} {g : Guest} {stop : Stop} {reason : String} :
      Proceeds x (v, g, .ended (.error stop)) (abandon v reason)

theorem proceeds (rounds : Nat) (w : World σ) (x : Birth) :
    Proceeds x (Activity.proceed x.body rounds w x.guest x.activity) (proceed rounds w x) := by
  unfold proceed
  generalize Activity.proceed x.body rounds w x.guest x.activity = run
  obtain ⟨v, g, s⟩ := run
  cases s with
  | busy a => exact .busy
  | blocked a => exact .waiting
  | ended result =>
    dsimp only
    split
    · exact .started ‹_›
    · exact .initialized ‹_›
    · exact .abandoned
    · exact .abandoned

end Birth
end FunctionHost

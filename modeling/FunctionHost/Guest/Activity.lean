import FunctionHost.Guest.HostCall
import FunctionHost.Standing
/-!
# A guest at work

One function of a guest, run from outside until it returns, is stopped, or waits for the host.  It
waits when it has made a host call whose answer is not there yet.  To place an answer the host runs
the guest's allocator, during which the thread that made the call waits, and the allocator may make
host calls itself; so there is a stack of waiting threads.

`proceed` takes an `Activity` as far as it goes in a number of rounds.  A round is a stretch of
guest code or one act of the host.
-/
namespace FunctionHost

open Wasm (Thread Trap Word Machine.start Machine.run Machine.resume)

/-- Where a guest thread stands. -/
inductive Turn where
  /-- It goes on. -/
  | running (t : Thread)
  /-- It has returned; the last result comes first. -/
  | returned (results : List Word)
  /-- It was stopped. -/
  | stopped (cause : Stop)
  /-- It calls an imported function. -/
  | calling (t : Thread) (func : Nat) (args : List Word)
  deriving Inhabited

/-- The state of the store and where the thread stands. -/
def Turn.ofProgress : Wasm.Progress → Wasm.Store × Turn
  | .running s t => (s, .running t)
  | .finished s results => (s, .returned results)
  | .trapped s trap => (s, .stopped (.trap trap))
  | .calling s t func args => (s, .calling t func args)

/-- What is to be placed in a guest's memory: the result of a host call or an error document. -/
structure Delivery where
  /-- The bytes. -/
  bytes : Bytes
  /-- Whether they tell of an error. -/
  failed : Bool
  deriving Inhabited

namespace Delivery

/-- The packed word that names the delivered bytes. -/
def word (d : Delivery) (ptr : UInt32) : Word :=
  let len := UInt32.ofNat d.bytes.size
  if d.failed then Packed.encodeError ptr len else (Packed.encode ptr len).getD Packed.failure

end Delivery

/-- A host call whose answer the guest waits for. -/
structure PendingCall where
  /-- The request on whose behalf it was made. -/
  context : Context
  /-- What was asked. -/
  request : HostRequest
  /-- The name of the guest's allocator. -/
  allocator : String
  /-- The answer. -/
  reply : Reply
  /-- The instant from which on the answer is there. -/
  due : Nat
  deriving Inhabited

/-- What happens next. -/
inductive Focus where
  /-- A thread of the guest has its turn. -/
  | acting (turn : Turn)
  /-- A thread waits for the answer to a host call. -/
  | awaiting (t : Thread) (call : PendingCall)
  deriving Inhabited

/-- **A function of a guest being run.** -/
structure Activity where
  /-- What happens next. -/
  focus : Focus
  /-- Threads that wait for their answer to be placed, the innermost first. -/
  outer : List (Thread × Delivery) := []
  deriving Inhabited

/-- What comes of an activity: the results of the function, the last one first, or why it was
stopped. -/
abbrev Activity.Result := Except Stop (List Word)

namespace Activity

/-- Instructions in one stretch of guest code. -/
def stretch : Nat := 4096

variable {σ : Type}

/-- Runs a function of the guest from outside. -/
def start (b : Body) (w : World σ) (g : Guest) (func : Nat) (args : List Word) :
    Guest × Activity :=
  let (s, turn) := Turn.ofProgress (Machine.start b.program w.epoch g.store func args)
  ({ g with store := s }, { focus := .acting turn })

/-- A thread that has its turn again, with the answer to its call. -/
def answered (g : Guest) (t : Thread) (results : List Word) : Focus :=
  .acting (.running (Machine.resume g.store t results))

/-- The guest and its thread after an answer could not be placed. -/
def unplaced (w : World σ) (g : Guest) (t : Thread) (e : HostError) : World σ × Guest × Focus :=
  let g := g.poison ("host call result copy failed: " ++ e.message)
  (w.report (HostCall.notPlaced e), g, answered g t [Packed.failure])

/-- **Delivering**: an empty result needs no room, anything else is placed where the guest's
allocator says, which is run for that. -/
def deliver (b : Body) (w : World σ) (g : Guest) (allocator : String) (t : Thread) (d : Delivery)
    (outer : List (Thread × Delivery)) : World σ × Guest × Activity :=
  if d.failed && d.bytes.size == 0 then (w, g, ⟨answered g t [Packed.failure], outer⟩)
  else
    match b.function? allocator Body.allocatorType with
    | none =>
      (w.report (HostCall.noAllocator allocator), g, ⟨answered g t [Packed.failure], outer⟩)
    | some func =>
      if d.bytes.size = 0 then (w, g, ⟨answered g t [d.word 0], outer⟩)
      else if Allocation.maxLength < d.bytes.size then
        let (w, g, focus) := unplaced w g t (Allocation.tooLong d.bytes.size)
        (w, g, ⟨focus, outer⟩)
      else
        let (g, a) := start b w g func [UInt64.ofNat d.bytes.size]
        (w, g, ⟨a.focus, (t, d) :: outer⟩)

/-- Placing a delivery where the allocator said, if it said so. -/
def placed (b : Body) (w : World σ) (g : Guest) (result : Except Stop (List Word)) (t : Thread)
    (d : Delivery) : World σ × Guest × Focus :=
  let index := b.memory?.getD 0
  match Allocation.place (g.memory index) result d.bytes with
  | .error e => unplaced w g t e
  | .ok (ptr, m) =>
    let g := g.withMemory index m
    (w, g, answered g t [d.word ptr])

/-- What a reply puts into the guest's memory. -/
def delivery (r : HostRequest) : Reply → Delivery
  | .ok bytes => ⟨bytes, false⟩
  | .error e => ⟨HostCall.document r.space r.operation e, true⟩

/-- The end of a host call: it is reported and its outcome delivered. -/
def complete (b : Body) (w : World σ) (g : Guest) (t : Thread) (call : PendingCall) (reply : Reply)
    (outer : List (Thread × Delivery)) : World σ × Guest × Activity :=
  let w := w.report (HostCall.completed call.context call.request reply)
  deliver b w g call.allocator t (delivery call.request reply) outer

/-- The context of a host call: that of the request being served, or one of its own. -/
def contextOf (b : Body) (w : World σ) (g : Guest) : World σ × Context :=
  match g.context with
  | some c => (w, c)
  | none =>
    let (w, c) := w.freshContext
    (w, c.serving b.name "_initialize")

/-- **A host call**: its arguments are checked; if its context is open the callback is asked. -/
def hostCall (b : Body) (w : World σ) (g : Guest) (allocator : String) (t : Thread)
    (args : List Word) (outer : List (Thread × Delivery)) : World σ × Guest × Activity :=
  let g := g.recordHostCall
  match b.memory?, HostCall.pairs? args with
  | some index, some (space, operation, key, payload) =>
    match HostCall.read (g.memory index) space operation key payload with
    | .error (.callback e) =>
      deliver b w g allocator t ⟨HostCall.document "" "" e, true⟩ outer
    | .error e => (w.report (HostCall.rejected e), g, ⟨answered g t [Packed.failure], outer⟩)
    | .ok request =>
      let (w, c) := contextOf b w g
      match c.interruption w.clock with
      | some why =>
        let reply := .error (HostCall.interrupted why)
        complete b w g t ⟨c, request, allocator, reply, w.clock.now⟩ reply outer
      | none =>
        let (w, answer) := w.ask c request
        let due := w.clock.now + answer.delay
        (w, g, ⟨.awaiting t ⟨c, request, allocator, answer.reply, due⟩, outer⟩)
  | _, _ => (w.report HostCall.noMemory, g, ⟨answered g t [Packed.failure], outer⟩)

/-- A call of a function of the system interface. -/
def systemCall (b : Body) (w : World σ) (g : Guest) (name : String) (t : Thread)
    (args : List Word) (outer : List (Thread × Delivery)) : World σ × Guest × Activity :=
  match b.memory? with
  | none => (w, g, ⟨.acting (.stopped (.refused "missing required memory export")), outer⟩)
  | some index =>
    match Wasi.call name args (g.memory index) with
    | .answer m error =>
      let g := g.withMemory index m
      (w, g, ⟨answered g t [error], outer⟩)
    | .print m stream bytes =>
      let w :=
        if !b.execution.inheritStdio then w
        else if stream = 1 then { w with output := w.output ++ bytes }
        else { w with errors := w.errors ++ bytes }
      let g := g.withMemory index m
      (w, g, ⟨answered g t [0], outer⟩)
    | .exit status => (w, g, ⟨.acting (.stopped (.exited status)), outer⟩)
    | .refuse reason => (w, g, ⟨.acting (.stopped (.refused reason)), outer⟩)

/-- A call of an imported function. -/
def imported (b : Body) (w : World σ) (g : Guest) (t : Thread) (func : Nat) (args : List Word)
    (outer : List (Thread × Delivery)) : World σ × Guest × Activity :=
  match b.imports[func]? with
  | some (.hostCall allocator) => hostCall b w g allocator t args outer
  | some (.wasi name) => systemCall b w g name t args outer
  | none => (w, g, ⟨.acting (.stopped (.trap .unreachableCodeReached)), outer⟩)

/-- A stretch of guest code. -/
def runStretch (b : Body) (w : World σ) (g : Guest) (t : Thread) : Guest × Turn :=
  let s := g.store
  let g := { g with store := default }
  let (s, turn) := Turn.ofProgress (Machine.run b.program w.epoch stretch s t)
  ({ g with store := s }, turn)

/-- The end of a thread: of the activity, or of an allocator that was run for a waiting thread. -/
def settle (b : Body) (w : World σ) (g : Guest) (result : Except Stop (List Word)) :
    List (Thread × Delivery) → World σ × Guest × Standing Activity Result
  | [] => (w, g, .ended result)
  | (t, d) :: outer =>
    let (w, g, focus) := placed b w g result t d
    (w, g, .busy ⟨focus, outer⟩)

/-- One round: the activity goes on, or how it stands. -/
def round (b : Body) (w : World σ) (g : Guest) (a : Activity) :
    World σ × Guest × Standing Activity Result :=
  match a.focus with
  | .acting (.running t) =>
    let (g, turn) := runStretch b w g t
    (w, g, .busy ⟨.acting turn, a.outer⟩)
  | .acting (.calling t func args) =>
    let (w, g, a) := imported b w g t func args a.outer
    (w, g, .busy a)
  | .acting (.returned results) => settle b w g (.ok results) a.outer
  | .acting (.stopped cause) => settle b w g (.error cause) a.outer
  | .awaiting t call =>
    let work := if call.due ≤ w.clock.now then some call.reply else none
    match call.context.guard w.clock work with
    | none => (w, g, .blocked a)
    | some (.ok reply) =>
      let (w, g, a) := complete b w g t call reply a.outer
      (w, g, .busy a)
    | some (.error why) =>
      let (w, g, a) := complete b w g t call (.error (HostCall.interrupted why)) a.outer
      (w, g, .busy a)

/-- **As far as an activity goes** in a number of rounds. -/
def proceed (b : Body) :
    Nat → World σ → Guest → Activity → World σ × Guest × Standing Activity Result
  | 0, w, g, a => (w, g, .busy a)
  | rounds + 1, w, g, a =>
    match round b w g a with
    | (w, g, .busy a) => proceed b rounds w g a
    | outcome => outcome

/-- The instant at which a blocked activity can go on, if time alone brings it; another activity
could go on now. -/
def wakeup (c : Clock) (a : Activity) : Option Nat :=
  match a.focus with
  | .acting _ => some c.now
  | .awaiting _ call => call.context.wakeup c (some call.due)

end Activity
end FunctionHost

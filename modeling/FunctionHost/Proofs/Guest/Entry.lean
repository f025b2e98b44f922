import FunctionHost.Proofs.Guest.Bodies
import FunctionHost.Proofs.Guest.Ending
import FunctionHost.Proofs.Guest.Running

/-!
# What a call does

A call has up to two phases.  Unless its payload is empty, the guest's allocator is run for a place,
and the payload is copied there; then the entrypoint is run on what is in memory.  Each phase takes
as many turns as it needs, in worlds that others may have changed in between (`Activity.Runs`).

While the context is open, and if both return normally, the call does what it should
(`Call.entered_and_answered`): the entrypoint is entered with the place and the length of the
payload, on a memory in which nothing but the payload has changed; and what the caller gets is what
the word that the entrypoint answers says of the memory that it leaves.  Without a place for the
payload the entrypoint is not entered.
-/
namespace FunctionHost

open Wasm (Word)

variable {σ : Type}

/-! ## Guests with bytes in place -/

/-- **Whether a guest is another one with some bytes in place**: they are in the memory that host
and guest share, from an address on, and nothing else has changed. -/
structure Guest.Loaded (b : Body) (g : Guest) (address : Nat) (bytes : Bytes) (g' : Guest) :
    Prop where
  rest : ∃ m, g' = g.withMemory (b.memory?.getD 0) m
  size : (g'.shared b).size = (g.shared b).size
  shown : (g'.shared b).region address bytes.size = bytes
  frame : ∀ k, ¬ (address ≤ k ∧ k < address + bytes.size) →
    (g'.shared b).byte k = (g.shared b).byte k

/-- Bytes that are copied into the shared memory are in place there. -/
theorem Guest.loaded_blit {b : Body} {g : Guest} (h : (g.shared b).size ≠ 0) (address : Nat)
    (bytes : Bytes) :
    g.Loaded b address bytes
      (g.withMemory (b.memory?.getD 0) ((g.shared b).blit address bytes)) := by
  have hshared : (g.withMemory (b.memory?.getD 0) ((g.shared b).blit address bytes)).shared b =
      (g.shared b).blit address bytes := Guest.memory_withMemory h _
  refine ⟨⟨_, rfl⟩, ?_, ?_, fun k hk => ?_⟩ <;> rw [hshared]
  · exact Wasm.Memory.size_blit ..
  · exact Wasm.Memory.region_blit ..
  · rw [Wasm.Memory.byte_blit, if_neg hk]

/-! ## Runs of functions -/

/-- **A function of a guest run to its end**, a turn of some rounds in each of some worlds; the last
of them leaves a world. -/
inductive Activity.Runs (b : Body) (rounds : Nat) :
    List (World σ) → Guest → Activity → World σ → Guest → Activity.Result → Prop where
  /-- The last turn. -/
  | last {w u : World σ} {g g' : Guest} {a : Activity} {result : Activity.Result}
      (h : Activity.proceed b rounds w g a = (u, g', .ended result)) :
      Runs b rounds [w] g a u g' result
  /-- A turn that others follow. -/
  | next {w v u : World σ} {ws : List (World σ)} {g g' g'' : Guest} {a a' : Activity}
      {s : Standing Activity Activity.Result} {result : Activity.Result}
      (h : Activity.proceed b rounds w g a = (v, g', s)) (hs : s.work? = some a')
      (hrest : Runs b rounds ws g' a' u g'' result) : Runs b rounds (w :: ws) g a u g'' result

namespace Call

open Activity (Runs)
open Packed (Fits)

variable {rounds : Nat} {w u : World σ} {ws : List (World σ)} {i : Instance} {x : Call}
  {g g' : Guest} {a : Activity} {s : Standing Call Result} {result : Activity.Result}

/-- A turn of a call whose function goes on, in a world in which its context is open. -/
theorem further_of_work? {v : World σ} {standing : Standing Activity Activity.Result}
    {a' : Activity} (hs : s.work? = some { x with activity := a })
    (h : Activity.proceed i.body rounds w g a = (v, g', standing))
    (hstanding : standing.work? = some a') (hopen : x.context.interruption w.clock = none) :
    ∃ s', s'.work? = some { x with activity := a' } ∧
      further rounds ({ i with guest := g }, s) w = ({ i with guest := g' }, s') := by
  have hclock : v.clock = w.clock := by
    have hlasts := (Activity.proceed_frame i.body w g rounds a).lasts
    rw [h] at hlasts
    exact hlasts.clock
  have hopen : x.context.interruption v.clock = none := hclock ▸ hopen
  simp only [further, hs, proceed, h]
  cases standing with
  | busy a'' =>
    obtain rfl : a'' = a' := Option.some.inj hstanding
    exact ⟨.busy { x with activity := a'' }, rfl, rfl⟩
  | blocked a'' =>
    obtain rfl : a'' = a' := Option.some.inj hstanding
    simp only [hopen]
    exact ⟨.blocked { x with activity := a'' }, rfl, rfl⟩
  | ended result => cases hstanding

/-- What follows the end of a function does not depend on how it was run. -/
theorem continue?_activity (w : World σ) (i : Instance) (x : Call) (a : Activity)
    (result : Activity.Result) :
    continue? w i { x with activity := a } result = continue? w i x result := by
  unfold continue? enter
  rfl

/-- **The turns of a call while a function is run for it.** -/
theorem foldl_of_runs (h : Runs i.body rounds ws g a u g' result) (hopen : x.Open ws)
    (hs : s.work? = some { x with activity := a }) :
    ws.foldl (further rounds) ({ i with guest := g }, s) =
      (continue? u { i with guest := g' } x result).2 := by
  induction h generalizing s with
  | @last w u g g' a result h =>
    show further rounds ({ i with guest := g }, s) w = _
    simp only [further, hs, proceed, h, continue?_activity]
  | @next w v u ws g g' g'' a a' standing result h hstanding _ ih =>
    obtain ⟨s', hs', hfurther⟩ := further_of_work? hs h hstanding (hopen w List.mem_cons_self)
    rw [List.foldl_cons, hfurther]
    exact ih (fun v hv => hopen v (List.mem_cons_of_mem _ hv)) hs'

/-- While a function is run for a call, the call goes on as it is. -/
theorem work?_of_prefix (h : Runs i.body rounds ws g a u g' result) (hopen : x.Open ws)
    (hs : s.work? = some { x with activity := a }) {vs : List (World σ)} (hvs : vs <+: ws)
    (hne : vs ≠ ws) :
    ∃ a', (vs.foldl (further rounds) ({ i with guest := g }, s)).2.work? =
      some { x with activity := a' } := by
  induction h generalizing s vs with
  | @last w u g g' a result h =>
    cases vs with
    | nil => exact ⟨a, hs⟩
    | cons v vs =>
      obtain ⟨rfl, hnil⟩ := List.cons_prefix_cons.mp hvs
      obtain rfl := List.prefix_nil.mp hnil
      exact absurd rfl hne
  | @next w v u ws g g' g'' a a' standing result h hstanding _ ih =>
    cases vs with
    | nil => exact ⟨a, hs⟩
    | cons v' vs =>
      obtain ⟨rfl, hrest⟩ := List.cons_prefix_cons.mp hvs
      obtain ⟨s', hs', hfurther⟩ := further_of_work? hs h hstanding (hopen _ List.mem_cons_self)
      rw [List.foldl_cons, hfurther]
      exact ih (fun v hv => hopen v (List.mem_cons_of_mem _ hv)) hs' hrest
        fun h => hne (congrArg _ h)

/-! ## Beginning -/

/-- Preparing a guest leaves its memories alone. -/
theorem memories_prepared (w : World σ) (i : Instance) (c : Context) :
    (prepared w i c).store.memories = i.guest.store.memories := by
  unfold prepared
  dsimp only
  split <;> rfl

/-- **Where an entrypoint has just been entered**, in some world, on some guest and with some
arguments, for a request. -/
structure Enters (w : World σ) (i : Instance) (c : Context) (func : Nat) (g : Guest)
    (args : List Word) (s : Instance × Standing Call Result) : Prop where
  guest : s.1 = { i with guest := (Activity.start i.body w g func args).1 }
  call : ∃ x : Call, s.2 = .busy x ∧ x.context = c ∧ x.entered = true ∧
    x.activity = (Activity.start i.body w g func args).2

variable {c : Context} {entrypoint : String} {payload : Bytes} {func find : Nat}

/-- **Whether a request can be served**: its context is open, and the instance has no fault, but the
entrypoint and an allocator. -/
structure Serves (w : World σ) (i : Instance) (c : Context) (entrypoint : String)
    (func find : Nat) : Prop where
  fit : i.isFaulted = false
  entry : i.body.function? entrypoint Body.entrypointType = some func
  allocator : i.body.function? i.body.execution.allocateExport Body.allocatorType = some find
  isOpen : c.interruption w.clock = none

/-- What is done when a request is served. -/
theorem Serves.begin (h : Serves w i c entrypoint func find) (payload : Bytes) :
    begin w i c entrypoint payload =
      if payload.size = 0 then
        let entered := enter w { i with guest := prepared w i c } (fresh w i c func payload) 0
        (w, entered.1, .busy entered.2)
      else if Allocation.maxLength < payload.size then
        conclude w { i with guest := prepared w i c } (prepared w i c).store.fuel.remaining true
          (.error (Allocation.tooLong payload.size))
      else
        let started :=
          Activity.start i.body w (prepared w i c) find [UInt64.ofNat payload.size]
        (w, { i with guest := started.1 },
          .busy { fresh w i c func payload with activity := started.2 }) := by
  unfold Call.begin
  simp only [h.fit, Bool.false_eq_true, if_false, h.entry, h.isOpen, h.allocator]
  rfl

/-! ## The way to the entrypoint -/

/-- **Whether a call has failed for want of a place** for its payload: its instance is faulted, and
it never came to the entrypoint. -/
structure Misplaced (course : List (World σ) → Instance × Standing Call Result)
    (ws : List (World σ)) : Prop where
  ended : ∃ reason, (course ws).2 = .ended (.error (.memoryFault reason))
  faulted : (course ws).1.isFaulted = true
  apart : ∀ vs, vs <+: ws → ∀ x, (course vs).2.work? = some x → x.entered = false

theorem enters_enter (w : World σ) (i : Instance) (x : Call) (g : Guest) (ptr : UInt32) :
    Enters w i x.context x.func g [ptr.toUInt64, .ofNat x.payload.size]
      ((enter w { i with guest := g } x ptr).1, .busy (enter w { i with guest := g } x ptr).2) :=
  ⟨rfl, _, rfl, rfl, rfl, rfl⟩

/-- **An allocator that found a place** has the payload copied there, and the entrypoint entered. -/
theorem continue?_of_room (hentered : x.entered = false) (hsize : x.payload.size ≠ 0)
    {ptr : UInt32} (hroom : Allocation.Room (g.shared i.body) x.payload.size result ptr) :
    ∃ g', g.Loaded i.body ptr.toNat x.payload g' ∧
      Enters w i x.context x.func g' [ptr.toUInt64, .ofNat x.payload.size]
        (continue? w { i with guest := g } x result).2 := by
  have hmemory : (g.shared i.body).size ≠ 0 := by
    obtain ⟨-, -, -, -, hfits⟩ := hroom
    omega
  have hplace : Allocation.place ({ i with guest := g } : Instance).memory result x.payload = _ :=
    Allocation.place_of_room hroom
  refine ⟨_, Guest.loaded_blit hmemory ptr.toNat x.payload, ?_⟩
  unfold continue?
  simp only [hentered, Bool.false_eq_true, if_false, hplace]
  exact enters_enter w i x _ ptr

/-- **An allocator that found no place** ends the call. -/
theorem continue?_of_not_room {results : List Word} (hentered : x.entered = false)
    (hnone : ∀ ptr, ¬ Allocation.Room (g.shared i.body) x.payload.size (.ok results) ptr) :
    (∃ reason, (continue? w { i with guest := g } x (.ok results)).2.2 =
        .ended (.error (.memoryFault reason))) ∧
      (continue? w { i with guest := g } x (.ok results)).2.1.isFaulted = true := by
  obtain ⟨e, he⟩ := Allocation.place_of_not_room hnone
  obtain ⟨reason, rfl⟩ := Allocation.isMemoryFault_place he
  have hplace : Allocation.place ({ i with guest := g } : Instance).memory (.ok results)
      x.payload = _ := he
  have hconclude : continue? w { i with guest := g } x (.ok results) =
      conclude w { i with guest := g } x.fuelBefore true (.error (.memoryFault reason)) := by
    unfold continue?
    simp only [hentered, Bool.false_eq_true, if_false, hplace]
  rw [hconclude]
  refine ⟨⟨reason, conclude_ended ..⟩, ?_⟩
  rw [conclude_isFaulted, Bool.true_or, Bool.true_or, Bool.or_true]

/-- Without a payload the entrypoint is entered at once. -/
theorem Serves.empty (h : Serves w i c entrypoint func find) (hempty : payload.size = 0) :
    Enters w i c func (prepared w i c) [0, 0] (course rounds i c entrypoint payload w []) := by
  have henters := enters_enter w i (fresh w i c func payload) (prepared w i c) 0
  have hargs : [(0 : UInt32).toUInt64, .ofNat (fresh w i c func payload).payload.size] =
      ([0, 0] : List Word) := by
    show [(0 : UInt32).toUInt64, UInt64.ofNat payload.size] = [0, 0]
    rw [hempty]
    rfl
  rw [hargs] at henters
  show Enters w i c func (prepared w i c) [0, 0] (Call.begin w i c entrypoint payload).2
  rw [h.begin, if_pos hempty]
  exact henters

/-- A payload that is too long ends the call at once. -/
theorem Serves.long (h : Serves w i c entrypoint func find) (hlong : 0x80000000 ≤ payload.size)
    (rounds : Nat) :
    Misplaced (course rounds i c entrypoint payload w) [] := by
  have hmax : Allocation.maxLength < payload.size := by
    show 2147483647 < payload.size
    omega
  have hbegin : course rounds i c entrypoint payload w [] =
      (conclude w { i with guest := prepared w i c } (prepared w i c).store.fuel.remaining true
        (.error (Allocation.tooLong payload.size))).2 := by
    show (Call.begin w i c entrypoint payload).2 = _
    rw [h.begin, if_neg (by omega), if_pos hmax]
  refine ⟨⟨_, hbegin ▸ conclude_ended ..⟩, ?_, fun vs hvs x hx => ?_⟩
  · rw [hbegin, conclude_isFaulted, Bool.true_or, Bool.true_or, Bool.or_true]
  · obtain rfl := List.prefix_nil.mp hvs
    rw [hbegin] at hx
    cases hx

/-- **What becomes of a payload** that an allocator was run for, which was not stopped. -/
theorem Serves.allocated (h : Serves w i c entrypoint func find) {results : List Word}
    (hsize : payload.size ≠ 0) (hlt : payload.size < 0x80000000)
    (hws : ∀ v ∈ ws, c.interruption v.clock = none)
    (hruns : Runs i.body rounds ws
      (Activity.start i.body w (prepared w i c) find [.ofNat payload.size]).1
      (Activity.start i.body w (prepared w i c) find [.ofNat payload.size]).2 u g (.ok results)) :
    (∀ ptr, Allocation.Room (g.shared i.body) payload.size (.ok results) ptr →
      ∃ g', g.Loaded i.body ptr.toNat payload g' ∧
        Enters u i c func g' [ptr.toUInt64, .ofNat payload.size]
          (course rounds i c entrypoint payload w ws)) ∧
    ((∀ ptr, ¬ Allocation.Room (g.shared i.body) payload.size (.ok results) ptr) →
      Misplaced (course rounds i c entrypoint payload w) ws) := by
  have hmax : ¬ Allocation.maxLength < payload.size := by
    show ¬ 2147483647 < payload.size
    omega
  have hbegin := h.begin payload
  rw [if_neg hsize, if_neg hmax] at hbegin
  have hcourse : course rounds i c entrypoint payload w ws =
      (continue? u { i with guest := g } (fresh w i c func payload) (.ok results)).2 := by
    rw [course, hbegin]
    exact foldl_of_runs (x := fresh w i c func payload) hruns hws rfl
  refine ⟨fun ptr hroom => ?_, fun hnone => ?_⟩
  · rw [hcourse]
    exact continue?_of_room (x := fresh w i c func payload) rfl hsize hroom
  · obtain ⟨hended, hfaulted⟩ :=
      continue?_of_not_room (w := u) (x := fresh w i c func payload) rfl hnone
    rw [← hcourse] at hended hfaulted
    refine ⟨hended, hfaulted, fun vs hvs x hx => ?_⟩
    -- At the end the call is over; before, it is the allocator that runs for it.
    by_cases hall : vs = ws
    · subst hall
      obtain ⟨reason, hended⟩ := hended
      rw [hended] at hx
      cases hx
    · obtain ⟨a', ha'⟩ := work?_of_prefix (x := fresh w i c func payload)
        (s := .busy { fresh w i c func payload with activity :=
          (Activity.start i.body w (prepared w i c) find [.ofNat payload.size]).2 })
        hruns hws rfl hvs hall
      rw [course, hbegin] at hx
      obtain rfl := Option.some.inj (ha'.symm.trans hx)
      rfl

/-! ## The answer of the entrypoint -/

/-- **An entrypoint that returns** ends the call with what its word says of the memory that it
leaves. -/
theorem Enters.answers {args results : List Word} {rest : List (World σ)} {v : World σ}
    (h : Enters u i c func g args (course rounds i c entrypoint payload w ws))
    (hrest : ∀ v ∈ rest, c.interruption v.clock = none)
    (hruns : Runs i.body rounds rest (Activity.start i.body u g func args).1
      (Activity.start i.body u g func args).2 v g' (.ok results)) :
    (course rounds i c entrypoint payload w (ws ++ rest)).2 =
      .ended (decode (g'.shared i.body) (results.head?.getD Packed.failure)) := by
  obtain ⟨hguest, x, hcall, rfl, hentered, hactivity⟩ := h
  have hcourse : course rounds i x.context entrypoint payload w ws =
      ({ i with guest := (Activity.start i.body u g func args).1 }, .busy x) :=
    Prod.ext hguest hcall
  have hall : course rounds i x.context entrypoint payload w (ws ++ rest) =
      rest.foldl (further rounds) (course rounds i x.context entrypoint payload w ws) :=
    List.foldl_append
  have hwork : (Standing.busy x : Standing Call Result).work? =
      some { x with activity := (Activity.start i.body u g func args).2 } := by
    rw [← hactivity]
    rfl
  rw [hall, hcourse, foldl_of_runs hruns hrest hwork]
  unfold continue?
  rw [if_pos hentered]
  exact conclude_ended ..

/-- **What a call does** on a healthy instance, for an entrypoint that is there and under a context
that stays open, however many turns the guest takes and whatever others do in between.

The guest's memories are untouched when the call begins.  An empty payload has the entrypoint
entered at once, with two zeros.  For any other the allocator is run with its length; when it
returns a place inside memory, the payload is copied there and nothing else is changed, and the
entrypoint is entered with the place and the length.  If the payload is longer than a signed length
can say, or the allocator returns null or a place outside memory, the entrypoint is not entered, the
call fails with a fault of memory, and the instance is faulted.

When the entrypoint returns, the call is over, and its result is the one that the returned word says
of the memory at that moment. -/
theorem entered_and_answered (hfit : i.isFaulted = false) (hsociable : i.body.Sociable)
    (hentry : i.body.function? entrypoint Body.entrypointType = some func)
    (hopen : c.interruption w.clock = none) :
    let call := course rounds i c entrypoint payload w
    (prepared w i c).store.memories = i.guest.store.memories ∧
    (payload.size = 0 → Enters w i c func (prepared w i c) [0, 0] (call [])) ∧
    (∃ find, i.body.function? i.body.execution.allocateExport Body.allocatorType = some find ∧
      ∀ ws (u : World σ) g results, payload.size ≠ 0 → payload.size < 0x80000000 →
        (∀ v ∈ ws, c.interruption v.clock = none) →
        Runs i.body rounds ws
          (Activity.start i.body w (prepared w i c) find [.ofNat payload.size]).1
          (Activity.start i.body w (prepared w i c) find [.ofNat payload.size]).2
          u g (.ok results) →
        let q := (results.head?.getD 0).toUInt32
        (q ≠ 0 ∧ q.toNat + payload.size ≤ (g.shared i.body).size →
          ∃ g', g.Loaded i.body q.toNat payload g' ∧
            Enters u i c func g' [q.toUInt64, .ofNat payload.size] (call ws)) ∧
        (q = 0 ∨ (g.shared i.body).size < q.toNat + payload.size → Misplaced call ws)) ∧
    (0x80000000 ≤ payload.size → Misplaced call []) ∧
    (∀ ws (u : World σ) g args, Enters u i c func g args (call ws) →
      ∀ rest (v : World σ) g' results, (∀ v ∈ rest, c.interruption v.clock = none) →
        Runs i.body rounds rest (Activity.start i.body u g func args).1
          (Activity.start i.body u g func args).2 v g' (.ok results) →
        ∃ r, (call (ws ++ rest)).2 = .ended r ∧
          ∀ r', Says (g'.shared i.body) (results.head?.getD Packed.failure) r' ↔ r' = r) := by
  intro call
  obtain ⟨find, hfind⟩ := hsociable.allocator
  have hserves : Serves w i c entrypoint func find := ⟨hfit, hentry, hfind, hopen⟩
  refine ⟨memories_prepared w i c, hserves.empty, ⟨find, hfind, ?_⟩, fun h => hserves.long h rounds,
    ?_⟩
  · intro ws u g results hsize hlt hws hruns q
    obtain ⟨hroom, hnone⟩ := hserves.allocated hsize hlt hws hruns
    refine ⟨fun ⟨hnull, hfits⟩ => hroom q ⟨results, rfl, rfl, hnull, hfits⟩, fun hno => hnone ?_⟩
    -- A place would have to be the one that the allocator named.
    rintro ptr ⟨_, hresults, rfl, hnull, hfits⟩
    cases hresults
    exact hno.elim hnull fun hlt => absurd hfits (Nat.not_le.mpr hlt)
  · intro ws u g args henters rest v g' results hrest hruns
    refine ⟨_, henters.answers hrest hruns, fun r' => ⟨fun h => h.unique (says_decode ..), ?_⟩⟩
    rintro rfl
    exact says_decode ..

/-- The relaying guest with an entrypoint that returns its payload. -/
def echo : Body :=
  { Body.relay with
    program :=
      { Body.relay.program with
        code := #[⟨Body.allocatorType, #[], #[.plain (.const .i32 1024), .ret]⟩,
          ⟨Body.entrypointType, #[],
            #[.plain (.localGet 0), .plain (.numeric (.extend false)), .plain (.const .i64 32),
              .plain (.numeric (.intBinary .w64 .shl)), .plain (.localGet 1),
              .plain (.numeric (.extend false)), .plain (.numeric (.intBinary .w64 .or)),
              .ret]⟩] } }

/-- An instance of it. -/
def echoing : Instance := { id := 1, body := echo, guest := .blank }

/-- A request of nobody in particular. -/
def anyone : Context := { request := .given "" }

/-- The guest after its allocator has run: nothing but the fuel has changed. -/
def allocated : Guest :=
  { prepared World.recording echoing anyone with
    store := { (prepared World.recording echoing anyone).store with fuel := ⟨1000, 2⟩ } }

/-- Its entrypoint returns in its first turn, whatever is in memory. -/
theorem echo_returns (m : Wasm.Memory) :
    ∃ v g', g'.shared echo = m ∧
      Runs echo 9 [World.recording]
        (Activity.start echo World.recording (allocated.withMemory 0 m) 2 [1024, 2]).1
        (Activity.start echo World.recording (allocated.withMemory 0 m) 2 [1024, 2]).2 v g'
        (.ok [0x40000000002]) :=
  ⟨_, _, rfl, .last rfl⟩

/-- Two bytes go to the guest and come back. -/
theorem echo_returns_payload :
    (course 9 echoing anyone "run" (.mk #[7, 8]) World.recording
      [World.recording, World.recording]).2 = .ended (.ok (.mk #[7, 8])) := by
  have hopen : ∀ v ∈ [World.recording], anyone.interruption v.clock = none := by
    intro v hv
    obtain rfl := List.mem_singleton.mp hv
    rfl
  obtain ⟨-, -, ⟨find, hfind, hplace⟩, -, hanswer⟩ :=
    @entered_and_answered _ 9 World.recording echoing anyone "run" (.mk #[7, 8]) 2 rfl ⟨_, rfl⟩ rfl
      rfl
  obtain rfl : find = 1 := (Option.some.inj hfind).symm
  have hallocated : Runs echo 9 [World.recording]
      (Activity.start echo World.recording (prepared World.recording echoing anyone) 1 [2]).1
      (Activity.start echo World.recording (prepared World.recording echoing anyone) 1 [2]).2
      World.recording allocated (.ok [1024]) := .last rfl
  obtain ⟨g', hloaded, henters⟩ :=
    (hplace _ _ _ _ (by decide) (by decide) hopen hallocated).1 ⟨by decide, by decide⟩
  obtain ⟨m, rfl⟩ := hloaded.rest
  obtain ⟨v, g', hg', hreturned⟩ := echo_returns m
  obtain ⟨r, hended, hmeans⟩ := hanswer _ _ _ _ henters _ v g' _ hopen hreturned
  have hm : (allocated.withMemory 0 m).shared echo = m := rfl
  have hfits : Fits m 0x40000000002 := by
    have hsize : m.size = 65536 := hm ▸ hloaded.size
    show 1024 + 2 ≤ m.size
    omega
  have hshown : m.region 1024 2 = .mk #[7, 8] := hm ▸ hloaded.shown
  have hmeans : Says m 0x40000000002 r := hg' ▸ (hmeans r).mpr rfl
  refine hended.trans ?_
  rw [hmeans.result (by decide) (by decide) hfits]
  exact congrArg (fun bytes : Bytes => Standing.ended (Except.ok bytes)) hshown

end Call
end FunctionHost

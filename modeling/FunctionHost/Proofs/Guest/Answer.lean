import FunctionHost.Proofs.Guest.Nested
import FunctionHost.Proofs.Guest.Poison
import FunctionHost.Proofs.Guest.Request
import FunctionHost.Proofs.Packed

/-!
# What a guest passes on is what its caller sees

The answer to a host call is copied to where the guest's allocator finds room and named by a packed
word, and so is what an entrypoint answers its caller.  So an entrypoint can return the word of a
host call as it is, and its caller sees the callback's reply: the same bytes, or the text of the
same error document (`Call.relayed_reply_is_seen`).

Three things have to fit for that.  A word that is written has to be read as it was meant, which
needs a pointer below the error bit (`Call.decode_word`); the memory limit that settings may ask for
sees to that.  An empty reply must not need any room.  And an allocator that finds no room costs the
instance, whatever the entrypoint makes of the word that it gets instead.
-/
namespace FunctionHost

open Wasm (Thread Word)

variable {σ : Type}

/-! ## Words of deliveries -/

namespace Delivery

variable {d : Delivery} {ptr : UInt32}

/-- **The word of a delivery is read as the region that it names.** -/
theorem decode_word (hsize : d.bytes.size ≠ 0) (hlt : d.bytes.size < 0x80000000)
    (hptr : ptr.toNat + d.bytes.size ≤ 0x80000000) :
    Packed.decode (d.word ptr) =
      if d.failed then .err ptr (.ofNat d.bytes.size) else .ok ptr (.ofNat d.bytes.size) := by
  have hle : ptr ≤ Packed.maxPointer := by
    refine UInt32.le_iff_toNat_le.mpr ?_
    show ptr.toNat ≤ 2147483647
    omega
  have hlen : UInt32.ofNat d.bytes.size ≠ 0xFFFFFFFF := by
    intro h
    have h := congrArg UInt32.toNat h
    rw [UInt32.toNat_ofNat_of_lt' (by show _ < 4294967296; omega)] at h
    have h : d.bytes.size = 4294967295 := h
    omega
  unfold word
  dsimp only
  split
  · rw [Packed.encodeError, Packed.encode, if_pos hle]
    exact Packed.decode_region_or_errorBit hle (.inr hlen)
  · rw [Packed.encode, if_pos hle]
    exact Packed.decode_region hle

/-- What the caller of a guest sees of a delivery that the guest passes on. -/
def seen (d : Delivery) : Except HostError Bytes :=
  if d.failed then
    if d.bytes.size = 0 then
      .error (.execution "guest reported failure without an error document")
    else .error (.execution (Utf8.decodeLossy d.bytes))
  else .ok d.bytes

/-- The word for a delivery of no bytes. -/
def emptyWord (d : Delivery) : Word := if d.failed then Packed.failure else 0

end Delivery

/-- **What the caller of a guest sees** of a reply that the guest passes on: the bytes, or the text
of the error document, or bare failure if that is empty. -/
def HostCall.seen (r : HostRequest) : Reply → Except HostError Bytes
  | .ok bytes => .ok bytes
  | .error e =>
    let document := document r.space r.operation e
    if document.size = 0 then
      .error (.execution "guest reported failure without an error document")
    else .error (.execution (Utf8.decodeLossy document))

theorem HostCall.seen_delivery (r : HostRequest) (reply : Reply) :
    (Activity.delivery r reply).seen = seen r reply := by
  cases reply <;> rfl

namespace Call

variable {m : Wasm.Memory} {d : Delivery} {ptr : UInt32}

/-- **Bytes that are in place are seen** through their word. -/
theorem decode_word (hsize : d.bytes.size ≠ 0) (hlt : d.bytes.size < 0x80000000)
    (hptr : ptr.toNat + d.bytes.size ≤ 0x80000000) (hfits : ptr.toNat + d.bytes.size ≤ m.size)
    (hbytes : m.region ptr.toNat d.bytes.size = d.bytes) : decode m (d.word ptr) = d.seen := by
  have hlen : (UInt32.ofNat d.bytes.size).toNat = d.bytes.size :=
    UInt32.toNat_ofNat_of_lt' (by show _ < 4294967296; omega)
  have hread : Region.read m ptr (.ofNat d.bytes.size) = .ok d.bytes := by
    rw [Region.read_of_le (by rw [hlen]; exact hfits), hlen, hbytes]
  have hne : UInt32.ofNat d.bytes.size ≠ 0 := by
    intro h
    rw [h] at hlen
    exact hsize hlen.symm
  rw [decode, Delivery.decode_word hsize hlt hptr, Delivery.seen]
  cases d.failed with
  | false =>
    simp only [if_false, hne, hread, Bool.false_eq_true]
  | true =>
    simp only [if_true, hsize, if_false, hread, bind, Except.bind]
    rfl

/-- **No bytes are seen** through the word that stands for them. -/
theorem decode_emptyWord (hsize : d.bytes.size = 0) (m : Wasm.Memory) :
    decode m d.emptyWord = d.seen := by
  have hfailed : Packed.decode Packed.failure = .failed := if_pos rfl
  have hzero : Packed.decode 0 = .ok 0 0 := by decide
  rw [decode, Delivery.emptyWord, Delivery.seen]
  cases d.failed with
  | false =>
    simp only [Bool.false_eq_true, if_false, hzero, if_true]
    exact congrArg Except.ok (ByteArray.size_eq_zero_iff.mp hsize).symm
  | true => simp only [if_true, hfailed, hsize]

end Call

/-! ## Room for a delivery -/

/-- The memory that host and guest share. -/
def Guest.shared (g : Guest) (b : Body) : Wasm.Memory := g.memory (b.memory?.getD 0)

theorem Guest.memory_withMemory {g : Guest} {index : Nat} (h : (g.memory index).size ≠ 0)
    (m : Wasm.Memory) : (g.withMemory index m).memory index = m := by
  have hindex : index < g.store.memories.size := by
    refine Nat.lt_of_not_le fun hle => h ?_
    show ((g.store.memories[index]?).getD default).size = 0
    rw [Array.getElem?_eq_none hle]
    rfl
  show ((g.store.memories.modify index fun _ => m)[index]?).getD default = m
  simp [hindex, Array.getElem_modify]

namespace Allocation

variable {m : Wasm.Memory} {bytes : Bytes} {result : Except Stop (List Word)} {ptr : UInt32}

/-- **Whether an allocator found room** for some bytes: it returned a pointer that is not null, and
from there on the bytes lie inside memory. -/
def Room (m : Wasm.Memory) (len : Nat) (result : Except Stop (List Word)) (ptr : UInt32) : Prop :=
  ∃ results, result = .ok results ∧ (results.head?.getD 0).toUInt32 = ptr ∧ ptr ≠ 0 ∧
    ptr.toNat + len ≤ m.size

theorem place_of_room (h : Room m bytes.size result ptr) :
    place m result bytes = .ok (ptr, m.blit ptr.toNat bytes) := by
  obtain ⟨results, rfl, rfl, hnull, hfits⟩ := h
  have hspan : Region.span (results.head?.getD 0).toUInt32.toNat bytes.size m.size =
      .ok ⟨_, _⟩ := if_neg (Nat.not_lt.mpr hfits)
  simp only [place, pointer, hnull, if_false, bind, Except.bind, Region.write, hspan]
  rfl

theorem place_of_not_room (h : ∀ ptr, ¬ Room m bytes.size result ptr) :
    ∃ e, place m result bytes = .error e := by
  rw [place_eq_error_iff]
  cases result with
  | error stop => trivial
  | ok results =>
    refine or_iff_not_imp_left.mpr fun hnull => Nat.not_le.mp fun hfits => ?_
    exact h _ ⟨results, rfl, rfl, hnull, hfits⟩

end Allocation

namespace Activity

variable {b : Body} {g : Guest} {t : Thread} {d : Delivery} {result : Result} {ptr : UInt32}

/-- **An allocator that finds room** has the delivery copied there and named by its word. -/
theorem placed_of_room (h : Allocation.Room (g.shared b) d.bytes.size result ptr)
    (hsize : d.bytes.size ≠ 0) :
    ∃ g' : Guest, (g'.shared b).size = (g.shared b).size ∧
      (g'.shared b).region ptr.toNat d.bytes.size = d.bytes ∧
      ∀ w : World σ, placed b w g result t d = (w, g', answered g' t [d.word ptr]) := by
  refine ⟨g.withMemory (b.memory?.getD 0) ((g.shared b).blit ptr.toNat d.bytes), ?_⟩
  have hmemory : (g.shared b).size ≠ 0 := by
    obtain ⟨-, -, -, -, hfits⟩ := h
    omega
  have hshared : (g.withMemory (b.memory?.getD 0) ((g.shared b).blit ptr.toNat d.bytes)).shared b =
      (g.shared b).blit ptr.toNat d.bytes := Guest.memory_withMemory hmemory _
  rw [hshared]
  refine ⟨Wasm.Memory.size_blit .., Wasm.Memory.region_blit .., fun w => ?_⟩
  have hplace : Allocation.place (g.memory (b.memory?.getD 0)) result d.bytes = _ :=
    Allocation.place_of_room h
  simp only [placed, hplace]
  rfl

/-- **An allocator that finds no room** poisons the guest, which gets bare failure. -/
theorem placed_of_not_room (h : ∀ ptr, ¬ Allocation.Room (g.shared b) d.bytes.size result ptr) :
    ∃ g' : Guest, g'.isPoisoned = true ∧
      ∀ w : World σ, (placed b w g result t d).2 = (g', answered g' t [Packed.failure]) := by
  obtain ⟨e, he⟩ := Allocation.place_of_not_room h
  have he : Allocation.place (g.memory (b.memory?.getD 0)) result d.bytes = .error e := he
  refine ⟨g.poison ("host call result copy failed: " ++ e.message), g.isPoisoned_poison _,
    fun w => ?_⟩
  simp only [placed, he]
  rfl

/-- An answer that is there is delivered. -/
theorem round_of_due {call : PendingCall} {v : World σ} {outer : List (Thread × Delivery)}
    (h : call.due ≤ v.clock.now) :
    round b v g ⟨.awaiting t call, outer⟩ =
      ((complete b v g t call call.reply outer).1, (complete b v g t call call.reply outer).2.1,
        .busy (complete b v g t call call.reply outer).2.2) := by
  simp only [round, if_pos h, Context.guard]

/-- Nobody takes the note back that a guest is poisoned. -/
theorem Ends.poisoned {ws : List (World σ)} {g' : Guest} {a : Activity}
    (h : Ends b ws g a g' result) (hp : g.isPoisoned = true) : g'.isPoisoned = true := by
  induction h with
  | @last w w' g g' a result hr =>
    have hround := round_poisoned b w g a
    rw [hr, hp] at hround
    exact hround
  | @next w w' ws g g' g'' a a' s result hr hs _ ih =>
    have hround := round_poisoned b w g a
    rw [hr, hp] at hround
    exact ih hround

theorem deliver_of_empty {allocator : String} {find : Nat}
    (hf : b.function? allocator Body.allocatorType = some find) (hsize : d.bytes.size = 0)
    (w : World σ) (g : Guest) (t : Thread) :
    deliver b w g allocator t d [] = (w, g, ⟨answered g t [d.emptyWord], []⟩) := by
  have hword (hok : d.failed = false) : d.word 0 = 0 := by
    simp only [Delivery.word, hok, hsize, Bool.false_eq_true, if_false]
    rfl
  unfold deliver Delivery.emptyWord
  cases hfailed : d.failed with
  | false => simp [hsize, hf, hword hfailed]
  | true => simp [hsize]

theorem deliver_of_size {allocator : String} {find : Nat}
    (hf : b.function? allocator Body.allocatorType = some find) (hsize : d.bytes.size ≠ 0)
    (hlt : d.bytes.size < 0x80000000) (w : World σ) (g : Guest) (t : Thread) :
    deliver b w g allocator t d [] =
      (w, (start b w g find [UInt64.ofNat d.bytes.size]).1,
        (start b w g find [UInt64.ofNat d.bytes.size]).2.above [(t, d)]) := by
  have hlong : ¬ Allocation.maxLength < d.bytes.size := by
    show ¬ 2147483647 < d.bytes.size
    omega
  have hempty : (d.failed && d.bytes.size == 0) = false := by simp [hsize]
  simp only [deliver, hempty, Bool.false_eq_true, hsize, if_false, hf, hlong]
  rfl

end Activity

namespace Call

open Activity

variable {w v : World σ} {ws waits : List (World σ)} {i : Instance} {c : Call} {t : Thread}
  {allocator : String} {find : Nat} {r : HostRequest}

/-! ## The turns of a host call -/

/-- **A call whose entrypoint makes a host call**: a thread that nobody waits for asks the callback
for something, on behalf of the call, and there is an allocator to place the answer. -/
structure Asks (w : World σ) (i : Instance) (c : Call) (t : Thread) (allocator : String)
    (find : Nat) (r : HostRequest) : Prop where
  entered : c.entered = true
  calling : ∃ func args, c.activity = ⟨.acting (.calling t func args), []⟩ ∧
    i.body.imports[func]? = some (.hostCall allocator)
  asked : asked? i.body w i.guest c.activity = some (c.context, r)
  allocator : i.body.function? allocator Body.allocatorType = some find

/-- Whether the context of a call stays open in some worlds. -/
def Open (c : Call) (ws : List (World σ)) : Prop :=
  ∀ w ∈ ws, c.context.interruption w.clock = none

/-- The worlds in which a call waits until something is due, and the one in which it is. -/
structure Waits (due : Nat) (waits : List (World σ)) (v : World σ) : Prop where
  early : ∀ u ∈ waits, u.clock.now < due
  late : due ≤ v.clock.now

/-- Whether a call has come, in some worlds, to where its thread is answered with a word. -/
def Answered (ws : List (World σ)) (i : Instance) (c : Call) (t : Thread) (g : Guest)
    (word : Word) : Prop :=
  turns ws i c =
    ({ i with guest := g }, .busy { c with activity := ⟨answered g t [word], []⟩ })

/-- **Whether a guest that is answered with a word returns it as it is**, in some worlds, and what
it leaves then. -/
def Relays (b : Body) (t : Thread) (word : Word) (ws : List (World σ)) (g g' : Guest) : Prop :=
  Ends b ws g ⟨answered g t [word], []⟩ g' (.ok [word])

/-- Whether some bytes of a memory are still there in another one. -/
structure Keeps (m m' : Wasm.Memory) (start len : Nat) : Prop where
  size : m.size ≤ m'.size
  bytes : ∀ k < len, m'.byte (start + k) = m.byte (start + k)

/-- Nothing happens while a call waits. -/
theorem turns_of_awaiting {call : PendingCall} {d : Call}
    (hfocus : d.activity = ⟨.awaiting t call, []⟩) (hcontext : call.context = d.context)
    (hopen : d.Open waits) (hearly : ∀ u ∈ waits, u.clock.now < call.due) :
    turns (waits ++ ws) i d = turns ws i d := by
  induction waits with
  | nil => rfl
  | cons u waits ih =>
    have hu := hopen u List.mem_cons_self
    have hnow : ¬ call.due ≤ u.clock.now := Nat.not_le.mpr (hearly u List.mem_cons_self)
    have hwait : Activity.round i.body u i.guest d.activity =
        (u, i.guest, .blocked d.activity) := by
      simp only [Activity.round, hfocus, hnow, if_false, Context.guard, hcontext, hu,
        Option.map_none]
    rw [List.cons_append]
    refine (turns_of_round hwait rfl hu).trans ?_
    exact ih (fun w hw => hopen w (List.mem_cons_of_mem _ hw))
      fun w hw => hearly w (List.mem_cons_of_mem _ hw)

/-- **The turns until a reply is delivered.** -/
theorem turns_of_asks (h : c.Asks w i t allocator find r)
    (hwaits : Waits (w.clock.now + (w.callback c.context r w.state).delay) waits v)
    (hopen : c.Open (w :: waits ++ [v])) :
    let reply := (w.callback c.context r w.state).reply
    let told := deliver i.body (v.report (HostCall.completed c.context r reply))
      i.guest.recordHostCall allocator t (delivery r reply) []
    turns (w :: waits ++ v :: ws) i c =
      turns ws { i with guest := told.2.1 } { c with activity := told.2.2 } := by
  intro reply told
  obtain ⟨func, args, hfocus, hf⟩ := h.calling
  have hasked := h.asked
  rw [hfocus] at hasked
  have hround := round_of_asked hf hasked
  rw [← hfocus] at hround
  let call : PendingCall := ⟨c.context, r, allocator, reply,
    w.clock.now + (w.callback c.context r w.state).delay⟩
  have hmade : turns (w :: waits ++ v :: ws) i c =
      turns (waits ++ v :: ws) { i with guest := i.guest.recordHostCall }
        { c with activity := ⟨.awaiting t call, []⟩ } :=
    turns_of_round (Prod.ext rfl hround) rfl (hopen w (by simp))
  have hawaits : ({ c with activity := ⟨.awaiting t call, []⟩ } : Call).activity =
      ⟨.awaiting t call, []⟩ := rfl
  have hwaited : turns (waits ++ v :: ws) { i with guest := i.guest.recordHostCall }
        { c with activity := ⟨.awaiting t call, []⟩ } =
      turns (v :: ws) { i with guest := i.guest.recordHostCall }
        { c with activity := ⟨.awaiting t call, []⟩ } :=
    turns_of_awaiting hawaits rfl (fun u hu => hopen u (by simp [hu])) hwaits.early
  rw [hmade, hwaited]
  exact turns_of_round (i := { i with guest := i.guest.recordHostCall }) (a := _)
    (round_of_due (b := i.body) (v := v) hwaits.late) rfl (hopen v (by simp))

/-! ## What follows an answer -/

namespace Answered

variable {g g' : Guest} {word : Word} {rest : List (World σ)} {result : Activity.Result}

theorem turns_append (h : Answered ws i c t g word) (rest : List (World σ)) :
    turns (ws ++ rest) i c =
      turns rest { i with guest := g } { c with activity := ⟨answered g t [word], []⟩ } := by
  rw [Call.turns_append, h]

/-- **An entrypoint that returns its answer as it is** has the caller see what the word says. -/
theorem relayed (h : Answered ws i c t g word) (hentered : c.entered = true) (hopen : c.Open rest)
    (hrelays : Relays i.body t word rest g g') :
    (turns (ws ++ rest) i c).2 = .ended (decode (g'.shared i.body) word) := by
  obtain ⟨u, broken, hturns⟩ := turns_of_ends hrelays hentered hopen
  rw [h.turns_append, hturns]
  rfl

/-- **A poisoned guest costs the instance**, however its entrypoint goes on. -/
theorem faults (h : Answered ws i c t g word) (hentered : c.entered = true) (hopen : c.Open rest)
    (hpoisoned : g.isPoisoned = true)
    (hends : Ends i.body rest g ⟨answered g t [word], []⟩ g' result) :
    (turns (ws ++ rest) i c).1.isFaulted = true ∧
      (turns (ws ++ rest) i c).2 = .ended (outcome { i with guest := g' } c result) := by
  obtain ⟨u, broken, hturns⟩ := turns_of_ends hends hentered hopen
  rw [h.turns_append, hturns]
  refine ⟨conclude_notices ?_, rfl⟩
  rw [conclude_poisoned]
  exact hends.poisoned hpoisoned

end Answered

/-! ## Replies -/

theorem answered_of_empty (h : c.Asks w i t allocator find r)
    (hwaits : Waits (w.clock.now + (w.callback c.context r w.state).delay) waits v)
    (hopen : c.Open (w :: waits ++ [v]))
    (hsize : (delivery r (w.callback c.context r w.state).reply).bytes.size = 0) :
    Answered (w :: waits ++ [v]) i c t i.guest.recordHostCall
      (delivery r (w.callback c.context r w.state).reply).emptyWord := by
  refine (turns_of_asks h hwaits hopen).trans ?_
  simp only [deliver_of_empty h.allocator hsize]
  rfl

/-- A reply that needs room has the allocator run, and what that leaves decides. -/
theorem turns_of_finding {finding : List (World σ)} {g : Guest} {result : Activity.Result}
    (h : c.Asks w i t allocator find r)
    (hwaits : Waits (w.clock.now + (w.callback c.context r w.state).delay) waits v)
    (hopen : c.Open (w :: waits ++ [v])) (hfinding : c.Open finding)
    (hsize : (delivery r (w.callback c.context r w.state).reply).bytes.size ≠ 0)
    (hlt : (delivery r (w.callback c.context r w.state).reply).bytes.size < 0x80000000)
    (hends :
      let d := delivery r (w.callback c.context r w.state).reply
      let asking := start i.body v i.guest.recordHostCall find [UInt64.ofNat d.bytes.size]
      Ends i.body finding asking.1 asking.2 g result) :
    ∃ u : World σ,
      let told := placed i.body u g result t (delivery r (w.callback c.context r w.state).reply)
      turns (w :: waits ++ v :: finding) i c =
        ({ i with guest := told.2.1 }, .busy { c with activity := ⟨told.2.2, []⟩ }) := by
  obtain ⟨u, hu⟩ := turns_of_ends_above (c := c) (t := t)
    (d := delivery r (w.callback c.context r w.state).reply) hends hfinding
  refine ⟨u, (turns_of_asks h hwaits hopen).trans (.trans ?_ hu)⟩
  simp only [deliver_of_size h.allocator hsize hlt]
  rfl

/-- **What a guest passes on is what its caller sees.**  An entrypoint makes a host call, in some
worlds the guest waits for the reply, and in further ones it goes on, while the context stays open.

An empty reply is answered at once, by zero or by bare failure; for any other the allocator is run,
which may take any number of turns, grow the memory and make host calls itself.  If it finds room,
the reply is copied there and answered by the word that names it.  An entrypoint that returns its
answer as it is, and leaves the bytes where they are, then ends the call with the reply as its
caller should see it.

If the allocator finds no room, the answer is bare failure and the call, however its entrypoint ends
it, leaves the instance faulted. -/
theorem relayed_reply_is_seen (hasks : c.Asks w i t allocator find r)
    (hvalid : i.body.execution.validate = .ok ())
    (hwaits : Waits (w.clock.now + (w.callback c.context r w.state).delay) waits v)
    (hopen : c.Open (w :: waits ++ [v]))
    (hlt : (delivery r (w.callback c.context r w.state).reply).bytes.size < 0x80000000) :
    let reply := (w.callback c.context r w.state).reply
    let d := delivery r reply
    let asking := start i.body v i.guest.recordHostCall find [UInt64.ofNat d.bytes.size]
    (d.bytes.size = 0 →
      Answered (w :: waits ++ [v]) i c t i.guest.recordHostCall
        (if d.failed then Packed.failure else 0) ∧
      ∀ rest g', c.Open rest →
        Relays i.body t (if d.failed then Packed.failure else 0) rest i.guest.recordHostCall g' →
        (turns (w :: waits ++ [v] ++ rest) i c).2 = .ended (HostCall.seen r reply)) ∧
    (d.bytes.size ≠ 0 → ∀ finding g result, c.Open finding →
      Ends i.body finding asking.1 asking.2 g result →
      (∀ ptr, Allocation.Room (g.shared i.body) d.bytes.size result ptr →
        (g.shared i.body).size ≤ i.body.execution.maxMemoryBytes →
        ∃ g', (g'.shared i.body).region ptr.toNat d.bytes.size = d.bytes ∧
          Answered (w :: waits ++ v :: finding) i c t g' (d.word ptr) ∧
          ∀ rest g'', c.Open rest → Relays i.body t (d.word ptr) rest g' g'' →
            Keeps (g'.shared i.body) (g''.shared i.body) ptr.toNat d.bytes.size →
            (turns (w :: waits ++ v :: finding ++ rest) i c).2 =
              .ended (HostCall.seen r reply)) ∧
      ((∀ ptr, ¬ Allocation.Room (g.shared i.body) d.bytes.size result ptr) →
        ∃ g', g'.isPoisoned = true ∧
          Answered (w :: waits ++ v :: finding) i c t g' Packed.failure ∧
          ∀ rest g'' done, c.Open rest →
            Ends i.body rest g' ⟨answered g' t [Packed.failure], []⟩ g'' done →
            (turns (w :: waits ++ v :: finding ++ rest) i c).1.isFaulted = true ∧
              ∃ outcome, (turns (w :: waits ++ v :: finding ++ rest) i c).2 = .ended outcome ∧
                (done = .ok [Packed.failure] → outcome = .error
                  (.execution "guest reported failure without an error document")))) := by
  intro reply d asking
  -- However the allocator ends, its turns lead to where the answer is placed.
  have hfound (finding : List (World σ)) (g : Guest) (result : Activity.Result)
      (hsize : d.bytes.size ≠ 0) (hfinding : c.Open finding)
      (hends : Ends i.body finding asking.1 asking.2 g result) :
      ∃ u : World σ, turns (w :: waits ++ v :: finding) i c =
        ({ i with guest := (placed i.body u g result t d).2.1 },
          .busy { c with activity := ⟨(placed i.body u g result t d).2.2, []⟩ }) :=
    turns_of_finding hasks hwaits hopen hfinding hsize hlt hends
  refine ⟨fun hsize => ?_, fun hsize finding g result hfinding hends => ⟨fun ptr hroom hlimit => ?_,
    fun hnone => ?_⟩⟩
  · have hanswered := answered_of_empty hasks hwaits hopen hsize
    refine ⟨hanswered, fun rest g' hrest hrelays => ?_⟩
    rw [hanswered.relayed hasks.entered hrest hrelays, ← HostCall.seen_delivery]
    exact congrArg Standing.ended (decode_emptyWord hsize _)
  · obtain ⟨u, hturns⟩ := hfound finding g result hsize hfinding hends
    obtain ⟨g', hsame, hbytes, hplaced⟩ := placed_of_room (t := t) (d := d) hroom hsize
    have hanswered : Answered (w :: waits ++ v :: finding) i c t g' (d.word ptr) := by
      rw [hplaced u] at hturns
      exact hturns
    refine ⟨g', hbytes, hanswered, fun rest g'' hrest hrelays hkeeps => ?_⟩
    -- The settings bound the memory, so what lies inside it has a word.
    obtain ⟨-, -, -, -, hfits⟩ := hroom
    have hmax := ExecutionSettings.maxMemoryBytes_le hvalid
    have hsize' := hkeeps.size
    have hregion : (g''.shared i.body).region ptr.toNat d.bytes.size = d.bytes :=
      (Wasm.Memory.region_congr hkeeps.bytes).trans hbytes
    rw [hanswered.relayed hasks.entered hrest hrelays, ← HostCall.seen_delivery]
    exact congrArg Standing.ended (decode_word hsize hlt (by omega) (by omega) hregion)
  · obtain ⟨u, hturns⟩ := hfound finding g result hsize hfinding hends
    obtain ⟨g', hpoisoned, hplaced⟩ := placed_of_not_room (σ := σ) (t := t) (d := d) hnone
    have hanswered : Answered (w :: waits ++ v :: finding) i c t g' Packed.failure := by
      rw [hplaced u] at hturns
      exact hturns
    refine ⟨g', hpoisoned, hanswered, fun rest g'' done hrest hends => ?_⟩
    obtain ⟨hfaulted, hended⟩ := hanswered.faults hasks.entered hrest hpoisoned hends
    refine ⟨hfaulted, _, hended, ?_⟩
    rintro rfl
    rfl

/-- The thread of the relaying guest while its host call is answered: all that is left to do is to
return. -/
def relayThread : Thread :=
  ⟨⟨Array.replicate 8 (.plain (.const .i32 0)) ++ #[.call 0, .ret], 9, #[0, 0], [], 1⟩, [], 0, 10⟩

/-- A call of the relaying guest that has come to its host call. -/
def relaying : Instance × Call :=
  match begin World.recording { id := 1, body := .relay, guest := .blank } { request := .given "" }
    "run" ByteArray.empty with
  | (_, i, .busy c) =>
    match turns [World.recording] i c with
    | (i, .busy c) => (i, c)
    | _ => default
  | _ => default

/-- One byte goes from the callback through the guest to the caller. -/
theorem relaying_is_seen :
    (turns (List.replicate 6 World.recording) relaying.1 relaying.2).2 =
      .ended (.ok (.mk #[7])) := by
  let w := World.recording
  have hasks :
      relaying.2.Asks w relaying.1 relayThread "allocate" 1 ⟨"", "", "", ByteArray.empty⟩ :=
    { entered := rfl
      calling := ⟨0, List.replicate 8 0, rfl, rfl⟩
      asked := by with_unfolding_all rfl
      allocator := rfl }
  have hopen (ws : List (World _)) (h : ∀ u ∈ ws, u = w) : relaying.2.Open ws := by
    intro u hu
    obtain rfl := h u hu
    rfl
  have hwaits : Waits 0 [] w := ⟨(fun _ h => nomatch h), Nat.le_refl 0⟩
  -- The allocator returns at once, and so does the entrypoint, whatever is in memory then.
  obtain ⟨g, hsize, hends⟩ : ∃ g : Guest, (g.shared .relay).size = 65536 ∧
      Ends .relay [w, w]
        (start .relay w relaying.1.guest.recordHostCall 1 [1]).1
        (start .relay w relaying.1.guest.recordHostCall 1 [1]).2 g (.ok [1024]) :=
    ⟨_, rfl, .next rfl rfl (.last rfl)⟩
  have hrelays (word : Word) (g : Guest) : Relays .relay relayThread word [w, w] g g :=
    .next rfl rfl (.last rfl)
  have hroom : Allocation.Room (g.shared .relay) 1 (.ok [1024]) 1024 :=
    ⟨[1024], rfl, rfl, by decide, hsize ▸ by decide⟩
  obtain ⟨g', -, -, hseen⟩ :=
    ((relayed_reply_is_seen hasks rfl hwaits (hopen _ (by simp)) (by decide)).2 (by decide)
      [w, w] g _ (hopen _ (by simp)) hends).1 1024 hroom (hsize ▸ by decide)
  exact hseen [w, w] g' (hopen _ (by simp)) (hrelays _ g') ⟨Nat.le_refl _, fun _ _ => rfl⟩

end Call
end FunctionHost

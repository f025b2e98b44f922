import FunctionHost.Proofs.Guest.Frame

/-!
# What poisons a guest

The answer to a host call has to be placed in the guest's memory.  It cannot be if it is too long,
or if the guest's allocator is stopped, finds no room or points outside memory.  `Activity.misses`
says that this happens in a round and `Activity.spoils` that it happens in some of many; neither
looks at what the host notes down about the guest.

What it notes down is exactly that: a guest is **poisoned** by a turn if and only if an answer could
not be placed in it (`Activity.proceed_poisoned`).  A call that ends looks at the note and faults
the instance (`Call.proceed_notices`); a reset and a birth do not.
-/
namespace FunctionHost

open Wasm (Thread Word)

variable {σ : Type}

/-- Whether the guest's memory cannot be trusted. -/
def Guest.isPoisoned (g : Guest) : Bool := g.poisoned.isSome

@[simp] theorem Guest.isPoisoned_poison (g : Guest) (reason : String) :
    (g.poison reason).isPoisoned = true := by
  rw [isPoisoned, poison]
  cases g.poisoned <;> rfl

/-! ## Placing -/

theorem Region.write_eq_error_iff (m : Wasm.Memory) (ptr : UInt32) (bytes : Bytes) :
    (∃ e, write m ptr bytes = .error e) ↔ m.size < ptr.toNat + bytes.size := by
  unfold write span
  dsimp only
  split <;> simp_all [Except.map]

/-- **What an allocator may not do**: be stopped, find no room, or point outside memory. -/
theorem Allocation.place_eq_error_iff (m : Wasm.Memory) (result : Except Stop (List Word))
    (bytes : Bytes) :
    (∃ e, place m result bytes = .error e) ↔
      match result with
      | .error _ => True
      | .ok results =>
        (results.head?.getD 0).toUInt32 = 0 ∨
          m.size < (results.head?.getD 0).toUInt32.toNat + bytes.size := by
  cases result with
  | error s => exact ⟨fun _ => trivial, fun _ => ⟨_, rfl⟩⟩
  | ok results =>
    show _ ↔ (results.head?.getD 0).toUInt32 = 0 ∨
      m.size < (results.head?.getD 0).toUInt32.toNat + bytes.size
    generalize hptr : (results.head?.getD 0).toUInt32 = ptr
    by_cases hp : ptr = 0
    · have hplace : place m (.ok results) bytes = .error null := by
        simp only [place, pointer, hptr, hp, if_true]
        rfl
      exact ⟨fun _ => .inl hp, fun _ => ⟨null, hplace⟩⟩
    · have hplace : place m (.ok results) bytes = (Region.write m ptr bytes).map (ptr, ·) := by
        simp only [place, pointer, hptr, hp, if_false]
        rfl
      have hwrite := Region.write_eq_error_iff m ptr bytes
      simp only [hplace, hp, false_or, ← hwrite]
      cases Region.write m ptr bytes with
      | error e => exact ⟨fun _ => ⟨e, rfl⟩, fun _ => ⟨e, rfl⟩⟩
      | ok m' => exact ⟨(fun ⟨_, h⟩ => nomatch h), (fun ⟨_, h⟩ => nomatch h)⟩

namespace Activity

/-- The answer to a host call that is delivered in a round, if one is, and the name of the allocator
that is to find room for it. -/
def answer? (b : Body) (w : World σ) (g : Guest) (a : Activity) : Option (String × Delivery) :=
  match a.focus with
  | .awaiting _ call =>
    let work := if call.due ≤ w.clock.now then some call.reply else none
    (call.context.guard w.clock work).map fun outcome =>
      (call.allocator, delivery call.request (match outcome with
        | .ok reply => reply
        | .error why => .error (HostCall.interrupted why)))
  | .acting (.calling _ func args) =>
    match b.imports[func]?, b.memory?, HostCall.pairs? args with
    | some (.hostCall allocator), some index, some (space, operation, key, payload) =>
      match HostCall.read (g.memory index) space operation key payload with
      | .error (.callback e) => some (allocator, ⟨HostCall.document "" "" e, true⟩)
      | .error _ => none
      | .ok request =>
        let (w, c) := contextOf b w g
        (c.interruption w.clock).map fun why =>
          (allocator, delivery request (.error (HostCall.interrupted why)))
    | _, _, _ => none
  | _ => none

/-- Whether an answer is too long to ask for room. -/
def overlong (b : Body) (allocator : String) (d : Delivery) : Bool :=
  (b.function? allocator Body.allocatorType).isSome && decide (Allocation.maxLength < d.bytes.size)

/-- Whether what an allocator says is no place for the answer that waits for it. -/
def misplaced (b : Body) (g : Guest) (result : Except Stop (List Word)) :
    List (Thread × Delivery) → Bool
  | [] => false
  | (_, d) :: _ =>
    match Allocation.place (g.memory (b.memory?.getD 0)) result d.bytes with
    | .error _ => true
    | .ok _ => false

/-- **Whether an answer cannot be placed** in a round. -/
def misses (b : Body) (w : World σ) (g : Guest) (a : Activity) : Bool :=
  match a.focus with
  | .acting (.returned results) => misplaced b g (.ok results) a.outer
  | .acting (.stopped cause) => misplaced b g (.error cause) a.outer
  | _ => (answer? b w g a).any fun (allocator, d) => overlong b allocator d

/-- **Whether an answer cannot be placed** in some of many rounds. -/
def spoils (b : Body) : Nat → World σ → Guest → Activity → Bool
  | 0, _, _, _ => false
  | rounds + 1, w, g, a =>
    misses b w g a ||
      match round b w g a with
      | (w, g, .busy a) => spoils b rounds w g a
      | _ => false

theorem start_poisoned (b : Body) (w : World σ) (g : Guest) (func : Nat) (args : List Word) :
    (start b w g func args).1.isPoisoned = g.isPoisoned := rfl

theorem deliver_poisoned (b : Body) (w : World σ) (g : Guest) (allocator : String) (t : Thread)
    (d : Delivery) (outer : List (Thread × Delivery)) :
    (deliver b w g allocator t d outer).2.1.isPoisoned =
      (g.isPoisoned || overlong b allocator d) := by
  unfold deliver overlong
  cases hf : b.function? allocator Body.allocatorType with
  | none => split <;> simp
  | some func =>
    split
    · rename_i h
      have hsize : d.bytes.size = 0 := by simpa using (Bool.and_eq_true_iff.mp h).2
      simp [hsize]
    · by_cases hsize : d.bytes.size = 0
      · simp [hsize]
      · by_cases hlong : Allocation.maxLength < d.bytes.size
        · simp [hsize, hlong, unplaced]
        · simp [hsize, hlong, start_poisoned]

theorem complete_poisoned (b : Body) (w : World σ) (g : Guest) (t : Thread) (call : PendingCall)
    (reply : Reply) (outer : List (Thread × Delivery)) :
    (complete b w g t call reply outer).2.1.isPoisoned =
      (g.isPoisoned || overlong b call.allocator (delivery call.request reply)) :=
  deliver_poisoned ..

theorem hostCall_poisoned (b : Body) (w : World σ) (g : Guest) (allocator : String) (t : Thread)
    (func : Nat) (args : List Word) (outer : List (Thread × Delivery))
    (hf : b.imports[func]? = some (.hostCall allocator)) :
    (hostCall b w g allocator t args outer).2.1.isPoisoned =
      (g.isPoisoned || (answer? b w g ⟨.acting (.calling t func args), outer⟩).any
        fun (allocator, d) => overlong b allocator d) := by
  have hg : g.recordHostCall.isPoisoned = g.isPoisoned := rfl
  simp only [hostCall, answer?, hf]
  cases b.memory? with
  | none => simp [hg]
  | some index =>
    cases HostCall.pairs? args with
    | none => simp [hg]
    | some pairs =>
      obtain ⟨space, operation, key, payload⟩ := pairs
      have hmemory : g.recordHostCall.memory index = g.memory index := rfl
      simp only [hmemory]
      cases HostCall.read (g.memory index) space operation key payload with
      | error e =>
        cases e with
        | callback e => exact (deliver_poisoned ..).trans (by simp [hg])
        | _ => simp [hg]
      | ok request =>
        -- A call that is refused is answered at once, any other when it is completed.
        have hcontext : contextOf b w g.recordHostCall = contextOf b w g := rfl
        simp only [hcontext]
        cases (contextOf b w g).2.interruption (contextOf b w g).1.clock with
        | none => simp [hg]
        | some why => exact (complete_poisoned ..).trans (by simp [hg])

theorem systemCall_poisoned (b : Body) (w : World σ) (g : Guest) (name : String) (t : Thread)
    (args : List Word) (outer : List (Thread × Delivery)) :
    (systemCall b w g name t args outer).2.1.isPoisoned = g.isPoisoned := by
  unfold systemCall
  split
  · rfl
  · split <;> rfl

theorem placed_poisoned (b : Body) (w : World σ) (g : Guest) (result : Except Stop (List Word))
    (t : Thread) (d : Delivery) (outer : List (Thread × Delivery)) :
    (placed b w g result t d).2.1.isPoisoned =
      (g.isPoisoned || misplaced b g result ((t, d) :: outer)) := by
  unfold placed misplaced
  dsimp only
  cases Allocation.place (g.memory (b.memory?.getD 0)) result d.bytes with
  | error e => simp [unplaced]
  | ok r => exact (Bool.or_false _).symm

theorem settle_poisoned (b : Body) (w : World σ) (g : Guest) (result : Except Stop (List Word))
    (outer : List (Thread × Delivery)) :
    (settle b w g result outer).2.1.isPoisoned = (g.isPoisoned || misplaced b g result outer) := by
  cases outer with
  | nil => exact (Bool.or_false _).symm
  | cons x outer => exact placed_poisoned b w g result x.1 x.2 outer

/-- **What a round notes down about the guest.** -/
theorem round_poisoned (b : Body) (w : World σ) (g : Guest) (a : Activity) :
    (round b w g a).2.1.isPoisoned = (g.isPoisoned || misses b w g a) := by
  obtain ⟨focus, outer⟩ := a
  cases focus with
  | acting turn =>
    cases turn with
    | running t => exact (Bool.or_false _).symm
    | returned results => exact settle_poisoned b w g (.ok results) outer
    | stopped cause => exact settle_poisoned b w g (.error cause) outer
    | calling t func args =>
      simp only [round, imported, misses]
      split
      · rename_i allocator hf
        exact hostCall_poisoned b w g allocator t func args outer hf
      · rename_i name hf
        simp only [answer?, hf]
        exact (systemCall_poisoned ..).trans (Bool.or_false _).symm
      · rename_i hf
        simp only [answer?, hf]
        exact (Bool.or_false _).symm
  | awaiting t call =>
    simp only [round, misses, answer?]
    split
    · rename_i hguard
      simp [hguard]
    · rename_i reply hguard
      exact (complete_poisoned ..).trans (by simp [hguard])
    · rename_i why hguard
      exact (complete_poisoned ..).trans (by simp [hguard])

/-- **A guest is poisoned by a turn if and only if an answer could not be placed in it.** -/
theorem proceed_poisoned (b : Body) (rounds : Nat) (w : World σ) (g : Guest) (a : Activity) :
    (proceed b rounds w g a).2.1.isPoisoned = (g.isPoisoned || spoils b rounds w g a) := by
  induction rounds generalizing w g a with
  | zero => simp [proceed, spoils]
  | succ rounds ih =>
    have hround := round_poisoned b w g a
    unfold proceed spoils
    generalize round b w g a = r at hround
    obtain ⟨w', g', s⟩ := r
    cases s with
    | busy a' =>
      show (proceed b rounds w' g' a').2.1.isPoisoned = _
      rw [ih, hround, Bool.or_assoc]
    | blocked a' => rw [hround, Bool.or_false]
    | ended result => rw [hround, Bool.or_false]

end Activity

/-! ## Calls, resets and births -/

namespace Call

theorem conclude_poisoned (w : World σ) (i : Instance) (fuel : Nat) (broken : Bool)
    (outcome : Except HostError Bytes) :
    (conclude w i fuel broken outcome).2.1.guest.isPoisoned = i.guest.isPoisoned := by
  rw [conclude_guest]
  rfl

theorem conclude_notices {w : World σ} {i : Instance} {fuel : Nat} {broken : Bool}
    {outcome : Except HostError Bytes}
    (hp : (conclude w i fuel broken outcome).2.1.guest.isPoisoned = true) :
    (conclude w i fuel broken outcome).2.1.isFaulted = true := by
  rw [conclude_poisoned, Guest.isPoisoned] at hp
  rw [conclude_isFaulted, hp, Bool.or_true, Bool.or_true]

theorem prepared_poisoned (w : World σ) (i : Instance) (c : Context) :
    (prepared w i c).isPoisoned = i.guest.isPoisoned := by
  unfold prepared
  dsimp only
  split <;> rfl

theorem begin_poisoned (w : World σ) (i : Instance) (c : Context) (entrypoint : String)
    (payload : Bytes) :
    (begin w i c entrypoint payload).2.1.guest.isPoisoned = i.guest.isPoisoned := by
  have hturn := begins w i c entrypoint payload
  generalize begin w i c entrypoint payload = turn at hturn ⊢
  cases hturn with
  | refused | missing => rfl
  | hindered => exact (conclude_poisoned ..).trans (prepared_poisoned w i c)
  | entered | allocating => exact prepared_poisoned w i c

theorem proceed_poisoned (rounds : Nat) (w : World σ) (i : Instance) (c : Call) :
    (proceed rounds w i c).2.1.guest.isPoisoned =
      (i.guest.isPoisoned || Activity.spoils i.body rounds w i.guest c.activity) := by
  have hrun := Activity.proceed_poisoned i.body rounds w i.guest c.activity
  have hturn := proceeds rounds w i c
  rw [← hrun]
  generalize proceed rounds w i c = turn at hturn ⊢
  generalize Activity.proceed i.body rounds w i.guest c.activity = run at hturn ⊢
  cases hturn with
  | busy | waiting | entered => rfl
  | concluded => exact conclude_poisoned ..

/-- **A call that ends faults a poisoned instance.** -/
theorem proceed_notices {rounds : Nat} {w : World σ} {i : Instance} {c : Call}
    (hs : (proceed rounds w i c).2.2.work? = none)
    (hp : (proceed rounds w i c).2.1.guest.isPoisoned = true) :
    (proceed rounds w i c).2.1.isFaulted = true := by
  have hturn := proceeds rounds w i c
  generalize proceed rounds w i c = turn at hturn hs hp ⊢
  generalize Activity.proceed i.body rounds w i.guest c.activity = run at hturn
  cases hturn with
  | busy | waiting | entered => cases hs
  | concluded => exact conclude_notices hp

end Call

namespace Reset

theorem begin_poisoned (w : World σ) (i : Instance) :
    (begin w i).2.1.guest.isPoisoned = i.guest.isPoisoned := by
  have hturn := begins w i
  generalize begin w i = turn at hturn ⊢
  cases hturn with
  | refused | grown | done => rfl
  | started =>
    show (prepared w i).isPoisoned = i.guest.isPoisoned
    unfold prepared
    dsimp only
    split <;> rfl

theorem proceed_poisoned (rounds : Nat) (w : World σ) (i : Instance) (x : Reset) :
    (proceed rounds w i x).2.1.guest.isPoisoned =
      (i.guest.isPoisoned || Activity.spoils i.body rounds w i.guest x.activity) := by
  have hrun := Activity.proceed_poisoned i.body rounds w i.guest x.activity
  have hturn := proceeds rounds w i x
  rw [← hrun]
  generalize proceed rounds w i x = turn at hturn ⊢
  generalize Activity.proceed i.body rounds w i.guest x.activity = run at hturn ⊢
  cases hturn <;> rfl

end Reset

namespace Birth

/-- Whether the guest of a birth is poisoned, unless there is none. -/
def Poisoned (is : Bool) : Standing Birth Result → Prop
  | .busy x | .blocked x => x.guest.isPoisoned = is
  | .ended (.ok i) => i.guest.isPoisoned = is
  | .ended (.error _) => True

theorem poisoned_afterStart (w : World σ) (id : Nat) (b : Body) (g : Guest) :
    Poisoned g.isPoisoned (afterStart w id b g).2 := by
  unfold afterStart
  split
  · trivial
  · rfl
  · rfl

theorem Furnishes.poisoned {w v : World σ} {b : Blueprint} {x : Body} {g : Guest}
    (h : Furnishes w b (v, .ok (x, g))) : g.isPoisoned = false := by
  cases h with
  | furnished => rfl

theorem poisoned_begin (w : World σ) (b : Blueprint) (id : Nat) :
    Poisoned false (begin w b id).2 := by
  have hturn := begins w b id
  generalize begin w b id = turn at hturn ⊢
  cases hturn with
  | unfurnished => trivial
  | startless h => exact h.poisoned ▸ poisoned_afterStart ..
  | starting h => exact h.poisoned

theorem poisoned_proceed (rounds : Nat) (w : World σ) (x : Birth) :
    Poisoned (x.guest.isPoisoned || Activity.spoils x.body rounds w x.guest x.activity)
      (proceed rounds w x).2 := by
  have hrun := Activity.proceed_poisoned x.body rounds w x.guest x.activity
  have hturn := proceeds rounds w x
  rw [← hrun]
  generalize proceed rounds w x = turn at hturn ⊢
  generalize Activity.proceed x.body rounds w x.guest x.activity = run at hturn ⊢
  cases hturn with
  | busy | waiting | initialized => rfl
  | started => exact poisoned_afterStart ..
  | abandoned => trivial

theorem Poisoned.work? {s : Standing Birth Result} {x : Birth} {is : Bool} (h : Poisoned is s)
    (hx : s.work? = some x) : x.guest.isPoisoned = is := by
  cases s <;> cases hx <;> exact h

end Birth
end FunctionHost

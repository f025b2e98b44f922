import FunctionHost.Proofs.Guest.Interruption
import FunctionHost.Proofs.Guest.Limits

/-!
# Interrupting a guest that waits

Two waits watch one request: that of a host call for the callback, and around it that of the call for
its guest.  When the request is cancelled, or its deadline comes, while the callback still works,
both could end.  The inner one does, since the outer one looks at its work first: the guest is told
by a document that its request is over, and goes on (`Call.Suspended.round`).  From then on it never
waits again, so the outer wait has no other occasion to end.

So no call is broken off while its guest waits.  What the call returns is up to the guest: it is what
an interrupted call should return **if and only if** the deadline has come, and the epoch comes to
the deadline of the guest code, too, before its entrypoint answers (`Call.broken_off_iff`).
-/
namespace FunctionHost

open Wasm (Thread Word)

variable {σ : Type}

namespace Call

variable {rounds : Nat} {i j : Instance} {c : Context} {entrypoint : String} {payload : Bytes}
  {w v : World σ} {before after : List (World σ)} {x : Call} {how : Ending} {why : Interruption}

/-! ## What ends a call that is never broken off -/

/-- **Whether a call is over as an interrupted one should be**: it tells why, and its instance is not
used any more. -/
structure BrokenOff (timeoutMs : Nat) (why : Interruption) (i : Instance) (r : Result) : Prop where
  result : r = .error (interrupted timeoutMs why)
  faulted : i.isFaulted = true

/-- A call that was not interrupted returns the error of an interrupted one only if the epoch stopped
its entrypoint. -/
theorem Ending.outcome_eq_interrupted_iff {b : Body} (hproper : how.Proper b entrypoint)
    (hnot : ∀ why, how ≠ .interrupted why) (timeoutMs : Nat) :
    how.outcome timeoutMs = .error (Call.interrupted timeoutMs why) ↔
      why = .deadlineExceeded ∧ how = .stopped (.trap .interrupt) := by
  refine ⟨fun h => ?_, fun ⟨hwhy, hhow⟩ => by rw [hwhy, hhow]; rfl⟩
  cases how with
  | interrupted why' => exact absurd rfl (hnot why')
  | refused => cases why <;> cases h
  | missing name => cases why <;> cases h
  | unallocated stop => cases why <;> cases h
  | unplaced e =>
    obtain ⟨reason, rfl⟩ := hproper
    cases why <;> cases h
  | answered m word =>
    have hsays : Says m word (.error (Call.interrupted timeoutMs why)) := h ▸ says_decode m word
    obtain ⟨text, htext⟩ | ⟨reason, hreason⟩ := hsays.error
    · cases why <;> cases htext
    · cases why <;> cases hreason
  | stopped stop =>
    have h : stop.error timeoutMs = Call.interrupted timeoutMs why := Except.error.inj h
    cases why with
    | canceled => cases stop with
      | trap trap => cases trap <;> cases h
      | exited status => cases h
      | refused reason => cases h
    | deadlineExceeded => cases stop with
      | trap trap => cases trap with
        | interrupt => exact ⟨rfl, rfl⟩
        | _ => cases h
      | exited status => cases h
      | refused reason => cases h

/-- What ends a call in a turn in which its request is over is no interruption. -/
theorem ending?_ne_interrupted (h : Serving c j x) (hover : c.IsOver v.clock) (rounds : Nat)
    (why : Interruption) : ending? rounds v j x ≠ some (.interrupted why) := by
  have hnever := (h.ne_blocked hover rounds).1
  unfold ending?
  generalize Activity.proceed j.body rounds v j.guest x.activity = turn at hnever
  obtain ⟨u, g, s⟩ := turn
  cases s with
  | busy a => exact fun h => nomatch h
  | blocked a => exact absurd rfl (hnever a)
  | ended result =>
    dsimp only
    unfold lastEnding?
    cases result with
    | error stop => cases x.entered <;> exact fun h => nomatch h
    | ok results =>
      dsimp only
      split
      · exact fun h => nomatch h
      · split <;> exact fun h => nomatch h

/-- The course of a call, and what is noted of it, from a world on. -/
theorem noted_append : noted rounds i c entrypoint payload w (before ++ after) =
    after.foldl (fun n v => (further rounds n.1 v, n.2.after rounds n.1 v))
      (noted rounds i c entrypoint payload w before) :=
  List.foldl_append

/-- **A call that is in progress when its request is over is not broken off**, whatever others do. -/
theorem trace_ne_interrupted (hx : (course rounds i c entrypoint payload w before).2.work? = some x)
    (hover : ∀ u ∈ after, c.IsOver u.clock) (why : Interruption) :
    (trace rounds i c entrypoint payload w (before ++ after)).ending ≠ some (.interrupted why) := by
  -- From there on the call serves its request, and nothing has interrupted it.
  let Goes (n : (Instance × Standing Call Result) × Trace) : Prop :=
    (∀ x ∈ n.1.2.work?, Serving c n.1.1 x) ∧ n.2.ending ≠ some (.interrupted why)
  suffices hgoes : Goes (noted rounds i c entrypoint payload w (before ++ after)) from hgoes.2
  rw [noted_append]
  refine List.foldlRecOn after _ ?_ fun n hn u hu => ?_
  · have hfollows : Follows _ _ (course rounds i c entrypoint payload w before)
        (trace rounds i c entrypoint payload w before) := course_follows
    refine ⟨?_, ?_⟩
    · rw [noted_fst]
      exact serving_course
    · show (trace rounds i c entrypoint payload w before).ending ≠ _
      generalize course rounds i c entrypoint payload w before = s at hx hfollows
      cases hfollows with
      | going hs hending => rw [hending]; exact fun h => nomatch h
      | finished => cases hx
  · obtain ⟨⟨j, s⟩, t⟩ := n
    obtain ⟨hserving, hending⟩ := hn
    cases hs : s.work? with
    | none =>
      simp only [further, Trace.after, hs]
      exact ⟨hserving, hending⟩
    | some x' =>
      simp only [further, Trace.after, hs]
      have hserving : Serving c j x' := hserving x' hs
      exact ⟨hserving.proceed rounds u, ending?_ne_interrupted hserving (hover u hu) rounds why⟩

/-! ## Guests that wait -/

/-- **A call whose guest waits in a host call**, which the callback has not done yet. -/
structure Suspended (x : Call) (t : Thread) (call : PendingCall) (clock : Clock) : Prop where
  waiting : x.activity.focus = .awaiting t call
  pending : clock.now < call.due

/-- **A guest that waits is told by a document that its request is over, and goes on.** -/
theorem Suspended.round {t : Thread} {call : PendingCall} (h : Suspended x t call v.clock)
    (hserving : Serving c i x) (hover : c.IsOver v.clock) :
    ∃ (v' : World σ) (g : Guest) (a : Activity),
      Activity.round i.body v i.guest x.activity = (v', g, .busy a) ∧
        Activity.Told σ i.body call.allocator t (Activity.overdue c v.clock call.request)
          x.activity.outer g a := by
  have hcontext : call.context = c := hserving.waits.context t call h.waiting
  have hdue : ¬ call.due ≤ v.clock.now := Nat.not_le.mpr h.pending
  have hguard : call.context.guard v.clock (if call.due ≤ v.clock.now then some call.reply else none)
      = some (.error (c.reason v.clock)) := by
    rw [if_neg hdue, Context.guard, hcontext, Context.interruption_of_isOver hover]
    rfl
  have hround :
      let told := Activity.complete i.body v i.guest t call
        (.error (HostCall.interrupted (c.reason v.clock))) x.activity.outer
      Activity.round i.body v i.guest x.activity = (told.1, told.2.1, .busy told.2.2) := by
    rw [Activity.round, h.waiting]
    dsimp only
    rw [hguard]
  exact ⟨_, _, _, hround, Activity.told_deliver (Activity.size_overdue_ne_zero _ _ _) ..⟩

/-- **A call is broken off for its request's end only by the epoch.**  Its guest waits in a host call
that the callback has not done yet when its request is over, be it cancelled or too late.

In the next round the guest is told so by a document, and goes on; nothing breaks the call off as
long as it goes on, whatever the guest, the callback and others do.  When the call is over, it is
over as an interrupted one should be **if and only if** it was the deadline that had come, and the
epoch, too, came to the deadline of the guest code and stopped the entrypoint.  A call whose request
was cancelled never is. -/
theorem broken_off_iff {t : Thread} {call : PendingCall} {r : Result}
    (hx : (course rounds i c entrypoint payload w before).2.work? = some x)
    (hsuspended : Suspended x t call v.clock) (hwhy : c.interruption v.clock = some why)
    (hafter : ∀ u ∈ after, v.clock.Later u.clock)
    (hdone : (course rounds i c entrypoint payload w (before ++ v :: after)).2 = .ended r) :
    let j := (course rounds i c entrypoint payload w before).1
    let k := (course rounds i c entrypoint payload w (before ++ v :: after)).1
    (∃ (v' : World σ) (g : Guest) (a : Activity),
      Activity.round j.body v j.guest x.activity = (v', g, .busy a) ∧
        Activity.Told σ j.body call.allocator t
          (HostCall.document call.request.space call.request.operation (HostCall.interrupted why))
          x.activity.outer g a) ∧
    ∃ how, (trace rounds i c entrypoint payload w (before ++ v :: after)).ending = some how ∧
      (∀ why, how ≠ .interrupted why) ∧
      (BrokenOff (effectiveTimeout c w.clock i.body.execution.timeoutMs.toNat) why k r ↔
        why = .deadlineExceeded ∧ how = .stopped (.trap .interrupt)) := by
  intro j k
  obtain ⟨hover, hreason⟩ := Context.interruption_eq_some_iff.mp hwhy
  have hserving : Serving c j x := serving_course x hx
  -- What is over stays over in all later turns.
  have hlast : ∀ u ∈ v :: after, c.IsOver u.clock :=
    List.forall_mem_cons.mpr ⟨hover, fun u hu => hover.later (hafter u hu)⟩
  refine ⟨?_, ?_⟩
  · have htold := hsuspended.round hserving hover
    rw [Activity.overdue, hreason] at htold
    exact htold
  · obtain ⟨how, hending, hr, -, hfault⟩ := course_ended hdone
    -- For a request that is over nobody waits, so that is not what ends the call.
    have hnot (why : Interruption) : how ≠ .interrupted why := by
      rintro rfl
      exact trace_ne_interrupted hx hlast why hending
    refine ⟨how, hending, hnot, ?_⟩
    have hiff : r = .error (interrupted
        (effectiveTimeout c w.clock i.body.execution.timeoutMs.toNat) why) ↔
          why = .deadlineExceeded ∧ how = .stopped (.trap .interrupt) := by
      rw [hr]
      exact Ending.outcome_eq_interrupted_iff (trace_proper hending) hnot _
    refine ⟨fun h => hiff.mp h.result, fun h => ⟨hiff.mpr h, ?_⟩⟩
    rw [hfault, h.2]
    rfl

/-! ## Guests that take no heed -/

/-- The relaying guest, but that it does not pass the answer on: it drops it and goes on with code of
its own. -/
def heedless (rest : Array Wasm.Instruction) : Body :=
  { Body.relay with
    program :=
      { Body.relay.program with
        code := Body.relay.program.code.set! 1
          ⟨Body.entrypointType, #[],
            Array.replicate 8 (.plain (.const .i32 0)) ++ #[.call 0, .plain .drop] ++ rest⟩ } }

/-- A world whose callback takes its time. -/
def slow : World Unit :=
  { callback := fun _ _ _ => { state := (), reply := .ok ByteArray.empty, delay := 50 }
    state := () }

/-- The instant from which on the answer is there that a call waits for, if it waits for one. -/
def due? (x : Call) : Option Nat :=
  match x.activity.focus with
  | .awaiting _ call => some call.due
  | .acting _ => none

theorem suspended_of_due? {s : Standing Call Result} (clock : Clock) (due : Nat)
    (h : s.work?.bind due? = some due) (hlt : clock.now < due) :
    ∃ x t call, s.work? = some x ∧ Suspended x t call clock := by
  obtain ⟨x, hx, hdue⟩ := Option.bind_eq_some_iff.mp h
  unfold due? at hdue
  split at hdue
  · rename_i t call hfocus
    obtain rfl := Option.some.inj hdue
    exact ⟨x, t, call, hx, hfocus, hlt⟩
  · cases hdue

/-- A guest that never returns is stopped by the epoch after the deadline of its request. -/
theorem endless_is_broken_off :
    let i : Instance :=
      { id := 1, body := heedless #[.loopHead, .branch ⟨10, 0, 0⟩], guest := .blank }
    let c : Context := { request := .given "", deadline := some 5 }
    let v := (slow.advance 5).tick 1
    ∃ r, (course 9 i c "run" ByteArray.empty slow [slow, v]).2 = .ended r ∧
      BrokenOff 5 .deadlineExceeded (course 9 i c "run" ByteArray.empty slow [slow, v]).1 r := by
  intro i c v
  obtain ⟨r, hdone⟩ := Standing.ended_of_result?
    (s := (course 9 i c "run" ByteArray.empty slow [slow, v]).2) (by decide +kernel)
  obtain ⟨x, t, call, hx, hsuspended⟩ := suspended_of_due? v.clock 50
    (s := (course 9 i c "run" ByteArray.empty slow [slow]).2) (by decide +kernel) (by decide)
  have hwhy : c.interruption v.clock = some .deadlineExceeded := by decide
  have hafter : ∀ u ∈ ([] : List (World Unit)), v.clock.Later u.clock := fun _ h => nomatch h
  obtain ⟨-, how, hending, -, hiff⟩ := broken_off_iff hx hsuspended hwhy hafter hdone
  have hstop : (trace 9 i c "run" ByteArray.empty slow [slow, v]).ending.map
      (fun how => (how.stop?, how.isAllocatorLimit)) = some (some (.trap .interrupt), false) := by
    decide +kernel
  have hstopped : how = .stopped (.trap .interrupt) := by
    rw [show (trace 9 i c "run" ByteArray.empty slow [slow, v]).ending = some how from hending]
      at hstop
    cases how with
    | stopped stop => cases hstop; rfl
    | unallocated stop => cases hstop
    | _ => cases hstop
  exact ⟨r, hdone, hiff.mpr ⟨rfl, hstopped⟩⟩

/-- A guest that returns an empty result is not broken off when its request is cancelled while it
waits: its caller gets the result, and its instance is used again. -/
theorem heedless_is_not_broken_off :
    let i : Instance :=
      { id := 1, body := heedless #[.plain (.const .i64 0), .ret], guest := .blank }
    let c : Context := { request := .given "", token := some 7 }
    let v := (slow.advance 20).cancel 7
    (∃ x t call, (course 9 i c "run" ByteArray.empty slow [slow]).2.work? = some x ∧
      Suspended x t call v.clock) ∧
    c.interruption v.clock = some .canceled ∧
    (course 9 i c "run" ByteArray.empty slow [slow, v]).2 = .ended (.ok ByteArray.empty) ∧
    (course 9 i c "run" ByteArray.empty slow [slow, v]).1.isFaulted = false ∧
    ¬ BrokenOff (effectiveTimeout c slow.clock i.body.execution.timeoutMs.toNat) .canceled
      (course 9 i c "run" ByteArray.empty slow [slow, v]).1 (.ok ByteArray.empty) := by
  intro i c v
  have hsuspended := suspended_of_due? v.clock 50
    (s := (course 9 i c "run" ByteArray.empty slow [slow]).2) (by decide +kernel) (by decide)
  have hempty : (course 9 i c "run" ByteArray.empty slow [slow, v]).2.result?.any
      (fun r => r.toOption.any fun bytes => bytes.size == 0) = true := by decide +kernel
  have hdone : (course 9 i c "run" ByteArray.empty slow [slow, v]).2 =
      .ended (.ok ByteArray.empty) := by
    generalize (course 9 i c "run" ByteArray.empty slow [slow, v]).2 = s at hempty
    cases s with
    | ended r => cases r with
      | ok bytes =>
        have hsize : bytes.size = 0 := beq_iff_eq.mp hempty
        rw [ByteArray.size_eq_zero_iff.mp hsize]
      | error e => cases hempty
    | _ => cases hempty
  exact ⟨hsuspended, by decide, hdone, by decide +kernel, fun h => nomatch h.result⟩

end Call
end FunctionHost

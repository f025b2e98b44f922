import FunctionHost.Proofs.Guest.Ending

/-!
# Limits of fuel and time

The guest code that the host runs for a call is the allocator that finds a place for the payload,
and the entrypoint.  Either is stopped when its fuel is used up, or when the epoch comes to the
deadline of the call.

An entrypoint that is stopped so ends its call with the error of that limit.  An allocator that is
stopped so ends its call, too, but with the failure of an allocator, whatever stopped it.  So the
error of a call tells by which limit it was ended **if and only if** that limit was not met while
the allocator looked for a place for the payload (`Call.classified_iff`).
-/
namespace FunctionHost

variable {σ : Type}

/-- Whether guest code was stopped by a limit. -/
def Stop.isLimit : Stop → Bool
  | .trap .outOfFuel | .trap .interrupt => true
  | _ => false

/-- An entrypoint that was stopped ends its call with the error of a limit if a limit stopped it. -/
theorem Stop.isResourceLimit_error (s : Stop) (timeoutMs : Nat) :
    (s.error timeoutMs).isResourceLimit = s.isLimit := by
  cases s with
  | trap t => cases t <;> rfl
  | exited status => rfl
  | refused reason => rfl

namespace Call
namespace Ending

/-- Why guest code that ran for a call was stopped, if that ended it: the allocator that was to find
a place for the payload, or the entrypoint. -/
def stop? : Ending → Option Stop
  | .unallocated stop | .stopped stop => some stop
  | _ => none

/-- **Whether a call was ended by a limit** of fuel or time, be it that the time of its request was
over. -/
def isLimit : Ending → Bool
  | .interrupted .deadlineExceeded => true
  | how => how.stop?.any Stop.isLimit

/-- Whether a limit was met while the allocator looked for a place for the payload. -/
def isAllocatorLimit : Ending → Bool
  | .unallocated stop => stop.isLimit
  | _ => false

variable {how : Ending} {b : Body} {entrypoint : String}

/-- **A call returns the error of a limit** if it was ended by one, but not while the allocator
ran. -/
theorem isResourceLimit_outcome (hproper : how.Proper b entrypoint) (timeoutMs : Nat) :
    (∃ e, how.outcome timeoutMs = .error e ∧ e.isResourceLimit = true) ↔
      how.isLimit = true ∧ how.isAllocatorLimit = false := by
  have herror (e : HostError) (flag : Bool) (h : e.isResourceLimit = flag) :
      (∃ e', (Except.error e : Result) = .error e' ∧ e'.isResourceLimit = true) ↔ flag = true := by
    subst h
    exact ⟨(fun ⟨_, he, h⟩ => by cases he; exact h), fun h => ⟨e, rfl, h⟩⟩
  cases how with
  | refused => exact (herror _ false rfl).trans (by decide)
  | missing name => exact (herror _ false rfl).trans (by simp [isLimit, stop?])
  | interrupted why =>
    cases why with
    | canceled => exact (herror _ false rfl).trans (by decide)
    | deadlineExceeded => exact (herror _ true rfl).trans (by decide)
  | unplaced e =>
    obtain ⟨reason, rfl⟩ := hproper
    exact (herror _ false rfl).trans (by simp [isLimit, stop?])
  | unallocated stop =>
    refine (herror _ false rfl).trans ?_
    show false = true ↔ stop.isLimit = true ∧ stop.isLimit = false
    cases stop.isLimit <;> decide
  | stopped stop =>
    exact (herror _ _ (stop.isResourceLimit_error timeoutMs)).trans (iff_self_and.mpr fun _ => rfl)
  | answered m word =>
    refine ⟨fun ⟨e, he, hlimit⟩ => ?_, fun h => nomatch h.1⟩
    have hmeans : Says m word (.error e) := he ▸ says_decode m word
    obtain ⟨text, rfl⟩ | ⟨reason, rfl⟩ := hmeans.error <;> cases hlimit

end Ending

/-- **Whether a result tells by which limit its call was ended**, if by any. -/
structure Classified (timeoutMs : Nat) (how : Ending) (r : Result) : Prop where
  /-- Guest code used its fuel up. -/
  fuel : how.stop? = some (.trap .outOfFuel) → r = .error .fuelExhausted
  /-- The epoch came to the deadline of the call. -/
  time : how.stop? = some (.trap .interrupt) → r = .error (.executionTimeout timeoutMs)
  /-- The errors of limits are those of calls that were ended by a limit. -/
  limit : (∃ e, r = .error e ∧ e.isResourceLimit = true) ↔ how.isLimit = true

variable {how : Ending} {b : Body} {rounds : Nat} {i : Instance} {c : Context}
  {entrypoint : String} {payload : Bytes} {w : World σ} {later : List (World σ)}

/-- **An allocator that met a limit is not told apart from one that failed.** -/
theorem Ending.outcome_of_isAllocatorLimit (h : how.isAllocatorLimit = true) (timeoutMs : Nat) :
    ∃ stop, how = .unallocated stop ∧ stop.isLimit = true ∧
      how.outcome timeoutMs = .error (Allocation.stopped stop) := by
  cases how with
  | unallocated stop => exact ⟨stop, rfl, h, rfl⟩
  | _ => cases h

/-- **Guest code that met a limit** ends its call with the error of that limit, if it was not the
allocator. -/
theorem Ending.outcome_of_stop? {stop : Stop} (h : how.stop? = some stop)
    (hlimit : stop.isLimit = true) (hallocator : how.isAllocatorLimit = false) (timeoutMs : Nat) :
    how.outcome timeoutMs = .error (stop.error timeoutMs) := by
  cases how with
  | unallocated stop' =>
    obtain rfl : stop' = stop := Option.some.inj h
    exact Bool.noConfusion (hlimit.symm.trans hallocator)
  | stopped stop' =>
    obtain rfl : stop' = stop := Option.some.inj h
    rfl
  | _ => cases h

theorem Ending.classified_iff_not_allocator (hproper : how.Proper b entrypoint) (timeoutMs : Nat) :
    Classified timeoutMs how (how.outcome timeoutMs) ↔ how.isAllocatorLimit = false := by
  have hlimit := isResourceLimit_outcome hproper timeoutMs
  refine ⟨fun h => Bool.eq_false_iff.mpr fun hallocator => ?_, fun hallocator => ?_⟩
  · -- The call was ended by a limit, and its error is not that of one.
    have hended : how.isLimit = true := by
      obtain ⟨stop, rfl, hstop, -⟩ := outcome_of_isAllocatorLimit hallocator timeoutMs
      exact hstop
    exact Bool.noConfusion (hallocator.symm.trans (hlimit.mp (h.limit.mpr hended)).2)
  · exact ⟨fun hstop => outcome_of_stop? hstop rfl hallocator timeoutMs,
      fun hstop => outcome_of_stop? hstop rfl hallocator timeoutMs,
      hlimit.trans (and_iff_left hallocator)⟩

/-- **The error of a call tells by which limit it was ended, unless the allocator met it.**  For
every call that is over, whatever its guest and others did: if its guest code used its fuel up the
call returns that, if the epoch came to its deadline it returns a timeout with the time that the
call had, and it returns the error of a limit just when it was ended by one, **if and only if** no
limit was met while the allocator looked for a place for the payload.  If one was, the call returns
the failure of an allocator, with the trap as its code. -/
theorem classified_iff {r : Result}
    (hdone : (course rounds i c entrypoint payload w later).2 = .ended r) :
    ∃ how, (trace rounds i c entrypoint payload w later).ending = some how ∧
      (Classified (effectiveTimeout c w.clock i.body.execution.timeoutMs.toNat) how r ↔
        how.isAllocatorLimit = false) ∧
      (how.isAllocatorLimit = true →
        ∃ stop, how = .unallocated stop ∧ r = .error (Allocation.stopped stop)) := by
  obtain ⟨how, hending, rfl, -, -⟩ := course_ended hdone
  refine ⟨how, hending, Ending.classified_iff_not_allocator (trace_proper hending) _, fun h => ?_⟩
  obtain ⟨stop, hstop, -, houtcome⟩ := Ending.outcome_of_isAllocatorLimit h _
  exact ⟨stop, hstop, houtcome⟩

/-- A guest whose functions never return, the allocator among them. -/
def endless : Body :=
  { Body.relay with
    program :=
      { Body.relay.program with
        code := #[⟨Body.allocatorType, #[], #[.loopHead, .branch ⟨0, 0, 0⟩]⟩,
          ⟨Body.entrypointType, #[], #[.loopHead, .branch ⟨0, 0, 0⟩]⟩] } }

/-- An instance of it with a little fuel. -/
def tired : Instance := { id := 1, body := endless, guest := Guest.blank.refuel 10 }

/-- Its entrypoint uses the fuel up, and its caller is told so. -/
theorem tired_entrypoint_is_classified :
    let w := World.recording
    (course 9 tired { request := .given "" } "run" ByteArray.empty w [w]).2 =
      .ended (.error .fuelExhausted) := by
  intro w
  obtain ⟨r, hdone⟩ := Standing.ended_of_result?
    (s := (course 9 tired { request := .given "" } "run" ByteArray.empty w [w]).2)
    (by decide +kernel)
  obtain ⟨how, hending, hiff, -⟩ := classified_iff hdone
  have hstop : (trace 9 tired { request := .given "" } "run" ByteArray.empty w [w]).ending.map
      (fun how => (how.stop?, how.isAllocatorLimit)) = some (some (.trap .outOfFuel), false) := by
    decide +kernel
  rw [hending] at hstop
  obtain ⟨hfuel, hallocator⟩ := Prod.mk.inj (Option.some.inj hstop)
  rw [hdone, (hiff.mpr hallocator).fuel hfuel]

/-- Its allocator uses the fuel up, and its caller is not told so. -/
theorem tired_allocator_is_not_classified :
    let w := World.recording
    let t := trace 9 tired { request := .given "" } "run" (.mk #[7]) w [w]
    ∃ how r, t.ending = some how ∧ how.stop? = some (.trap .outOfFuel) ∧
      (course 9 tired { request := .given "" } "run" (.mk #[7]) w [w]).2 = .ended r ∧
      r = .error (.executionFailed "guest allocator failed: <trap>" (some "OutOfFuel")) ∧
      r ≠ .error .fuelExhausted := by
  intro w t
  obtain ⟨r, hdone⟩ := Standing.ended_of_result?
    (s := (course 9 tired { request := .given "" } "run" (.mk #[7]) w [w]).2) (by decide +kernel)
  obtain ⟨how, hending, rfl, -, -⟩ := course_ended hdone
  have hstop : t.ending.map (fun how => (how.stop?, how.isAllocatorLimit)) =
      some (some (.trap .outOfFuel), true) := by
    decide +kernel
  rw [show t.ending = some how from hending] at hstop
  obtain ⟨hfuel, hallocator⟩ := Prod.mk.inj (Option.some.inj hstop)
  obtain ⟨stop, rfl, -, -⟩ := Ending.outcome_of_isAllocatorLimit hallocator 0
  obtain rfl : stop = .trap .outOfFuel := Option.some.inj hfuel
  exact ⟨_, _, hending, rfl, hdone, rfl, (fun h => nomatch h)⟩

end Call
end FunctionHost

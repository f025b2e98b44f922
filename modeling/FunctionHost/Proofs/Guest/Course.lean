import FunctionHost.Proofs.Guest.Frame
import FunctionHost.Proofs.Guest.Request

/-!
# The course of a call

A call begins in one world and is taken further in others, turn by turn, on one instance.  Its
**course** is just that, whoever has the instance and whatever else goes on in between.

What a call ends with is its own (`isOfCall`): it never reads as if a module, an instance or the
server were missing.
-/
namespace FunctionHost

variable {σ : Type}

/-- Whether an error can be what a call ends with. -/
def HostError.isOfCall : HostError → Bool
  | .entrypointNotFound _ | .executionTimeout _ | .fuelExhausted | .executionFailed _ _
  | .memoryFault _ | .canceled => true
  | _ => false

namespace Call

/-- A result that a call can end with. -/
def Own (r : Result) : Prop := ∀ e, r = .error e → e.isOfCall = true

theorem own_ok (bytes : Bytes) : Own (.ok bytes) := fun _ h => nomatch h

theorem own_error {e : HostError} (h : e.isOfCall = true) : Own (.error e) := by
  rintro _ ⟨⟩
  exact h

theorem own_span {start len size : Nat} {e : HostError}
    (h : Region.span start len size = .error e) : e.isOfCall = true := by
  unfold Region.span at h
  dsimp only at h
  split at h
  · cases h
    rfl
  · cases h

theorem own_read (m : Wasm.Memory) (ptr len : UInt32) : Own (Region.read m ptr len) := by
  intro e h
  rw [Region.read, Region.checked] at h
  cases hs : Region.span ptr.toNat len.toNat m.size with
  | error e' =>
    rw [hs] at h
    cases h
    exact own_span hs
  | ok r =>
    rw [hs] at h
    cases h

theorem own_decode (m : Wasm.Memory) (word : Wasm.Word) : Own (decode m word) := by
  unfold decode
  split
  · split
    · exact own_ok _
    · exact own_read m _ _
  · rename_i ptr len _
    have hread := own_read m ptr len
    cases h : Region.read m ptr len with
    | error e => exact own_error (hread e h)
    | ok bytes => exact own_error rfl
  · exact own_error rfl

theorem isOfCall_stop (s : Stop) (timeoutMs : Nat) : (s.error timeoutMs).isOfCall = true := by
  unfold Stop.error
  split <;> rfl

theorem isOfCall_interrupted (timeoutMs : Nat) (why : Interruption) :
    (interrupted timeoutMs why).isOfCall = true := by
  cases why <;> rfl

theorem isOfCall_place {m : Wasm.Memory} {result : Except Stop (List Wasm.Word)} {bytes : Bytes}
    {e : HostError} (h : Allocation.place m result bytes = .error e) : e.isOfCall = true := by
  have hpointer : ∀ e, Allocation.pointer result = .error e → e.isOfCall = true := by
    intro e h
    unfold Allocation.pointer at h
    split at h
    · cases h
      rfl
    · dsimp only at h
      split at h
      · cases h
        rfl
      · cases h
  unfold Allocation.place at h
  cases hp : Allocation.pointer result with
  | error e' =>
    rw [hp] at h
    cases h
    exact hpointer e hp
  | ok ptr =>
    rw [hp] at h
    -- Writing fails only where the region does not lie inside memory.
    cases hs : Region.span ptr.toNat bytes.size m.size with
    | error e' =>
      have hw : Region.write m ptr bytes = .error e' := by rw [Region.write, hs]; rfl
      simp only [hw, bind, Except.bind] at h
      cases h
      exact own_span hs
    | ok r =>
      have hw : Region.write m ptr bytes = .ok (m.blit r.start bytes) := by
        rw [Region.write, hs]; rfl
      simp only [hw, bind, Except.bind] at h
      cases h

/-! ## Turns -/

theorem Hindered.own {w : World σ} {i : Instance} {c : Context} {payload : Bytes} {e : HostError}
    (h : Hindered w i c payload e) : Own (.error e) := by
  cases h with
  | interrupted => exact own_error (isOfCall_interrupted _ _)
  | tooLong | unallocatable => exact own_error rfl

theorem begin_own {w : World σ} {i : Instance} {c : Context} {entrypoint : String}
    {payload : Bytes} {r : Result} (h : (begin w i c entrypoint payload).2.2 = .ended r) :
    Own r := by
  have hturn := begins w i c entrypoint payload
  generalize begin w i c entrypoint payload = turn at h hturn
  cases hturn with
  | refused | missing =>
    cases h
    exact own_error rfl
  | hindered _ _ hwhy =>
    cases h
    exact hwhy.own
  | entered | allocating => cases h

theorem Concludes.own {i : Instance} {c : Call} {v : World σ} {g : Guest}
    {s : Standing Activity Activity.Result} {broken : Bool} {r : Result}
    (h : Concludes i c v g s broken r) : Own r := by
  cases h with
  | interrupted => exact own_error (isOfCall_interrupted _ _)
  | answered => exact own_decode _ _
  | stopped => exact own_error (isOfCall_stop _ _)
  | unplaced _ hplace => exact own_error (isOfCall_place hplace)

theorem proceed_own {rounds : Nat} {w : World σ} {i : Instance} {c : Call} {r : Result}
    (h : (proceed rounds w i c).2.2 = .ended r) : Own r := by
  have hturn := proceeds rounds w i c
  generalize proceed rounds w i c = turn at h hturn
  generalize Activity.proceed i.body rounds w i.guest c.activity = run at hturn
  cases hturn with
  | busy | waiting | entered => cases h
  | concluded hends =>
    cases h
    exact hends.own

/-! ## Courses -/

/-- A turn of a call, if it is not over. -/
def further (rounds : Nat) (s : Instance × Standing Call Result) (w : World σ) :
    Instance × Standing Call Result :=
  match s.2.work? with
  | some c => (proceed rounds w s.1 c).2
  | none => s

/-- **The course of a call** on an instance: it begins in one world and is taken further in
others. -/
def course (rounds : Nat) (i : Instance) (c : Context) (entrypoint : String) (payload : Bytes)
    (w : World σ) (later : List (World σ)) : Instance × Standing Call Result :=
  later.foldl (further rounds) (begin w i c entrypoint payload).2

variable {rounds : Nat} {i : Instance} {c : Context} {entrypoint : String} {payload : Bytes}
  {w : World σ} {later : List (World σ)}

/-- One more turn. -/
theorem course_snoc (v : World σ) : course rounds i c entrypoint payload w (later ++ [v]) =
    further rounds (course rounds i c entrypoint payload w later) v :=
  List.foldl_append

/-- What a turn of a call keeps, the course of a call keeps. -/
theorem course_induction {I : Instance × Standing Call Result → Prop}
    (hbegin : I (begin w i c entrypoint payload).2)
    (hstep : ∀ (v : World σ) j x, (∃ s : Standing Call Result, I (j, s) ∧ s.work? = some x) →
      I (proceed rounds v j x).2) : I (course rounds i c entrypoint payload w later) := by
  suffices hall : ∀ s, I s → I (later.foldl (further rounds) s) from hall _ hbegin
  induction later with
  | nil => exact fun _ hs => hs
  | cons v later ih =>
    intro s hs
    refine ih _ ?_
    obtain ⟨j, standing⟩ := s
    rw [further]
    split
    · rename_i x hx
      exact hstep v j x ⟨standing, hs, hx⟩
    · exact hs

/-- It is the same instance all the time. -/
theorem course_same : (course rounds i c entrypoint payload w later).1.SameAs i := by
  refine course_induction (I := fun s => s.1.SameAs i) (begin_same w i c entrypoint payload) ?_
  rintro v j x ⟨s, hj, -⟩
  exact (proceed_same rounds v j x).trans hj

/-- **What a call ends with is its own.** -/
theorem course_own {r : Result} (h : (course rounds i c entrypoint payload w later).2 = .ended r) :
    Own r := by
  have hall : ∀ r, (course rounds i c entrypoint payload w later).2 = .ended r → Own r :=
    course_induction (I := fun s => ∀ r, s.2 = .ended r → Own r) (fun r => begin_own)
      fun v j x _ r => proceed_own
  exact hall r h

end Call
end FunctionHost

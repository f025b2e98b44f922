import FunctionHost.Proofs.Guest.Answer
import FunctionHost.Proofs.Guest.Course

/-!
# How a call ends

What a call returns does not tell how it came to that: a guest that reports a failure, a trap and an
allocator that was stopped share one kind of error, and an answer can be fine although the guest was
spoilt on the way.  So the turns of a call are followed, and what ended it is noted where it happens
(`Ending`), beside whether an answer to one of its host calls could not be placed (`Trace`).  Both
are read off what runs, not off what the host makes of it.

What the host makes of it is then a function of the two: the result (`Ending.outcome`), and whether
the instance is faulted (`Call.course_follows`).  A call faults its instance **exactly when it
should** (`Call.faults_exactly`).

What an entrypoint answers is one word.  `Call.Says` tells in numbers what it means.
-/
namespace FunctionHost

open Wasm (Word)

variable {σ : Type}

/-- What has a result is over. -/
theorem Standing.ended_of_result? {α ρ : Type} {s : Standing α ρ} (h : s.result?.isSome = true) :
    ∃ r, s = .ended r := by
  cases s with
  | ended r => exact ⟨r, rfl⟩
  | _ => cases h

/-! ## What a word says -/

namespace Packed

/-- The pointer in a word. -/
def pointer (word : Word) : Nat := word.toNat % 0x8000000000000000 / 0x100000000

/-- The length in a word. -/
def length (word : Word) : Nat := word.toNat % 0x100000000

/-- Whether a word has its highest bit set, and so is negative as a signed number. -/
def Negative (word : Word) : Prop := 0x8000000000000000 ≤ word.toNat

/-- Whether the region that a word names lies inside a memory. -/
def Fits (m : Wasm.Memory) (word : Word) : Prop := pointer word + length word ≤ m.size

instance (word : Word) : Decidable (Negative word) :=
  inferInstanceAs (Decidable (0x8000000000000000 ≤ word.toNat))

instance (m : Wasm.Memory) (word : Word) : Decidable (Fits m word) :=
  inferInstanceAs (Decidable (pointer word + length word ≤ m.size))

/-- The bytes of the region that a word names. -/
def shown (m : Wasm.Memory) (word : Word) : Bytes := m.region (pointer word) (length word)

/-- The refusal of a region outside memory. -/
def outside (m : Wasm.Memory) (word : Word) : HostError :=
  .memoryFault ("range " ++ hexAddress (pointer word) ++ ".."
    ++ hexAddress (pointer word + length word) ++ " exceeds memory size " ++ hexAddress m.size)

/-- **Whether a word reports a failure**: it is minus one, or it names an error document that lies
inside memory. -/
def Reports (m : Wasm.Memory) (word : Word) : Prop :=
  word = failure ∨ Negative word ∧ Fits m word

end Packed

namespace Allocation

/-- What an allocator that was not stopped answers is a place, or a fault of the guest's memory. -/
theorem isMemoryFault_place {m : Wasm.Memory} {results : List Word} {bytes : Bytes} {e : HostError}
    (h : place m (.ok results) bytes = .error e) : ∃ reason, e = .memoryFault reason := by
  have hwrite (ptr : UInt32) (e : HostError) (h : Region.write m ptr bytes = .error e) :
      ∃ reason, e = .memoryFault reason := by
    unfold Region.write Region.span at h
    dsimp only at h
    split at h
    · cases h
      exact ⟨_, rfl⟩
    · cases h
  unfold place pointer at h
  dsimp only at h
  split at h
  · cases h
    exact ⟨_, rfl⟩
  · dsimp only [bind, Except.bind] at h
    cases hplace : Region.write m (results.head?.getD 0).toUInt32 bytes with
    | error e' =>
      rw [hplace] at h
      cases h
      exact hwrite _ _ hplace
    | ok m' =>
      rw [hplace] at h
      cases h

end Allocation

namespace Call

open Packed (pointer length Negative Fits shown outside Reports)

/-- **What the word that an entrypoint answers says** to the caller, given the guest's memory.  The
six cases exclude each other, and one of them always applies. -/
structure Says (m : Wasm.Memory) (word : Word) (r : Result) : Prop where
  /-- Minus one is failure without a document. -/
  failed : word = Packed.failure →
    r = .error (.execution "guest reported failure without an error document")
  /-- A length of zero is an empty result, whatever the pointer. -/
  empty : ¬ Negative word → length word = 0 → r = .ok ByteArray.empty
  /-- A region inside memory is a result. -/
  result : ¬ Negative word → length word ≠ 0 → Fits m word → r = .ok (shown m word)
  /-- A region outside memory is none. -/
  missed : ¬ Negative word → length word ≠ 0 → ¬ Fits m word → r = .error (outside m word)
  /-- An error document inside memory is told as a text. -/
  document : Negative word → word ≠ Packed.failure → Fits m word →
    r = .error (.execution (Utf8.decodeLossy (shown m word)))
  /-- An error document outside memory is none. -/
  lost : Negative word → word ≠ Packed.failure → ¬ Fits m word → r = .error (outside m word)

variable {m : Wasm.Memory} {word : Word}

/-- The region that two numbers name is read as a whole, or not at all. -/
theorem read_ofNat (m : Wasm.Memory) {start len : Nat} (hstart : start < 0x100000000)
    (hlen : len < 0x100000000) :
    Region.read m (.ofNat start) (.ofNat len) =
      if start + len ≤ m.size then .ok (m.region start len)
      else .error (.memoryFault ("range " ++ hexAddress start ++ ".." ++ hexAddress (start + len)
        ++ " exceeds memory size " ++ hexAddress m.size)) := by
  have hs : (UInt32.ofNat start).toNat = start := UInt32.toNat_ofNat_of_lt' hstart
  have hl : (UInt32.ofNat len).toNat = len := UInt32.toNat_ofNat_of_lt' hlen
  split
  · rename_i hfits
    rw [Region.read_of_le (by rw [hs, hl]; exact hfits), hs, hl]
  · rename_i hfits
    rw [Region.read, Region.checked, Region.span, hs, hl, if_pos (Nat.lt_of_not_le hfits)]
    rfl

theorem pointer_lt (word : Word) : pointer word < 0x100000000 := by
  unfold pointer
  omega

theorem length_lt (word : Word) : length word < 0x100000000 := Nat.mod_lt _ (by decide)

theorem read_word (m : Wasm.Memory) (word : Word) :
    Region.read m (.ofNat (pointer word)) (.ofNat (length word)) =
      if pointer word + length word ≤ m.size then .ok (shown m word)
      else .error (outside m word) :=
  read_ofNat m (pointer_lt word) (length_lt word)

/-- What a word that is not negative is read as. -/
theorem decode_of_not_negative (h : ¬ Negative word) : decode m word =
    if length word = 0 then .ok ByteArray.empty
    else Region.read m (.ofNat (pointer word)) (.ofNat (length word)) := by
  have hlt : word.toNat < 0x8000000000000000 := Nat.lt_of_not_le h
  have hpointer : pointer word = word.toNat / 0x100000000 := by
    unfold pointer
    rw [Nat.mod_eq_of_lt hlt]
  have hlength : UInt32.ofNat (length word) = 0 ↔ length word = 0 := by
    rw [← UInt32.toNat_inj, UInt32.toNat_ofNat_of_lt' (length_lt word)]
    rfl
  rw [decode, Packed.decode_of_lt hlt, hpointer]
  show (if UInt32.ofNat (length word) = 0 then _ else _) = _
  simp only [hlength]
  rfl

/-- What a negative word is read as. -/
theorem decode_of_negative (h : Negative word) (hne : word ≠ Packed.failure) : decode m word =
    match Region.read m (.ofNat (pointer word)) (.ofNat (length word)) with
    | .ok document => .error (.execution (Utf8.decodeLossy document))
    | .error e => .error e := by
  rw [decode, Packed.decode_of_le h hne]
  show (Region.read m (.ofNat (pointer word)) (.ofNat (length word)) >>= _) = _
  cases Region.read m (.ofNat (pointer word)) (.ofNat (length word)) <;> rfl

/-- **What is read off a word is what it says.** -/
theorem says_decode (m : Wasm.Memory) (word : Word) : Says m word (decode m word) := by
  have hread := read_word m word
  refine ⟨fun hfailed => ?_, fun hn hzero => ?_, fun hn hlen hfits => ?_, fun hn hlen hfits => ?_,
    fun hn hne hfits => ?_, fun hn hne hfits => ?_⟩
  · subst hfailed
    rfl
  · rw [decode_of_not_negative hn, if_pos hzero]
  · rw [decode_of_not_negative hn, if_neg hlen, hread.trans (if_pos hfits)]
  · rw [decode_of_not_negative hn, if_neg hlen, hread.trans (if_neg hfits)]
  · rw [decode_of_negative hn hne, hread.trans (if_pos hfits)]
  · rw [decode_of_negative hn hne, hread.trans (if_neg hfits)]

namespace Says

variable {r : Result}

/-- **A word says one thing only.** -/
theorem unique {r' : Result} (h : Says m word r) (h' : Says m word r') : r = r' := by
  by_cases hfailed : word = Packed.failure
  · rw [h.failed hfailed, h'.failed hfailed]
  by_cases hn : Negative word
  · by_cases hfits : Fits m word
    · rw [h.document hn hfailed hfits, h'.document hn hfailed hfits]
    · rw [h.lost hn hfailed hfits, h'.lost hn hfailed hfits]
  · by_cases hzero : length word = 0
    · rw [h.empty hn hzero, h'.empty hn hzero]
    · by_cases hfits : Fits m word
      · rw [h.result hn hzero hfits, h'.result hn hzero hfits]
      · rw [h.missed hn hzero hfits, h'.missed hn hzero hfits]

/-- A failure that the guest reports is no fault of its memory. -/
theorem reported (h : Says m word r) (hr : Reports m word) :
    (∃ e, r = .error e) ∧ isMemoryFault r = false := by
  by_cases hfailed : word = Packed.failure
  · rw [h.failed hfailed]
    exact ⟨⟨_, rfl⟩, rfl⟩
  · obtain ⟨hn, hfits⟩ := hr.resolve_left hfailed
    rw [h.document hn hfailed hfits]
    exact ⟨⟨_, rfl⟩, rfl⟩

/-- Whatever else is an error is a region outside memory. -/
theorem not_reported (h : Says m word r) (hr : ¬ Reports m word) :
    isMemoryFault r = true ↔ ∃ e, r = .error e := by
  have hfailed : word ≠ Packed.failure := fun hfailed => hr (.inl hfailed)
  by_cases hn : Negative word
  · rw [h.lost hn hfailed fun hfits => hr (.inr ⟨hn, hfits⟩)]
    exact ⟨fun _ => ⟨_, rfl⟩, fun _ => rfl⟩
  · by_cases hzero : length word = 0
    · rw [h.empty hn hzero]
      exact ⟨(fun h => nomatch h), (fun ⟨_, h⟩ => nomatch h)⟩
    · by_cases hfits : Fits m word
      · rw [h.result hn hzero hfits]
        exact ⟨(fun h => nomatch h), (fun ⟨_, h⟩ => nomatch h)⟩
      · rw [h.missed hn hzero hfits]
        exact ⟨fun _ => ⟨_, rfl⟩, fun _ => rfl⟩

/-- **An answer is a fault of the guest's memory** if it is an error that the guest does not
report. -/
theorem isMemoryFault_iff (h : Says m word r) :
    isMemoryFault r = true ↔ (∃ e, r = .error e) ∧ ¬ Reports m word := by
  by_cases hr : Reports m word
  · rw [(h.reported hr).2]
    exact ⟨(fun h => nomatch h), fun h => absurd hr h.2⟩
  · rw [h.not_reported hr]
    exact ⟨fun he => ⟨he, hr⟩, fun he => he.1⟩

/-- What a word says is a failure of the guest or a fault of its memory, if it is an error. -/
theorem error {e : HostError} (h : Says m word (.error e)) :
    (∃ text, e = .execution text) ∨ ∃ reason, e = .memoryFault reason := by
  by_cases hfailed : word = Packed.failure
  · exact .inl ⟨_, Except.error.inj (h.failed hfailed)⟩
  by_cases hn : Negative word
  · by_cases hfits : Fits m word
    · exact .inl ⟨_, Except.error.inj (h.document hn hfailed hfits)⟩
    · exact .inr ⟨_, Except.error.inj (h.lost hn hfailed hfits)⟩
  · by_cases hzero : length word = 0
    · cases h.empty hn hzero
    · by_cases hfits : Fits m word
      · cases h.result hn hzero hfits
      · exact .inr ⟨_, Except.error.inj (h.missed hn hzero hfits)⟩

end Says

/-! ## Endings -/

/-- **What ends a call.** -/
inductive Ending where
  /-- The instance is faulted. -/
  | refused
  /-- The module has no entrypoint of that name and type. -/
  | missing (entrypoint : String)
  /-- The request is cancelled, or its time is over. -/
  | interrupted (why : Interruption)
  /-- There is no place for the payload: it is too long, or the allocator answers with none. -/
  | unplaced (e : HostError)
  /-- The allocator was stopped while it looked for a place. -/
  | unallocated (stop : Stop)
  /-- The entrypoint was stopped. -/
  | stopped (stop : Stop)
  /-- The entrypoint answered with a word, and left a memory. -/
  | answered (m : Wasm.Memory) (word : Word)
  deriving Inhabited

namespace Ending

/-- **What a call returns** that may take some milliseconds and ended so. -/
def outcome (timeoutMs : Nat) : Ending → Result
  | .refused => .error Instance.faultedError
  | .missing entrypoint => .error (.entrypointNotFound entrypoint)
  | .interrupted why => .error (Call.interrupted timeoutMs why)
  | .unplaced e => .error e
  | .unallocated stop => .error (Allocation.stopped stop)
  | .stopped stop => .error (stop.error timeoutMs)
  | .answered m word => decode m word

/-- Whether a guest is of no use any more after a call that ended so, given whether it is
poisoned. -/
def breaks (poisoned : Bool) : Ending → Bool
  | .missing _ => false
  | .answered m word => poisoned || isMemoryFault (decode m word)
  | _ => true

/-- **Whether it was the guest that reported a failure.** -/
def Reported : Ending → Prop
  | .answered m word => Reports m word
  | _ => False

/-- The word that the entrypoint answered with, if it was run to its end. -/
def word? : Ending → Option Word
  | .answered _ word => some word
  | _ => none

theorem reported_of_word? {how : Ending} (h : how.word? = some Packed.failure) :
    how.Reported := by
  cases how with
  | answered m word => exact .inl (Option.some.inj h)
  | _ => cases h

end Ending

/-- What ends a call as soon as it begins, if anything does. -/
def firstEnding? (w : World σ) (i : Instance) (c : Context) (entrypoint : String)
    (payload : Bytes) : Option Ending :=
  if i.isFaulted then some .refused
  else if (i.body.function? entrypoint Body.entrypointType).isNone then some (.missing entrypoint)
  else
    match c.interruption w.clock with
    | some why => some (.interrupted why)
    | none =>
      if payload.size = 0 then none
      else if Allocation.maxLength < payload.size then
        some (.unplaced (Allocation.tooLong payload.size))
      else if (i.body.function? i.body.execution.allocateExport Body.allocatorType).isNone then
        some (.unplaced Allocation.null)
      else none

/-- What ends a call when the function that runs for it has ended, if anything does. -/
def lastEnding? (m : Wasm.Memory) (c : Call) : Activity.Result → Option Ending
  | .error stop => some (if c.entered then .stopped stop else .unallocated stop)
  | .ok results =>
    if c.entered then some (.answered m (results.head?.getD Packed.failure))
    else
      match Allocation.place m (.ok results) c.payload with
      | .error e => some (.unplaced e)
      | .ok _ => none

/-- **What ends a call in a turn**, if anything does. -/
def ending? (rounds : Nat) (w : World σ) (i : Instance) (c : Call) : Option Ending :=
  match Activity.proceed i.body rounds w i.guest c.activity with
  | (_, _, .busy _) => none
  | (w, _, .blocked _) => (c.context.interruption w.clock).map .interrupted
  | (_, g, .ended result) => lastEnding? (g.shared i.body) c result

/-! ## Traces -/

/-- **What is noted of a call**, turn by turn. -/
structure Trace where
  /-- What ended it, if it is over. -/
  ending : Option Ending
  /-- Whether an answer to one of its host calls could not be placed in the guest. -/
  spoilt : Bool

/-- What is noted after a turn in a world. -/
def Trace.after (rounds : Nat) (t : Trace) (s : Instance × Standing Call Result) (w : World σ) :
    Trace :=
  match s.2.work? with
  | some c =>
    { ending := ending? rounds w s.1 c
      spoilt := t.spoilt || Activity.spoils s.1.body rounds w s.1.guest c.activity }
  | none => t

/-- The course of a call, and what is noted of it. -/
def noted (rounds : Nat) (i : Instance) (c : Context) (entrypoint : String) (payload : Bytes)
    (w : World σ) (later : List (World σ)) : (Instance × Standing Call Result) × Trace :=
  later.foldl (fun n v => (further rounds n.1 v, n.2.after rounds n.1 v))
    ((begin w i c entrypoint payload).2, ⟨firstEnding? w i c entrypoint payload, false⟩)

/-- **The trace of a call** over its course. -/
def trace (rounds : Nat) (i : Instance) (c : Context) (entrypoint : String) (payload : Bytes)
    (w : World σ) (later : List (World σ)) : Trace :=
  (noted rounds i c entrypoint payload w later).2

variable {rounds : Nat} {i : Instance} {c : Context} {entrypoint : String} {payload : Bytes}
  {w : World σ} {later : List (World σ)}

theorem noted_fst : (noted rounds i c entrypoint payload w later).1 =
    course rounds i c entrypoint payload w later := by
  unfold noted course
  generalize (begin w i c entrypoint payload).2 = s
  generalize (⟨firstEnding? w i c entrypoint payload, false⟩ : Trace) = t
  induction later generalizing s t with
  | nil => rfl
  | cons v later ih => exact ih _ _

/-- What a turn of a call keeps, with what is noted of it, its course keeps. -/
theorem trace_induction {I : Instance × Standing Call Result → Trace → Prop}
    (hbegin : I (begin w i c entrypoint payload).2 ⟨firstEnding? w i c entrypoint payload, false⟩)
    (hstep : ∀ (v : World σ) j s t x, s.work? = some x → I (j, s) t →
      I (proceed rounds v j x).2 (t.after rounds (j, s) v)) :
    I (course rounds i c entrypoint payload w later)
      (trace rounds i c entrypoint payload w later) := by
  suffices hall : ∀ n : (Instance × Standing Call Result) × Trace, I n.1 n.2 →
      let n' := later.foldl (fun n v => (further rounds n.1 v, n.2.after rounds n.1 v)) n
      I n'.1 n'.2 by
    rw [← noted_fst]
    exact hall _ hbegin
  induction later with
  | nil => exact fun _ hn => hn
  | cons v later ih =>
    rintro ⟨⟨j, s⟩, t⟩ hn
    refine ih _ ?_
    cases hs : s.work? with
    | some x =>
      have hfurther : further rounds (j, s) v = (proceed rounds v j x).2 := by
        simp only [further, hs]
      simp only [hfurther]
      exact hstep v j s t x hs hn
    | none =>
      have hfurther : further rounds (j, s) v = (j, s) := by simp only [further, hs]
      have hafter : t.after rounds (j, s) v = t := by simp only [Trace.after, hs]
      simp only [hfurther, hafter]
      exact hn

/-! ## What the host makes of an ending -/

/-- **What is so of a call that is followed**, on an instance that may have been poisoned before.
While it goes on there is no fault and nothing has ended it; when it is over it was ended by
something, which decides what it returns and whether the instance is faulted. -/
inductive Follows (poisoned : Bool) (timeoutMs : Nat) :
    Instance × Standing Call Result → Trace → Prop
  /-- The call goes on. -/
  | going {j : Instance} {s : Standing Call Result} {t : Trace} {x : Call}
      (hs : s.work? = some x) (hending : t.ending = none) (htimeout : x.timeoutMs = timeoutMs)
      (hfault : j.isFaulted = false) (hpoison : j.guest.isPoisoned = (poisoned || t.spoilt)) :
      Follows poisoned timeoutMs (j, s) t
  /-- The call is over. -/
  | finished {j : Instance} {r : Result} {t : Trace} (how : Ending)
      (hending : t.ending = some how) (hr : r = how.outcome timeoutMs)
      (hfault : j.isFaulted = how.breaks j.guest.isPoisoned)
      (hpoison : j.guest.isPoisoned = (poisoned || t.spoilt)) :
      Follows poisoned timeoutMs (j, .ended r) t

variable {j : Instance} {x : Call} {t : Trace} {how : Ending} {poisoned : Bool} {timeoutMs : Nat}

theorem Follows.of_ended {s : Instance × Standing Call Result} {r : Result} (hs : s.2 = .ended r)
    (hending : t.ending = some how) (hr : r = how.outcome timeoutMs)
    (hfault : s.1.isFaulted = how.breaks s.1.guest.isPoisoned)
    (hpoison : s.1.guest.isPoisoned = (poisoned || t.spoilt)) : Follows poisoned timeoutMs s t := by
  obtain ⟨j, standing⟩ := s
  obtain rfl : standing = .ended r := hs
  exact .finished how hending hr hfault hpoison

/-- A call that ends in a turn, as it is noted. -/
theorem follows_conclude {r : Result} {broken : Bool} (v : World σ) (fuel : Nat)
    (hfault : j.isFaulted = false) (hending : t.ending = some how)
    (hr : how.outcome timeoutMs = r)
    (hbreaks : ∀ p, how.breaks p = (broken || isMemoryFault r || p))
    (hpoison : j.guest.isPoisoned = (poisoned || t.spoilt)) :
    Follows poisoned timeoutMs (conclude v j fuel broken r).2 t := by
  refine .of_ended (conclude_ended ..) hending hr.symm ?_ ((conclude_poisoned ..).trans hpoison)
  rw [conclude_isFaulted, conclude_poisoned, hfault, hbreaks, Bool.false_or]
  rfl

/-- **Whatever hinders a call is noted** as what ended it. -/
theorem Hindered.noted {func : Nat} {e : HostError} (h : Hindered w i c payload e)
    (hfit : i.isFaulted = false)
    (hentry : i.body.function? entrypoint Body.entrypointType = some func) :
    ∃ how : Ending, firstEnding? w i c entrypoint payload = some how ∧
      how.outcome (effectiveTimeout c w.clock i.body.execution.timeoutMs.toNat) = .error e ∧
      ∀ p, how.breaks p = (true || isMemoryFault (.error e) || p) := by
  unfold firstEnding?
  simp only [hfit, hentry, Option.isNone_some, Bool.false_eq_true, if_false]
  cases h with
  | interrupted hover =>
    simp only [hover]
    exact ⟨_, rfl, rfl, fun _ => rfl⟩
  | tooLong hopen hsize hlong =>
    simp only [hopen, hsize, hlong, if_false, if_true]
    exact ⟨_, rfl, rfl, fun _ => rfl⟩
  | unallocatable hopen hsize hlong hfind =>
    simp only [hopen, hsize, hlong, hfind, if_false, Option.isNone_none, if_true]
    exact ⟨_, rfl, rfl, fun _ => rfl⟩

theorem follows_begin (w : World σ) (i : Instance) (c : Context) (entrypoint : String)
    (payload : Bytes) :
    Follows i.guest.isPoisoned (effectiveTimeout c w.clock i.body.execution.timeoutMs.toNat)
      (begin w i c entrypoint payload).2 ⟨firstEnding? w i c entrypoint payload, false⟩ := by
  have hpoison : (prepared w i c).isPoisoned = (i.guest.isPoisoned || false) :=
    (prepared_poisoned w i c).trans (Bool.or_false _).symm
  have hturn := begins w i c entrypoint payload
  generalize begin w i c entrypoint payload = turn at hturn ⊢
  cases hturn with
  | refused hfault =>
    exact .finished .refused (if_pos hfault) rfl hfault (Bool.or_false _).symm
  | missing hfit hentry =>
    refine .finished (.missing entrypoint) ?_ rfl hfit (Bool.or_false _).symm
    simp [firstEnding?, hfit, hentry]
  | hindered hfit hentry hwhy =>
    obtain ⟨how, hending, hr, hbreaks⟩ := hwhy.noted hfit hentry
    exact follows_conclude (j := { i with guest := prepared w i c }) _ _ hfit hending hr hbreaks
      hpoison
  | entered hfit hentry hopen hsize =>
    refine .going rfl ?_ rfl hfit hpoison
    simp [firstEnding?, hfit, hentry, hopen, hsize]
  | allocating hfit hentry hopen hsize hlong hfind =>
    refine .going rfl ?_ rfl hfit hpoison
    simp [firstEnding?, hfit, hentry, hopen, hsize, hlong, hfind]

/-- **What concludes a call is noted** as what ended it. -/
theorem Concludes.noted {rounds : Nat} {u v : World σ} {g : Guest}
    {s : Standing Activity Activity.Result} {broken : Bool} {r : Result}
    (h : Concludes j x u g s broken r)
    (hrun : Activity.proceed j.body rounds v j.guest x.activity = (u, g, s)) :
    ∃ how : Ending, ending? rounds v j x = some how ∧ how.outcome x.timeoutMs = r ∧
      ∀ p, how.breaks p = (broken || isMemoryFault r || p) := by
  unfold ending?
  rw [hrun]
  cases h with
  | interrupted hover =>
    simp only [hover, Option.map_some]
    exact ⟨_, rfl, rfl, fun _ => rfl⟩
  | answered hentered =>
    simp only [lastEnding?, hentered, if_true]
    exact ⟨_, rfl, rfl, fun _ => Bool.or_comm ..⟩
  | stopped hentered =>
    simp only [lastEnding?, hentered, if_true]
    exact ⟨_, rfl, rfl, fun _ => rfl⟩
  | @unplaced result _ hentered hplace =>
    simp only [lastEnding?, hentered, Bool.false_eq_true, if_false]
    cases result with
    | error stop =>
      cases hplace
      exact ⟨_, rfl, rfl, fun _ => rfl⟩
    | ok results =>
      simp only [Guest.shared, hplace]
      exact ⟨_, rfl, rfl, fun _ => rfl⟩

/-- **What one turn of a call does** to what is so of it. -/
theorem Follows.proceed {s : Standing Call Result} (h : Follows poisoned timeoutMs (j, s) t)
    (hs : s.work? = some x) (rounds : Nat) (v : World σ) :
    Follows poisoned timeoutMs (Call.proceed rounds v j x).2 (t.after rounds (j, s) v) := by
  cases h with
  | finished => cases hs
  | @going _ _ _ x' hs' hending htimeout hfault hpoison =>
    obtain rfl : x' = x := Option.some.inj (hs'.symm.trans hs)
    have hspoilt := Activity.proceed_poisoned j.body rounds v j.guest x'.activity
    rw [hpoison, Bool.or_assoc] at hspoilt
    have hafter : t.after rounds (j, s) v =
        ⟨ending? rounds v j x',
          t.spoilt || Activity.spoils j.body rounds v j.guest x'.activity⟩ := by
      simp only [Trace.after, hs]
    rw [hafter]
    -- What is noted of this turn is read off the same run of the guest.
    have hturn := proceeds rounds v j x'
    generalize Call.proceed rounds v j x' = turn at hturn ⊢
    generalize hrun : Activity.proceed j.body rounds v j.guest x'.activity = run at hturn hspoilt
    cases hturn with
    | busy => exact .going rfl (by rw [ending?, hrun]) htimeout hfault hspoilt
    | waiting hopen =>
      refine .going rfl ?_ htimeout hfault hspoilt
      simp only [ending?, hrun, hopen, Option.map_none]
    | @entered u g result ptr m hentered hplace =>
      refine .going rfl ?_ htimeout hfault hspoilt
      cases result with
      | error stop => cases hplace
      | ok results =>
        simp only [ending?, hrun, lastEnding?, hentered, Bool.false_eq_true, if_false,
          Guest.shared, hplace]
    | @concluded u g standing broken r hover =>
      obtain ⟨how, hnoted, hr, hbreaks⟩ := hover.noted hrun
      exact follows_conclude (j := { j with guest := g }) _ _ hfault hnoted (htimeout ▸ hr)
        hbreaks hspoilt

/-- **The whole course of a call follows its trace.** -/
theorem course_follows :
    Follows i.guest.isPoisoned (effectiveTimeout c w.clock i.body.execution.timeoutMs.toNat)
      (course rounds i c entrypoint payload w later)
      (trace rounds i c entrypoint payload w later) :=
  trace_induction (follows_begin w i c entrypoint payload)
    fun v _ _ _ _ hs h => h.proceed hs rounds v

/-- **A call that is over was ended by something**, which decides what it returns and whether its
instance is faulted. -/
theorem course_ended {r : Result}
    (h : (course rounds i c entrypoint payload w later).2 = .ended r) :
    let j := (course rounds i c entrypoint payload w later).1
    let t := trace rounds i c entrypoint payload w later
    ∃ how, t.ending = some how ∧
      r = how.outcome (effectiveTimeout c w.clock i.body.execution.timeoutMs.toNat) ∧
      j.guest.isPoisoned = (i.guest.isPoisoned || t.spoilt) ∧
      j.isFaulted = how.breaks j.guest.isPoisoned := by
  have hfollows : Follows _ _ (course rounds i c entrypoint payload w later)
      (trace rounds i c entrypoint payload w later) := course_follows
  generalize course rounds i c entrypoint payload w later = s at h hfollows
  obtain ⟨j, standing⟩ := s
  obtain rfl : standing = .ended r := h
  cases hfollows with
  | going hs => cases hs
  | finished how hending hr hfault hpoison => exact ⟨how, hending, hr, hpoison, hfault⟩

/-! ## When a call faults its instance -/

/-- What can be said of whatever ends a call: its entrypoint is missed only if it is not there, and
if there is no place for its payload, that is a fault of the guest's memory. -/
def Ending.Proper (b : Body) (entrypoint : String) : Ending → Prop
  | .missing _ => b.function? entrypoint Body.entrypointType = none
  | .unplaced e => ∃ reason, e = .memoryFault reason
  | _ => True

theorem proper_of_firstEnding? (h : firstEnding? w i c entrypoint payload = some how) :
    how.Proper i.body entrypoint := by
  unfold firstEnding? at h
  split at h
  · cases h
    trivial
  · split at h
    · rename_i hentry
      cases h
      exact Option.isNone_iff_eq_none.mp hentry
    · split at h
      · cases h
        trivial
      · split at h
        · cases h
        · split at h
          · cases h
            exact ⟨_, rfl⟩
          · split at h
            · cases h
              exact ⟨_, rfl⟩
            · cases h

theorem proper_of_ending? {v : World σ} (b : Body) (entrypoint : String)
    (h : ending? rounds v j x = some how) : how.Proper b entrypoint := by
  unfold ending? lastEnding? at h
  split at h
  · cases h
  · obtain ⟨_, -, rfl⟩ := Option.map_eq_some_iff.mp h
    trivial
  · split at h
    · cases h
      split <;> trivial
    · split at h
      · cases h
        trivial
      · split at h
        · rename_i hplace
          cases h
          exact Allocation.isMemoryFault_place hplace
        · cases h

/-- **Whatever ends a call is proper.** -/
theorem trace_proper (h : (trace rounds i c entrypoint payload w later).ending = some how) :
    how.Proper i.body entrypoint := by
  have hall : ∀ how, (trace rounds i c entrypoint payload w later).ending = some how →
      how.Proper i.body entrypoint := by
    refine trace_induction (I := fun _ t => ∀ how, t.ending = some how →
      how.Proper i.body entrypoint) (fun _ => proper_of_firstEnding?) ?_
    intro v j s t x hs _ how
    simp only [Trace.after, hs]
    exact proper_of_ending? i.body entrypoint
  exact hall how h

/-- **Whatever ends a call for want of an entrypoint apart**, its instance is faulted if the guest
is poisoned, or if the call returns an error that the guest does not report. -/
theorem Ending.breaks_iff (hmissing : ∀ name, how ≠ .missing name) (timeoutMs : Nat) (p : Bool) :
    how.breaks p = true ↔
      p = true ∨ (∃ e, how.outcome timeoutMs = .error e) ∧ ¬ how.Reported := by
  cases how with
  | missing name => exact absurd rfl (hmissing name)
  | answered m word =>
    show (p || isMemoryFault (decode m word)) = true ↔ _
    rw [Bool.or_eq_true, (says_decode m word).isMemoryFault_iff]
    rfl
  | refused | interrupted | unplaced | unallocated | stopped =>
    exact ⟨fun _ => .inr ⟨⟨_, rfl⟩, id⟩, fun _ => rfl⟩

/-- Whatever is no answer is of no use any more. -/
theorem Ending.breaks_of_not_answer (hmissing : ∀ name, how ≠ .missing name)
    (h : how.word? = none) (p : Bool) : how.breaks p = true := by
  cases how with
  | missing name => exact absurd rfl (hmissing name)
  | answered m word => cases h
  | _ => rfl

/-- A call that is over stays so. -/
theorem foldl_further_ended (rounds : Nat) (j : Instance) (r : Result) (later : List (World σ)) :
    later.foldl (further rounds) (j, .ended r) = (j, .ended r) := by
  induction later with
  | nil => rfl
  | cons v later ih => exact ih

/-- Without its entrypoint nothing happens. -/
theorem begin_of_missing (hfit : i.isFaulted = false)
    (hentry : i.body.function? entrypoint Body.entrypointType = none) (w : World σ) (c : Context)
    (payload : Bytes) :
    begin w i c entrypoint payload = (w, i, .ended (.error (.entrypointNotFound entrypoint))) := by
  unfold begin
  simp only [hfit, Bool.false_eq_true, if_false, hentry]

/-- **A call faults its instance exactly when it should.**  On an instance that is neither faulted
nor poisoned, whatever the guest and others do and however long it takes:

An entrypoint that is missing, or of another type, is refused, and nothing has happened to instance
and world.

Otherwise the call was ended by something, and the instance is faulted if and only if an answer to
one of its host calls could not be placed, or the call returns an error that is not a failure which
the guest reports itself, by minus one or by a document inside memory.  So it is faulted by whatever
is no answer of the entrypoint, and by an answer whose region lies outside memory; unless an answer
to a host call could not be placed, it is not faulted when the call returns a result or the guest
reports a failure. -/
theorem faults_exactly {r : Result} (hfit : i.isFaulted = false)
    (hclean : i.guest.isPoisoned = false)
    (hdone : (course rounds i c entrypoint payload w later).2 = .ended r) :
    let j := (course rounds i c entrypoint payload w later).1
    let t := trace rounds i c entrypoint payload w later
    (i.body.function? entrypoint Body.entrypointType = none →
      begin w i c entrypoint payload = (w, i, .ended r) ∧
        r = .error (.entrypointNotFound entrypoint) ∧ j = i) ∧
    (i.body.function? entrypoint Body.entrypointType ≠ none →
      j.guest.isPoisoned = t.spoilt ∧
      ∃ how, t.ending = some how ∧
        r = how.outcome (effectiveTimeout c w.clock i.body.execution.timeoutMs.toNat) ∧
        (j.isFaulted = true ↔ t.spoilt = true ∨ (∃ e, r = .error e) ∧ ¬ how.Reported) ∧
        (how.word? = none → j.isFaulted = true) ∧
        (∀ m word, how = .answered m word → Negative word ∨ length word ≠ 0 →
          word ≠ Packed.failure → ¬ Fits m word → j.isFaulted = true) ∧
        (t.spoilt = false → (∃ bytes, r = .ok bytes) ∨ how.Reported → j.isFaulted = false)) := by
  intro j t
  refine ⟨fun hentry => ?_, fun hentry => ?_⟩
  · have hbegin := begin_of_missing hfit hentry w c payload
    -- What is refused as it begins stays so.
    have hcourse : course rounds i c entrypoint payload w later =
        (i, .ended (.error (.entrypointNotFound entrypoint))) := by
      rw [course, hbegin]
      exact foldl_further_ended ..
    rw [hcourse] at hdone
    cases hdone
    exact ⟨hbegin, rfl, congrArg Prod.fst hcourse⟩
  · obtain ⟨how, hending, hr, hpoison, hfault⟩ := course_ended hdone
    have hspoilt : j.guest.isPoisoned = t.spoilt := by
      rw [hpoison, hclean, Bool.false_or]
    -- The entrypoint is there, so its lack is not what ended the call.
    have hmissing (name : String) : how ≠ .missing name := by
      rintro rfl
      exact hentry (trace_proper hending)
    have hiff : j.isFaulted = true ↔ t.spoilt = true ∨ (∃ e, r = .error e) ∧ ¬ how.Reported := by
      rw [hfault, hspoilt, hr]
      exact Ending.breaks_iff hmissing _ _
    refine ⟨hspoilt, how, hending, hr, hiff, fun h => ?_, ?_, fun hok h => ?_⟩
    · rw [hfault]
      exact Ending.breaks_of_not_answer hmissing h _
    · rintro m word rfl hregion hne hfits
      have hreport : ¬ Reports m word := fun h => h.elim hne fun h => hfits h.2
      have hmeans : Says m word r := hr ▸ says_decode m word
      refine hiff.mpr (.inr ⟨?_, hreport⟩)
      by_cases hn : Negative word
      · exact ⟨_, hmeans.lost hn hne hfits⟩
      · exact ⟨_, hmeans.missed hn (hregion.resolve_left hn) hfits⟩
    · refine Bool.eq_false_iff.mpr fun hfaulted => ?_
      obtain hspoilt | ⟨⟨e, he⟩, hreported⟩ := hiff.mp hfaulted
      · exact Bool.false_ne_true (hok.symm.trans hspoilt)
      · obtain ⟨bytes, hbytes⟩ | hreports := h
        · cases hbytes.symm.trans he
        · exact hreported hreports

/-- The relaying guest with an allocator that never finds room. -/
def roomless : Body :=
  { Body.relay with
    program :=
      { Body.relay.program with
        code := Body.relay.program.code.set! 0
          ⟨Body.allocatorType, #[], #[.plain (.const .i32 0), .ret]⟩ } }

/-- A call of a guest whose host call is answered and whose allocator finds no room for the answer:
the guest reports a failure, and its instance is faulted all the same. -/
theorem roomless_is_faulted :
    let i : Instance := { id := 1, body := roomless, guest := .blank }
    let w := World.recording
    let t := trace 9 i { request := .given "" } "run" ByteArray.empty w [w, w]
    t.spoilt = true ∧ (∃ how, t.ending = some how ∧ how.Reported) ∧
      (course 9 i { request := .given "" } "run" ByteArray.empty w [w, w]).1.isFaulted = true := by
  intro i w t
  have hspoilt : t.spoilt = true := by decide +kernel
  have hword : t.ending.bind Ending.word? = some Packed.failure := by decide +kernel
  obtain ⟨r, hdone⟩ := Standing.ended_of_result?
    (s := (course 9 i { request := .given "" } "run" ByteArray.empty w [w, w]).2)
    (by decide +kernel)
  obtain ⟨-, how, hending, -, hiff, -⟩ := (faults_exactly rfl rfl hdone).2 (by decide)
  have hreported : how.Reported := by
    rw [hending] at hword
    exact Ending.reported_of_word? hword
  exact ⟨hspoilt, ⟨how, hending, hreported⟩, hiff.mpr (.inl hspoilt)⟩

end Call
end FunctionHost

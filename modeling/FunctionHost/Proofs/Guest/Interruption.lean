import FunctionHost.Proofs.Guest.Context
import FunctionHost.Proofs.Guest.Course
import FunctionHost.Proofs.Guest.Update

/-!
# Requests that are over

A request is over once it is cancelled or its deadline has come, and time only goes on
(`Clock.Later`), so it stays over.  Nothing is begun for it any more (`Call.nothing_begins_late`).  A
call that is made too late runs no guest code at all.  A call that is in progress then may go on for
as long as its guest likes, but whatever its guest asks for is not done: the callback does not hear
of it, and the guest is told so by a document, if there is room for one.

That is decided before the callback is asked, in the round of the host call itself, so nobody waits
for anything.  `World.Quiet` tells of a stretch of time in which the callback is not asked and only
the host adds to the journal.
-/
namespace FunctionHost

open Wasm (Thread Word)

variable {σ : Type}

/-! ## Time -/

namespace Clock

/-- **Time goes on**: no instant comes back, and no cancellation is taken back. -/
structure Later (c c' : Clock) : Prop where
  now : c.now ≤ c'.now
  cancelled : ∀ token ∈ c.cancelled, token ∈ c'.cancelled

variable {c c' c'' : Clock}

theorem Later.refl (c : Clock) : c.Later c := ⟨Nat.le_refl _, fun _ h => h⟩

theorem Later.trans (h : c.Later c') (h' : c'.Later c'') : c.Later c'' :=
  ⟨Nat.le_trans h.now h'.now, fun token ht => h'.cancelled token (h.cancelled token ht)⟩

end Clock

namespace Context

/-- **Whether a request is over**: it is cancelled, or its deadline has come. -/
def IsOver (c : Context) (clock : Clock) : Prop :=
  c.isCancelled clock = true ∨ c.isExpired clock = true

/-- Why a request is over that is: cancellation counts before the deadline. -/
def reason (c : Context) (clock : Clock) : Interruption :=
  if c.isCancelled clock then .canceled else .deadlineExceeded

variable {c : Context} {clock clock' : Clock} {why : Interruption}

theorem interruption_of_isOver (h : c.IsOver clock) :
    c.interruption clock = some (c.reason clock) := by
  unfold interruption reason
  split
  · rfl
  · rename_i hnot
    rw [if_pos (h.resolve_left hnot)]

theorem interruption_eq_some_iff :
    c.interruption clock = some why ↔ c.IsOver clock ∧ c.reason clock = why := by
  refine ⟨fun h => ?_, fun ⟨hover, hwhy⟩ => hwhy ▸ interruption_of_isOver hover⟩
  have hover : c.IsOver clock := by
    unfold interruption at h
    split at h
    · rename_i hcancelled
      exact .inl hcancelled
    · split at h
      · rename_i hexpired
        exact .inr hexpired
      · cases h
  exact ⟨hover, Option.some.inj ((interruption_of_isOver hover).symm.trans h)⟩

theorem isCancelled_of_later (h : clock.Later clock') (hc : c.isCancelled clock = true) :
    c.isCancelled clock' = true := by
  unfold isCancelled at hc ⊢
  cases ht : c.token with
  | none => simp [ht] at hc
  | some token =>
    simp only [ht, List.contains_iff_mem] at hc ⊢
    exact h.cancelled token hc

theorem isExpired_of_later (h : clock.Later clock') (hc : c.isExpired clock = true) :
    c.isExpired clock' = true := by
  unfold isExpired at hc ⊢
  cases hd : c.deadline with
  | none => simp [hd] at hc
  | some deadline =>
    simp only [hd, decide_eq_true_eq] at hc ⊢
    exact Nat.le_trans hc h.now

/-- **What is over stays over.** -/
theorem IsOver.later (hover : c.IsOver clock) (h : clock.Later clock') : c.IsOver clock' :=
  hover.imp (isCancelled_of_later h) (isExpired_of_later h)

end Context

/-! ## Quiet -/

/-- **Whether nothing was begun** between one world and another: the callback is as it was, and the
journal has only got events of the host itself. -/
structure World.Quiet (w v : World σ) : Prop where
  callback : v.callback = w.callback
  state : v.state = w.state
  journal : ∃ events : List Event, v.journal.toList = w.journal.toList ++ events ∧
    ∀ e ∈ events, e.fromGuest = false

namespace World.Quiet

variable {w v u : World σ}

theorem of_journal (hcallback : v.callback = w.callback) (hstate : v.state = w.state)
    (hjournal : v.journal = w.journal) : w.Quiet v :=
  ⟨hcallback, hstate, [], by simp [hjournal], (fun _ h => nomatch h)⟩

theorem refl (w : World σ) : w.Quiet w := of_journal rfl rfl rfl

theorem trans (h : w.Quiet v) (h' : v.Quiet u) : w.Quiet u := by
  obtain ⟨events, hevents, hhost⟩ := h.journal
  obtain ⟨events', hevents', hhost'⟩ := h'.journal
  refine ⟨h'.callback.trans h.callback, h'.state.trans h.state, events ++ events', ?_, ?_⟩
  · rw [hevents', hevents, List.append_assoc]
  · exact fun e he => (List.mem_append.mp he).elim (hhost e) (hhost' e)

/-- The host may report what it likes. -/
theorem report (w : World σ) {e : Event} (he : e.fromGuest = false) : w.Quiet (w.report e) :=
  ⟨rfl, rfl, [e], Array.toList_push, by simpa using he⟩

end World.Quiet

namespace Activity

variable {b : Body} {w : World σ} {g : Guest} {a : Activity} {c : Context} {t : Thread}
  {outer : List (Thread × Delivery)}

/-! ## Rounds that ask nothing -/

theorem deliver_quiet (b : Body) (w : World σ) (g : Guest) (allocator : String) (t : Thread)
    (d : Delivery) (outer : List (Thread × Delivery)) :
    w.Quiet (deliver b w g allocator t d outer).1 := by
  unfold deliver
  split
  · exact .refl w
  · split
    · exact .report w rfl
    · split
      · exact .refl w
      · split
        · exact .report w rfl
        · exact .refl w

theorem complete_quiet (b : Body) (w : World σ) (g : Guest) (t : Thread) (call : PendingCall)
    (reply : Reply) (outer : List (Thread × Delivery)) :
    w.Quiet (complete b w g t call reply outer).1 :=
  (World.Quiet.report w rfl).trans (deliver_quiet ..)

theorem contextOf_quiet (b : Body) (w : World σ) (g : Guest) : w.Quiet (contextOf b w g).1 := by
  unfold contextOf
  split <;> exact .of_journal rfl rfl rfl

theorem systemCall_quiet (b : Body) (w : World σ) (g : Guest) (name : String) (t : Thread)
    (args : List Word) (outer : List (Thread × Delivery)) :
    w.Quiet (systemCall b w g name t args outer).1 := by
  unfold systemCall
  split
  · exact .refl w
  · split
    · exact .refl w
    · dsimp only
      split
      · exact .refl w
      · split <;> exact .of_journal rfl rfl rfl
    · exact .refl w
    · exact .refl w

theorem settle_quiet (b : Body) (w : World σ) (g : Guest) (result : Result)
    (outer : List (Thread × Delivery)) : w.Quiet (settle b w g result outer).1 := by
  unfold settle
  split
  · exact .refl w
  · unfold placed
    dsimp only
    split
    · exact .report w rfl
    · exact .refl w

/-- A host call that asks nothing. -/
theorem hostCall_quiet {func : Nat} {allocator : String} {args : List Word}
    (hf : b.imports[func]? = some (.hostCall allocator))
    (h : asked? b w g ⟨.acting (.calling t func args), outer⟩ = none) :
    w.Quiet (hostCall b w g allocator t args outer).1 := by
  have hmemory (index : Nat) : g.recordHostCall.memory index = g.memory index := rfl
  have hcontext : contextOf b w g.recordHostCall = contextOf b w g := rfl
  simp only [hostCall, hmemory, hcontext]
  cases hm : b.memory? with
  | none => exact .report w rfl
  | some index =>
    cases hargs : HostCall.pairs? args with
    | none => exact .report w rfl
    | some pairs =>
      obtain ⟨space, operation, key, payload⟩ := pairs
      dsimp only
      cases hread : HostCall.read (g.memory index) space operation key payload with
      | error e =>
        cases e with
        | callback e => exact deliver_quiet ..
        | _ => exact .report w rfl
      | ok r =>
        dsimp only
        cases hopen : (contextOf b w g).2.interruption (contextOf b w g).1.clock with
        | some why => exact (contextOf_quiet b w g).trans (complete_quiet ..)
        | none =>
          simp only [asked?, hf, hm, hargs, hread, hopen] at h
          cases h

/-- **A round that asks nothing begins nothing.** -/
theorem round_quiet (h : asked? b w g a = none) : w.Quiet (round b w g a).1 := by
  obtain ⟨focus, outer⟩ := a
  match focus with
  | .acting (.running t) => exact .refl w
  | .acting (.returned results) => exact settle_quiet b w g (.ok results) outer
  | .acting (.stopped cause) => exact settle_quiet b w g (.error cause) outer
  | .acting (.calling t func args) =>
    simp only [round, imported]
    split
    · rename_i hf
      exact hostCall_quiet hf h
    · exact systemCall_quiet ..
    · exact .refl w
  | .awaiting t call =>
    unfold round
    dsimp only
    split
    · exact .refl w
    · exact complete_quiet ..
    · exact complete_quiet ..

/-- A guest that serves a request asks in its context. -/
theorem contextOf_of_some (hg : g.context = some c) : contextOf b w g = (w, c) := by
  rw [contextOf, hg]

/-- A guest that serves a request that is over asks nothing. -/
theorem asked?_of_isOver (hg : g.context = some c) (hover : c.IsOver w.clock) :
    asked? b w g a = none := by
  unfold asked?
  split
  · split
    · split
      · simp only [contextOf_of_some hg, Context.interruption_of_isOver hover]
        rfl
      · rfl
    · rfl
  · rfl

/-- **Rounds for a request that is over begin nothing**, however many they are. -/
theorem proceed_quiet (hg : g.context = some c) (hover : c.IsOver w.clock) (rounds : Nat) :
    asked b rounds w g a = [] ∧ w.Quiet (proceed b rounds w g a).1 := by
  induction rounds generalizing w g a with
  | zero => exact ⟨rfl, .refl w⟩
  | succ rounds ih =>
    have hnone : asked? b w g a = none := asked?_of_isOver hg hover
    have hround := round_quiet hnone
    obtain ⟨hlasts, hnext⟩ := round_frame b w g a
    rw [asked, proceed, hnone]
    generalize round b w g a = turn at hround hnext hlasts
    obtain ⟨v, g', s⟩ := turn
    cases s with
    | busy a' =>
      obtain ⟨hasked, hquiet⟩ := ih (w := v) (a := a') (hnext.trans hg) (hlasts.clock ▸ hover)
      exact ⟨hasked, hround.trans hquiet⟩
    | blocked a' => exact ⟨rfl, hround⟩
    | ended result => exact ⟨rfl, hround⟩

/-! ## Nobody waits -/

/-- **Whether a host call that an activity waits for was made for a request.** -/
structure IsFor (c : Context) (a : Activity) : Prop where
  context : ∀ t call, a.focus = .awaiting t call → call.context = c

theorem isFor_acting (c : Context) (turn : Turn) (outer : List (Thread × Delivery)) :
    (⟨.acting turn, outer⟩ : Activity).IsFor c :=
  ⟨fun _ _ h => nomatch h⟩

theorem deliver_isFor (c : Context) (b : Body) (w : World σ) (g : Guest) (allocator : String)
    (t : Thread) (d : Delivery) (outer : List (Thread × Delivery)) :
    (deliver b w g allocator t d outer).2.2.IsFor c := by
  unfold deliver
  split
  · exact isFor_acting ..
  · split
    · exact isFor_acting ..
    · split
      · exact isFor_acting ..
      · split <;> exact isFor_acting ..

theorem hostCall_isFor (hg : g.context = some c) (allocator : String) (args : List Word) :
    (hostCall b w g allocator t args outer).2.2.IsFor c := by
  have hcontext : contextOf b w g.recordHostCall = (w, c) := contextOf_of_some hg
  unfold hostCall
  dsimp only
  split
  · split
    · exact deliver_isFor ..
    · exact isFor_acting ..
    · simp only [hcontext]
      split
      · exact deliver_isFor ..
      · exact ⟨fun _ _ h => by cases h; rfl⟩
  · exact isFor_acting ..

theorem settle_isFor (c : Context) (b : Body) (w : World σ) (g : Guest) (result : Result)
    (outer : List (Thread × Delivery)) : ∀ a ∈ (settle b w g result outer).2.2.work?, a.IsFor c := by
  unfold settle
  split
  · exact fun _ ha => nomatch ha
  · rintro a ⟨⟩
    dsimp only [placed]
    split <;> exact isFor_acting ..

/-- **Whatever a guest waits for, it asked for on behalf of the request that it serves.** -/
theorem round_isFor (hg : g.context = some c) (h : a.IsFor c) :
    ∀ a' ∈ (round b w g a).2.2.work?, a'.IsFor c := by
  obtain ⟨focus, outer⟩ := a
  match focus with
  | .acting (.running t) =>
    rintro a' ⟨⟩
    exact isFor_acting ..
  | .acting (.returned results) => exact settle_isFor c b w g (.ok results) outer
  | .acting (.stopped cause) => exact settle_isFor c b w g (.error cause) outer
  | .acting (.calling t func args) =>
    rintro a' ⟨⟩
    dsimp only
    split
    · exact hostCall_isFor hg ..
    · unfold systemCall
      split
      · exact isFor_acting ..
      · split <;> exact isFor_acting ..
    · exact isFor_acting ..
  | .awaiting t call =>
    unfold round
    dsimp only
    split
    · rintro a' ⟨⟩
      exact h
    · rintro a' ⟨⟩
      exact deliver_isFor ..
    · rintro a' ⟨⟩
      exact deliver_isFor ..

/-- **Nobody waits for a request that is over.** -/
theorem round_ne_blocked (h : a.IsFor c) (hover : c.IsOver w.clock) (a' : Activity) :
    (round b w g a).2.2 ≠ .blocked a' := by
  intro hblocked
  obtain ⟨focus, outer⟩ := a
  match focus with
  | .acting (.running t) | .acting (.calling t func args) => cases hblocked
  | .acting (.returned results) => cases outer <;> cases hblocked
  | .acting (.stopped cause) => cases outer <;> cases hblocked
  | .awaiting t call =>
    obtain rfl : call.context = c := h.context t call rfl
    unfold round at hblocked
    dsimp only at hblocked
    split at hblocked
    · rename_i hguard
      split at hguard
      · cases hguard
      · simp only [Context.guard, Context.interruption_of_isOver hover] at hguard
        cases hguard
    · cases hblocked
    · cases hblocked

/-- What is so of a round is so of many. -/
theorem proceed_isFor (hg : g.context = some c) (h : a.IsFor c) (rounds : Nat) :
    (∀ a' ∈ (proceed b rounds w g a).2.2.work?, a'.IsFor c) ∧
      (c.IsOver w.clock → ∀ a', (proceed b rounds w g a).2.2 ≠ .blocked a') := by
  -- Meanwhile the guest goes on serving the request, and no time passes.
  let I (v : World σ) (g' : Guest) (s : Standing Activity Result) : Prop :=
    g'.context = some c ∧ w.Lasts v ∧ (∀ a' ∈ s.work?, a'.IsFor c) ∧
      (c.IsOver w.clock → ∀ a', s ≠ .blocked a')
  have hround (v : World σ) (g' : Guest) (a' : Activity) (hI : I v g' (.busy a')) :
      I (round b v g' a').1 (round b v g' a').2.1 (round b v g' a').2.2 := by
    obtain ⟨hguest, hlasts, hfor, -⟩ := hI
    have hframe := round_frame b v g' a'
    exact ⟨hframe.context.trans hguest, hlasts.trans hframe.lasts,
      round_isFor hguest (hfor a' rfl),
      fun hover => round_ne_blocked (hfor a' rfl) (hlasts.clock ▸ hover)⟩
  have hbegin : I w g (.busy a) :=
    ⟨hg, .refl w, fun a' ha => Option.some.inj ha ▸ h, fun _ _ hblocked => nomatch hblocked⟩
  obtain ⟨-, -, hfor, hnever⟩ := proceed_induction hround hbegin rounds
  exact ⟨hfor, hnever⟩

/-! ## What is told instead -/

/-- **A thread that is told of a failure by a document**: the guest's allocator runs on top of it for
a place, or it was told that there is none, or where the document is. -/
inductive Tells (b : Body) (t : Thread) (document : Bytes) (outer : List (Thread × Delivery)) :
    Guest → Activity → Prop
  | placing (g : Guest) (inner : Activity) (hsize : document.size ≠ 0)
      (hlong : document.size ≤ Allocation.maxLength) :
      Tells b t document outer g (inner.above ((t, ⟨document, true⟩) :: outer))
  | unplaced (g : Guest) :
      Tells b t document outer g ⟨answered g t [Packed.failure], outer⟩
  | placed (g : Guest) {word : Word} {ptr len : UInt32} (hword : Packed.decode word = .err ptr len)
      (hinside : HostCall.Inside (g.shared b) (ptr, len))
      (hshown : HostCall.shown (g.shared b) (ptr, len) = document) :
      Tells b t document outer g ⟨answered g t [word], outer⟩

variable {document : Bytes} {allocator : String}

theorem toNat_ofNat_size (hlong : document.size ≤ Allocation.maxLength) :
    (UInt32.ofNat document.size).toNat = document.size :=
  UInt32.toNat_ofNat_of_lt' (Nat.lt_of_le_of_lt hlong (by decide))

/-- **An allocator that finds room** has the document copied there, and the thread told by a word
that names it, if there is such a word. -/
theorem tells_of_room {result : Result} {ptr : UInt32} (hsize : document.size ≠ 0)
    (hlong : document.size ≤ Allocation.maxLength)
    (hroom : Allocation.Room (g.shared b) document.size result ptr) :
    ∃ g' : Guest, HostCall.Inside (g'.shared b) (ptr, .ofNat document.size) ∧
      HostCall.shown (g'.shared b) (ptr, .ofNat document.size) = document ∧
      ∀ w : World σ, placed b w g result t ⟨document, true⟩ =
        (w, g', answered g' t [Packed.encodeError ptr (.ofNat document.size)]) := by
  have hlen : (UInt32.ofNat document.size).toNat = document.size := toNat_ofNat_size hlong
  have hfits : ptr.toNat + document.size ≤ (g.shared b).size := by
    obtain ⟨-, -, -, -, hfits⟩ := hroom
    exact hfits
  obtain ⟨g', hsame, hbytes, hplaced⟩ := placed_of_room (t := t) (d := ⟨document, true⟩) hroom hsize
  refine ⟨g', ?_, ?_, hplaced⟩
  · show ptr.toNat + (UInt32.ofNat document.size).toNat ≤ (g'.shared b).size
    rw [hlen, hsame]
    exact hfits
  · show (g'.shared b).region ptr.toNat (UInt32.ofNat document.size).toNat = document
    rw [hlen]
    exact hbytes

/-- Whatever the allocator comes to, the thread is told. -/
theorem tells_placed (hsize : document.size ≠ 0) (hlong : document.size ≤ Allocation.maxLength)
    (w : World σ) (g : Guest) (result : Result) :
    Tells b t document outer (placed b w g result t ⟨document, true⟩).2.1
      ⟨(placed b w g result t ⟨document, true⟩).2.2, outer⟩ := by
  by_cases hroom : ∃ ptr, Allocation.Room (g.shared b) document.size result ptr
  · obtain ⟨ptr, hroom⟩ := hroom
    obtain ⟨g', hinside, hshown, hplaced⟩ := tells_of_room (σ := σ) (t := t) hsize hlong hroom
    rw [hplaced w]
    by_cases hsayable : (Packed.err ptr (.ofNat document.size)).Sayable
    · obtain ⟨word, hword, hdecode⟩ := hsayable.decode
      obtain rfl : _ = word := Option.some.inj hword
      exact .placed g' hdecode hinside hshown
    · rw [Packed.encodeError_of_not_sayable hsayable]
      exact .unplaced g'
  · obtain ⟨g', -, hplaced⟩ := placed_of_not_room (σ := σ) (t := t) (d := ⟨document, true⟩)
      (not_exists.mp hroom)
    rw [hplaced w]
    exact .unplaced g'

theorem tells_deliver (b : Body) (w : World σ) (g : Guest) (allocator : String) (t : Thread)
    (document : Bytes) (outer : List (Thread × Delivery)) :
    Tells b t document outer (deliver b w g allocator t ⟨document, true⟩ outer).2.1
      (deliver b w g allocator t ⟨document, true⟩ outer).2.2 := by
  unfold deliver
  split
  · exact .unplaced g
  · rename_i hsize
    split
    · exact .unplaced g
    · split
      · rename_i hempty
        simp [hempty] at hsize
      · rename_i hempty
        split
        · exact .unplaced (g.poison _)
        · rename_i hlong
          exact .placing _ ⟨_, []⟩ hempty (Nat.not_lt.mp hlong)

/-- If there is an allocator, it is run at once. -/
theorem deliver_of_allocator {find : Nat}
    (hfind : b.function? allocator Body.allocatorType = some find) (hsize : document.size ≠ 0)
    (hlong : document.size ≤ Allocation.maxLength) (w : World σ) (g : Guest) (t : Thread)
    (outer : List (Thread × Delivery)) :
    let asking := start b w g find [UInt64.ofNat document.size]
    deliver b w g allocator t ⟨document, true⟩ outer =
      (w, asking.1, asking.2.above ((t, ⟨document, true⟩) :: outer)) := by
  have habove := deliver_above b w g allocator t ⟨document, true⟩ [] outer
  rw [deliver_of_size hfind hsize (Nat.lt_of_le_of_lt hlong (by decide))] at habove
  exact habove

/-- **Until a thread is told, it is being told.** -/
theorem Tells.untilAnswered (h : Tells b t document outer g a) (vs : List (World σ)) :
    Tells b t document outer (Activity.untilAnswered b outer.length vs g a).1
      (Activity.untilAnswered b outer.length vs g a).2 := by
  refine untilAnswered_induction h (fun v g a h ho => ?_) vs
  cases h with
  | placing inner hsize hlong =>
    rw [round_above]
    generalize round b v g inner = turn
    obtain ⟨v', g', s⟩ := turn
    cases s with
    | busy inner' => exact ⟨_, _, _, _, rfl, rfl, .placing g' inner' hsize hlong⟩
    | blocked inner' => exact ⟨_, _, _, _, rfl, rfl, .placing g' inner' hsize hlong⟩
    | ended result => exact ⟨_, _, _, _, rfl, rfl, tells_placed hsize hlong v' g' result⟩
  | unplaced =>
    rw [isOpen_answered] at ho
    cases ho
  | placed =>
    rw [isOpen_answered] at ho
    cases ho

/-- **An allocator run to its end** on top of a thread has the thread answered. -/
theorem untilAnswered_of_ends {vs : List (World σ)} {inner : Activity} {g' : Guest}
    {result : Result} (h : Ends b vs g inner g' result) (t : Thread) (d : Delivery)
    (outer : List (Thread × Delivery)) :
    ∃ u : World σ, untilAnswered b outer.length vs g (inner.above ((t, d) :: outer)) =
      ((placed b u g' result t d).2.1, ⟨(placed b u g' result t d).2.2, outer⟩) := by
  induction h with
  | @last w w' g g' inner result hr =>
    have habove := round_above b w g inner ((t, d) :: outer)
    rw [hr] at habove
    exact ⟨w', untilAnswered_of_round (isOpen_above inner) habove rfl⟩
  | @next w w' ws g g' g'' inner inner' s result hr hs _ ih =>
    obtain ⟨u, hu⟩ := ih
    refine ⟨u, .trans ?_ hu⟩
    have habove := round_above b w g inner ((t, d) :: outer)
    rw [hr] at habove
    cases s with
    | busy x =>
      obtain rfl : x = inner' := Option.some.inj hs
      exact untilAnswered_of_round (isOpen_above inner) habove rfl
    | blocked x =>
      obtain rfl : x = inner' := Option.some.inj hs
      exact untilAnswered_of_round (isOpen_above inner) habove rfl
    | ended result => cases hs

/-- **Whether a thread is told of a failure by a document**, from here on.  Nothing is assumed of the
worlds in which the rounds follow.

* It does not wait for the callback: until it is told, the guest's allocator runs on top of it for a
  place.  It is told where the document is, or by bare failure (`told`).
* If the guest has an allocator, and the document is not too long to ask for, that is run at once.
  If the allocator finds room, within the addresses that a word can name, the document is there, and
  the thread is told so (`found`). -/
structure Told (σ : Type) (b : Body) (allocator : String) (t : Thread) (document : Bytes)
    (outer : List (Thread × Delivery)) (g : Guest) (a : Activity) : Prop where
  told : ∀ vs : List (World σ),
    let x := untilAnswered b outer.length vs g a
    Tells b t document outer x.1 x.2
  found : ∀ find, b.function? allocator Body.allocatorType = some find →
    document.size ≤ Allocation.maxLength →
    ∃ (v : World σ) (g₀ : Guest),
      let asking := start b v g₀ find [UInt64.ofNat document.size]
      g = asking.1 ∧ a = asking.2.above ((t, ⟨document, true⟩) :: outer) ∧
      ∀ (vs : List (World σ)) g' result ptr, Ends b vs g asking.2 g' result →
        Allocation.Room (g'.shared b) document.size result ptr →
        ptr.toNat + document.size ≤ 0x80000000 →
        let x := untilAnswered b outer.length vs g a
        ∃ word, x.2 = ⟨answered x.1 t [word], outer⟩ ∧
          Packed.decode word = .err ptr (.ofNat document.size) ∧
          HostCall.shown (x.1.shared b) (ptr, .ofNat document.size) = document

theorem told_deliver (hsize : document.size ≠ 0) (b : Body) (w : World σ) (g : Guest)
    (allocator : String) (t : Thread) (outer : List (Thread × Delivery)) :
    Told σ b allocator t document outer (deliver b w g allocator t ⟨document, true⟩ outer).2.1
      (deliver b w g allocator t ⟨document, true⟩ outer).2.2 where
  told vs := (tells_deliver b w g allocator t document outer).untilAnswered vs
  found find hfind hlong := by
    rw [deliver_of_allocator hfind hsize hlong]
    refine ⟨w, g, rfl, rfl, fun vs g' result ptr hends hroom hptr => ?_⟩
    obtain ⟨u, hu⟩ := untilAnswered_of_ends hends t ⟨document, true⟩ outer
    obtain ⟨g'', -, hshown, hplaced⟩ := tells_of_room (σ := σ) (t := t) hsize hlong hroom
    rw [hplaced u] at hu
    intro x
    have hx : x = (g'', ⟨answered g'' t [Packed.encodeError ptr (.ofNat document.size)], outer⟩) := hu
    clear_value x
    subst hx
    have hlen : (UInt32.ofNat document.size).toNat = document.size := toNat_ofNat_size hlong
    have hne : UInt32.ofNat document.size ≠ 0 := by
      intro hzero
      rw [hzero] at hlen
      exact hsize hlen.symm
    have hsayable : (Packed.err ptr (.ofNat document.size)).Sayable :=
      (Packed.sayable_of_le hne (hlen.symm ▸ hptr)).2
    obtain ⟨word, hword, hdecode⟩ := hsayable.decode
    obtain rfl : _ = word := Option.some.inj hword
    exact ⟨_, rfl, hdecode, hshown⟩

/-- **The document that tells a guest that its request is over.** -/
def overdue (c : Context) (clock : Clock) (r : HostRequest) : Bytes :=
  HostCall.document r.space r.operation (HostCall.interrupted (c.reason clock))

theorem overdue_eq (c : Context) (clock : Clock) (r : HostRequest) :
    let text := if c.isCancelled clock then "request canceled" else "deadline exceeded"
    overdue c clock r = (Json.record [
      ("error", .record [("kind", .text "failed"),
        ("message", .text ("Capability failed: " ++ text))]),
      ("namespace", .text r.space),
      ("operation", .text r.operation)]).toBytes := by
  unfold overdue Context.reason
  cases c.isCancelled clock <;> rfl

theorem size_overdue_ne_zero (c : Context) (clock : Clock) (r : HostRequest) :
    (overdue c clock r).size ≠ 0 := by
  rw [overdue_eq]
  exact Nat.succ_ne_zero _

/-- **A host call for a request that is over is answered at once.** -/
theorem round_of_isOver {func : Nat} {args : List Word} {r : HostRequest}
    (hf : b.imports[func]? = some (.hostCall allocator)) (hnamed : named? b g args = some r)
    (hg : g.context = some c) (hover : c.IsOver w.clock) (t : Thread)
    (outer : List (Thread × Delivery)) :
    ∃ (v : World σ) (g' : Guest) (a : Activity),
      round b w g ⟨.acting (.calling t func args), outer⟩ = (v, g', .busy a) ∧
        Told σ b allocator t (overdue c w.clock r) outer g' a := by
  have hmemory (index : Nat) : g.recordHostCall.memory index = g.memory index := rfl
  have hcontext : contextOf b w g.recordHostCall = (w, c) := contextOf_of_some hg
  refine ⟨_, _, _, rfl, ?_⟩
  unfold named? at hnamed
  split at hnamed
  · rename_i index space operation key payload hm hargs
    have hread : HostCall.read (g.memory index) space operation key payload = .ok r := by
      cases hread : HostCall.read (g.memory index) space operation key payload with
      | error e => rw [hread] at hnamed; cases hnamed
      | ok r' => rw [hread] at hnamed; cases hnamed; rfl
    simp only [hf, hostCall, hmemory, hm, hargs, hread, hcontext,
      Context.interruption_of_isOver hover]
    exact told_deliver (size_overdue_ne_zero _ _ _) ..
  · cases hnamed

end Activity

/-! ## Calls -/

namespace Call

variable {rounds : Nat} {i : Instance} {c : Context} {entrypoint : String} {payload : Bytes}
  {w : World σ} {x : Call}

theorem conclude_quiet (w : World σ) (i : Instance) (fuelBefore : Nat) (broken : Bool)
    (outcome : Except HostError Bytes) :
    w.Quiet (conclude w i fuelBefore broken outcome).1 := by
  have hreport (i : Instance) (fuel : Nat) : (report i fuel outcome).fromGuest = false := by
    cases outcome <;> rfl
  unfold conclude
  dsimp only
  split
  · exact (World.Quiet.report w rfl).trans (.report _ (hreport ..))
  · exact .report w (hreport ..)

/-- **A turn of a call for a request that is over begins nothing.** -/
theorem proceed_quiet (hi : i.guest.context = some c) (hover : c.IsOver w.clock) (rounds : Nat)
    (x : Call) : w.Quiet (proceed rounds w i x).1 := by
  have hquiet := (Activity.proceed_quiet (b := i.body) (a := x.activity) hi hover rounds).2
  have hturn := proceeds rounds w i x
  generalize proceed rounds w i x = turn at hturn ⊢
  generalize Activity.proceed i.body rounds w i.guest x.activity = run at hquiet hturn
  cases hturn with
  | busy | waiting | entered => exact hquiet
  | concluded => exact hquiet.trans (conclude_quiet ..)

/-- **A call that is made too late** is over at once, and runs no guest code: of what guest code
could change, nothing has changed. -/
theorem begin_of_isOver (hover : c.IsOver w.clock) (i : Instance) (entrypoint : String)
    (payload : Bytes) :
    let turn := begin w i c entrypoint payload
    w.Quiet turn.1 ∧
      (∃ deadline, turn.2.1.guest.store = { i.guest.store with deadline := deadline }) ∧
      ∃ r, turn.2.2 = .ended r ∧
        (i.isFaulted = false → i.body.function? entrypoint Body.entrypointType ≠ none →
          r = .error (interrupted (effectiveTimeout c w.clock i.body.execution.timeoutMs.toNat)
            (c.reason w.clock))) := by
  have hlate := Context.interruption_of_isOver hover
  have hturn := begins w i c entrypoint payload
  intro turn
  simp only [turn]
  generalize begin w i c entrypoint payload = turn at hturn ⊢
  cases hturn with
  | refused hfault =>
    refine ⟨.refl w, ⟨i.guest.store.deadline, rfl⟩, _, rfl, fun hfit => ?_⟩
    exact absurd hfault (Bool.eq_false_iff.mp hfit)
  | missing _ hnone =>
    exact ⟨.refl w, ⟨i.guest.store.deadline, rfl⟩, _, rfl, fun _ hentry => absurd hnone hentry⟩
  | entered _ _ hopen | allocating _ _ hopen => exact nomatch hopen.symm.trans hlate
  | hindered _ _ hwhy =>
    refine ⟨conclude_quiet .., ?_, _, conclude_ended .., fun _ _ => ?_⟩
    · rw [conclude_guest]
      -- Preparing a guest changes no more of its store than the deadline.
      show ∃ deadline, (prepared w i c).store = { i.guest.store with deadline := deadline }
      unfold prepared
      dsimp only
      split
      · exact ⟨_, rfl⟩
      · exact ⟨i.guest.store.deadline, rfl⟩
    · cases hwhy with
      | interrupted hwhy =>
        cases hwhy.symm.trans hlate
        rfl
      | tooLong hopen | unallocatable hopen => exact nomatch hopen.symm.trans hlate

/-- **A call for one request**: its guest serves that request, and waits on behalf of it. -/
structure Serving (c : Context) (i : Instance) (x : Call) : Prop where
  guest : i.guest.context = some c
  context : x.context = c
  waits : x.activity.IsFor c

theorem serving_begin (w : World σ) (i : Instance) (c : Context) (entrypoint : String)
    (payload : Bytes) :
    let turn := begin w i c entrypoint payload
    ∀ x ∈ turn.2.2.work?, Serving c turn.2.1 x := by
  have hturn := begins w i c entrypoint payload
  intro turn
  simp only [turn]
  generalize begin w i c entrypoint payload = turn at hturn ⊢
  cases hturn with
  | refused | missing | hindered => exact fun _ hx => nomatch hx
  | entered | allocating =>
    rintro x ⟨⟩
    exact ⟨rfl, rfl, Activity.isFor_acting ..⟩

/-- **A call goes on serving its request.** -/
theorem Serving.proceed (h : Serving c i x) (rounds : Nat) (w : World σ) :
    let turn := Call.proceed rounds w i x
    ∀ x' ∈ turn.2.2.work?, Serving c turn.2.1 x' := by
  obtain ⟨hguest, rfl, hwaits⟩ := h
  obtain ⟨hcontext, hwork⟩ := proceed_attached rounds w hguest
  intro turn x' hx'
  refine ⟨?_, (hwork x' hx').1, ?_⟩
  · rw [hcontext, hx', Option.map_some, (hwork x' hx').1]
  · have hfor := (Activity.proceed_isFor (b := i.body) (w := w) hguest hwaits rounds).1
    have hturn := proceeds rounds w i x
    revert hx'
    simp only [turn]
    generalize Call.proceed rounds w i x = turn at hturn ⊢
    generalize Activity.proceed i.body rounds w i.guest x.activity = run at hfor hturn
    cases hturn with
    | busy | waiting =>
      rintro ⟨⟩
      exact hfor _ rfl
    | entered =>
      rintro ⟨⟩
      exact Activity.isFor_acting ..
    | concluded => rintro ⟨⟩

/-- **A course serves one request.** -/
theorem serving_course {later : List (World σ)} :
    let s := course rounds i c entrypoint payload w later
    ∀ x ∈ s.2.work?, Serving c s.1 x := by
  refine course_induction (I := fun s => ∀ x ∈ s.2.work?, Serving c s.1 x)
    (serving_begin w i c entrypoint payload) ?_
  rintro v j x ⟨s, hserving, hs⟩
  exact (hserving x hs).proceed rounds v

/-- **A call for a request that is over does not wait.** -/
theorem Serving.ne_blocked (h : Serving c i x) (hover : c.IsOver w.clock) (rounds : Nat) :
    (∀ a, (Activity.proceed i.body rounds w i.guest x.activity).2.2 ≠ .blocked a) ∧
      ∀ x', (Call.proceed rounds w i x).2.2 ≠ .blocked x' := by
  have hnever := (Activity.proceed_isFor (b := i.body) (w := w) h.guest h.waits rounds).2 hover
  refine ⟨hnever, ?_⟩
  have hturn := proceeds rounds w i x
  generalize Call.proceed rounds w i x = turn at hturn ⊢
  generalize Activity.proceed i.body rounds w i.guest x.activity = run at hnever hturn
  cases hturn with
  | @waiting v g a => exact absurd rfl (hnever a)
  | busy | entered | concluded => rintro _ ⟨⟩

/-- **Nothing is begun for a request that is over.**

If it is over when the call is made, the call is over at once, and neither the allocator nor the
entrypoint is run.

If it is over at some instant, then whatever was before, in each turn of the call from that instant
on the callback is asked nothing: it stays as it is, and so do the events that guests log; and the
call does not wait.  Wherever such a turn comes to a host call that names something, that is answered
at once, by a document of kind `failed` or by bare failure if there is no room for it.  The document
tells that the request is cancelled, if it is, and else that its deadline has come. -/
theorem nothing_begins_late (rounds : Nat) (i : Instance) (c : Context) (entrypoint : String)
    (payload : Bytes) (w : World σ) :
    (c.IsOver w.clock →
      let turn := begin w i c entrypoint payload
      w.Quiet turn.1 ∧
        (∃ deadline, turn.2.1.guest.store = { i.guest.store with deadline := deadline }) ∧
        ∃ r, turn.2.2 = .ended r ∧
          (i.isFaulted = false → i.body.function? entrypoint Body.entrypointType ≠ none →
            r = .error (interrupted (effectiveTimeout c w.clock i.body.execution.timeoutMs.toNat)
              (c.reason w.clock)))) ∧
    ∀ (clock : Clock) (before : List (World σ)) (u : World σ) (j : Instance)
      (s : Standing Call Result) (x : Call), c.IsOver clock → clock.Later u.clock →
      course rounds i c entrypoint payload w before = (j, s) → s.work? = some x →
      Activity.asked j.body rounds u j.guest x.activity = [] ∧ u.Quiet (proceed rounds u j x).1 ∧
      (∀ x', (proceed rounds u j x).2.2 ≠ .blocked x') ∧
      ∀ (k : Nat) (v : World σ) (g : Guest) (t : Thread) (func : Nat) (args : List Word)
        (outer : List (Thread × Delivery)) (allocator : String) (r : HostRequest),
        let made : Activity := ⟨.acting (.calling t func args), outer⟩
        Activity.proceed j.body k u j.guest x.activity = (v, g, .busy made) →
        j.body.imports[func]? = some (.hostCall allocator) →
        Activity.named? j.body g args = some r →
        ∃ (v' : World σ) (g' : Guest) (a : Activity),
          Activity.round j.body v g made = (v', g', .busy a) ∧ u.Quiet v' ∧
            let text := if c.isCancelled u.clock then "request canceled" else "deadline exceeded"
            let document := (Json.record [
              ("error", .record [("kind", .text "failed"),
                ("message", .text ("Capability failed: " ++ text))]),
              ("namespace", .text r.space),
              ("operation", .text r.operation)]).toBytes
            Activity.Told σ j.body allocator t document outer g' a := by
  refine ⟨fun hover => begin_of_isOver hover i entrypoint payload, ?_⟩
  intro clock before u j s x hover hlater hcourse hs
  have hover : c.IsOver u.clock := hover.later hlater
  have hserving : Serving c j x := by
    have hbefore : ∀ y ∈ (course rounds i c entrypoint payload w before).2.work?,
        Serving c (course rounds i c entrypoint payload w before).1 y := serving_course
    rw [hcourse] at hbefore
    exact hbefore x hs
  have hguest : j.guest.context = some c := hserving.guest
  have hasked := (Activity.proceed_quiet (b := j.body) (a := x.activity) hguest hover rounds).1
  refine ⟨hasked, proceed_quiet hguest hover rounds x, (hserving.ne_blocked hover rounds).2, ?_⟩
  intro k v g t func args outer allocator r made hk hf hnamed
  -- The rounds before leave the request with the guest, and take no time.
  have hcontext := (Activity.proceed_frame j.body u j.guest k x.activity).context
  have hclock := (Activity.proceed_frame j.body u j.guest k x.activity).lasts.clock
  have hquiet := (Activity.proceed_quiet (b := j.body) (a := x.activity) hguest hover k).2
  rw [hk] at hcontext hclock hquiet
  have hg : g.context = some c := hcontext.trans hguest
  have hover : c.IsOver v.clock := hclock ▸ hover
  obtain ⟨v', g', a, hround, htold⟩ := Activity.round_of_isOver hf hnamed hg hover t outer
  have hnone : Activity.asked? j.body v g made = none := Activity.asked?_of_isOver hg hover
  have hlast := Activity.round_quiet hnone
  rw [hround] at hlast
  rw [Activity.overdue_eq, hclock] at htold
  exact ⟨v', g', a, hround, hquiet.trans hlast, htold⟩

/-- A request that can be cancelled by a token and has a deadline. -/
def hurried : Context := { request := .given "", deadline := some 5, token := some 7 }

/-- A world in which it is cancelled and its deadline has come. -/
def tooLate : World (Unit × List (Context × HostRequest)) :=
  (World.recording.advance 5).cancel 7

/-- A call of the relaying guest that was made in time. -/
def hurrying : Instance × Call :=
  match begin World.recording { id := 1, body := .relay, guest := .blank } hurried "run"
    ByteArray.empty with
  | (_, i, .busy c) => (i, c)
  | _ => default

/-- The relaying guest comes to its host call too late: the callback is asked nothing, and the guest
is told of the cancellation. -/
theorem relay_is_too_late :
    (proceed 9 tooLate hurrying.1 hurrying.2).1.state.2 = [] ∧
      ∃ (t : Thread) (g : Guest) (a : Activity),
        Activity.Told (Unit × List (Context × HostRequest)) .relay "allocate" t
          (Json.record [
            ("error", .record [("kind", .text "failed"),
              ("message", .text "Capability failed: request canceled")]),
            ("namespace", .text ""),
            ("operation", .text "")]).toBytes [] g a := by
  have hover : hurried.IsOver tooLate.clock := .inl (by decide)
  obtain ⟨-, hquiet, -, htold⟩ := (nothing_begins_late 9
    { id := 1, body := .relay, guest := .blank } hurried "run" ByteArray.empty World.recording).2
    tooLate.clock [] tooLate hurrying.1 (.busy hurrying.2) hurrying.2 hover
    (.refl _) rfl rfl
  refine ⟨congrArg Prod.snd hquiet.state, ?_⟩
  obtain ⟨v, g, t, hk, hnamed⟩ : ∃ v g t,
      Activity.proceed .relay 1 tooLate hurrying.1.guest hurrying.2.activity =
        (v, g, .busy ⟨.acting (.calling t 0 (List.replicate 8 0)), []⟩) ∧
      Activity.named? .relay g (List.replicate 8 0) = some ⟨"", "", "", ByteArray.empty⟩ := by
    refine ⟨_, _, _, rfl, ?_⟩
    with_unfolding_all rfl
  obtain ⟨_, g', a, -, -, h⟩ := htold 1 v g t 0 (List.replicate 8 0) [] "allocate" _ hk rfl hnamed
  exact ⟨t, g', a, h⟩

end Call
end FunctionHost

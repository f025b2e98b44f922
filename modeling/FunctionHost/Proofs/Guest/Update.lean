import FunctionHost.Proofs.Capability.KeyValue
import FunctionHost.Proofs.Guest.Answer

/-!
# Answers to updates

A guest that updates the key-value store is told by a single word what became of that.  The word is
zero if and only if the update was made, and what has been refused is refused before anything is
changed (`Activity.trustworthy`).

Three things come together.  A context that is over refuses the update before the store is asked, and
none can end the wait afterwards: the reply is there at once, and it counts before the context does.
The reply to an update takes no room, so no allocator can spoil it.  And whatever else a guest is
told, documents and bare failure, has a word with the error bit, which is never zero.
-/
namespace FunctionHost

open Wasm (Thread Word)

variable {σ : Type}

/-- The word for an error document is never zero. -/
theorem Delivery.word_ne_zero {d : Delivery} (h : d.failed = true) (ptr : UInt32) :
    d.word ptr ≠ 0 := by
  rw [word, if_pos h]
  exact Packed.encodeError_ne_zero _ _

namespace Activity

/-! ## Host calls that are not answered yet -/

/-- **Whether a host call is open** that was made on top of so many threads that wait: its thread
waits for the reply, or for the allocator, which runs on top of it. -/
def isOpen (depth : Nat) (a : Activity) : Bool :=
  match a.focus with
  | .awaiting _ _ => depth ≤ a.outer.length
  | .acting _ => depth < a.outer.length

/-- **An activity until a host call is answered** that was made on top of so many threads, one round
in each of some worlds: the guest and the activity then. -/
def untilAnswered (b : Body) (depth : Nat) :
    List (World σ) → Guest → Activity → Guest × Activity
  | [], g, a => (g, a)
  | v :: vs, g, a =>
    if a.isOpen depth then
      match round b v g a with
      | (_, g, .busy a) | (_, g, .blocked a) => untilAnswered b depth vs g a
      | (_, g, .ended _) => (g, a)
    else (g, a)

variable {b : Body} {w : World σ} {ws : List (World σ)} {g : Guest} {a : Activity} {t : Thread}
  {d : Delivery} {outer : List (Thread × Delivery)} {depth func : Nat} {allocator : String}
  {args : List Word}

theorem untilAnswered_of_answered (h : a.isOpen depth = false) :
    untilAnswered b depth ws g a = (g, a) := by
  cases ws with
  | nil => rfl
  | cons v vs => rw [untilAnswered, if_neg (by simp [h])]

/-- **A round in between.** -/
theorem untilAnswered_of_round {v v' : World σ} {g' : Guest} {a' : Activity}
    {s : Standing Activity Result} (ho : a.isOpen depth = true) (hr : round b v g a = (v', g', s))
    (hs : s.work? = some a') :
    untilAnswered b depth (v :: ws) g a = untilAnswered b depth ws g' a' := by
  rw [untilAnswered, if_pos ho, hr]
  cases s with
  | busy x => obtain rfl := Option.some.inj hs; rfl
  | blocked x => obtain rfl := Option.some.inj hs; rfl
  | ended r => cases hs

/-- What a round keeps while a host call is open, the rounds keep until it is answered. -/
theorem untilAnswered_induction {I : Guest → Activity → Prop} (hbegin : I g a)
    (hstep : ∀ (v : World σ) g a, I g a → a.isOpen depth = true →
      ∃ (v' : World σ) (g' : Guest) (s : Standing Activity Result) (a' : Activity),
        round b v g a = (v', g', s) ∧ s.work? = some a' ∧ I g' a') (vs : List (World σ)) :
    I (untilAnswered b depth vs g a).1 (untilAnswered b depth vs g a).2 := by
  induction vs generalizing g a with
  | nil => exact hbegin
  | cons v vs ih =>
    cases ho : a.isOpen depth with
    | false =>
      rw [untilAnswered_of_answered ho]
      exact hbegin
    | true =>
      obtain ⟨v', g', s, a', hr, hs, hnext⟩ := hstep v g a hbegin ho
      rw [untilAnswered_of_round ho hr hs]
      exact ih hnext

/-- What runs on top of a thread leaves its host call open. -/
theorem isOpen_above (inner : Activity) :
    (inner.above ((t, d) :: outer)).isOpen outer.length = true := by
  have hlt : outer.length < (inner.outer ++ (t, d) :: outer).length := by
    rw [List.length_append, List.length_cons]
    omega
  obtain ⟨focus, inside⟩ := inner
  cases focus with
  | acting turn => exact decide_eq_true hlt
  | awaiting t' call => exact decide_eq_true (Nat.le_of_lt hlt)

/-- What runs on top of a thread is not the thread alone. -/
theorem outer_above_ne (inner : Activity) : (inner.above ((t, d) :: outer)).outer ≠ outer := by
  intro hsame
  have hlen := congrArg List.length hsame
  simp only [above, List.length_append, List.length_cons] at hlen
  omega

theorem isOpen_answered (g : Guest) (results : List Word) :
    (⟨answered g t results, outer⟩ : Activity).isOpen outer.length = false :=
  decide_eq_false (Nat.lt_irrefl _)

/-! ## Refusals -/

/-- **A thread whose host call was refused**: it waits for an error or for room for a document, or it
was told by a word other than zero. -/
inductive Refused (t : Thread) (outer : List (Thread × Delivery)) : Guest → Activity → Prop
  | waiting (g : Guest) {call : PendingCall} {e : CallbackError} (h : call.reply = .error e) :
      Refused t outer g ⟨.awaiting t call, outer⟩
  | placing (g : Guest) {d : Delivery} (h : d.failed = true) (inner : Activity) :
      Refused t outer g (inner.above ((t, d) :: outer))
  | told (g : Guest) {word : Word} (h : word ≠ 0) : Refused t outer g ⟨answered g t [word], outer⟩

theorem failure_ne_zero : Packed.failure ≠ 0 := by decide

/-- **Whoever is to be told of an error was refused.** -/
theorem refused_deliver (h : d.failed = true) (b : Body) (w : World σ) (g : Guest)
    (allocator : String) :
    Refused t outer (deliver b w g allocator t d outer).2.1
      (deliver b w g allocator t d outer).2.2 := by
  unfold deliver
  split
  · exact .told g failure_ne_zero
  · rename_i hsize
    split
    · exact .told g failure_ne_zero
    · split
      · rename_i hempty
        rw [h, hempty] at hsize
        exact absurd rfl hsize
      · split
        · exact .told (g.poison _) failure_ne_zero
        · exact .placing _ h ⟨_, []⟩

/-- Whatever the allocator comes to, no refusal is told by zero. -/
theorem refused_placed (h : d.failed = true) (b : Body) (w : World σ) (g : Guest)
    (result : Result) :
    Refused t outer (placed b w g result t d).2.1 ⟨(placed b w g result t d).2.2, outer⟩ := by
  unfold placed
  dsimp only
  split
  · exact .told (g.poison _) failure_ne_zero
  · exact .told (g.withMemory _ _) (Delivery.word_ne_zero h _)

/-- **Refusals are not taken back**: in any world, a round of a host call that was refused leaves it
refused. -/
theorem Refused.round (h : Refused t outer g a) (ho : a.isOpen outer.length = true) (b : Body)
    (v : World σ) :
    ∃ (v' : World σ) (g' : Guest) (s : Standing Activity Result) (a' : Activity),
      Activity.round b v g a = (v', g', s) ∧ s.work? = some a' ∧ Refused t outer g' a' := by
  cases h with
  | @waiting call e hreply =>
    have hcomplete (e : CallbackError) : Refused t outer (complete b v g t call (.error e) outer).2.1
        (complete b v g t call (.error e) outer).2.2 :=
      refused_deliver (d := delivery call.request (.error e)) rfl ..
    rw [Activity.round]
    dsimp only
    split
    · exact ⟨_, _, _, _, rfl, rfl, .waiting g hreply⟩
    · rename_i reply hguard
      -- The work counts if it is done, and its reply is the error.
      have hsame : reply = .error e := by
        split at hguard
        · exact (Except.ok.inj (Option.some.inj hguard)).symm.trans hreply
        · obtain ⟨_, -, hx⟩ := Option.map_eq_some_iff.mp hguard
          cases hx
      rw [hsame]
      exact ⟨_, _, _, _, rfl, rfl, hcomplete e⟩
    · exact ⟨_, _, _, _, rfl, rfl, hcomplete _⟩
  | @placing d hfailed inner =>
    rw [round_above]
    generalize Activity.round b v g inner = turn
    obtain ⟨v', g', s⟩ := turn
    cases s with
    | busy inner' => exact ⟨_, _, _, _, rfl, rfl, .placing g' hfailed inner'⟩
    | blocked inner' => exact ⟨_, _, _, _, rfl, rfl, .placing g' hfailed inner'⟩
    | ended result => exact ⟨_, _, _, _, rfl, rfl, refused_placed hfailed b v' g' result⟩
  | told hword =>
    rw [isOpen_answered] at ho
    cases ho

/-- **What was refused stays refused** until it is answered, and then, too. -/
theorem Refused.untilAnswered (h : Refused t outer g a) (b : Body) (vs : List (World σ)) :
    Refused t outer (Activity.untilAnswered b outer.length vs g a).1
      (Activity.untilAnswered b outer.length vs g a).2 :=
  untilAnswered_induction h (fun v _ _ hrefused ho => hrefused.round ho b v) vs

/-! ## Replies that take no room -/

/-- **An empty reply that is there is told by zero**, at once and in any world. -/
theorem untilAnswered_of_empty {call : PendingCall} {find : Nat} {v : World σ}
    (hreply : call.reply = .ok ByteArray.empty) (hdue : call.due ≤ v.clock.now)
    (hf : b.function? call.allocator Body.allocatorType = some find) (g : Guest)
    (vs : List (World σ)) :
    untilAnswered b outer.length (v :: vs) g ⟨.awaiting t call, outer⟩ =
      (g, ⟨answered g t [0], outer⟩) := by
  have hopen : (⟨.awaiting t call, outer⟩ : Activity).isOpen outer.length = true :=
    decide_eq_true (Nat.le_refl _)
  have hdelivered : deliver b
      (v.report (HostCall.completed call.context call.request call.reply)) g call.allocator t
      (delivery call.request call.reply) outer =
        (v.report (HostCall.completed call.context call.request call.reply), g,
          ⟨answered g t [0], outer⟩) := by
    have habove := deliver_above b
      (v.report (HostCall.completed call.context call.request call.reply)) g call.allocator t
      (delivery call.request call.reply) [] outer
    rw [deliver_of_empty hf (by rw [hreply]; rfl)] at habove
    refine habove.trans ?_
    rw [hreply]
    rfl
  have hround : round b v g ⟨.awaiting t call, outer⟩ = _ := round_of_due hdue
  rw [complete, hdelivered] at hround
  rw [untilAnswered_of_round hopen hround rfl]
  exact untilAnswered_of_answered (isOpen_answered ..)

/-! ## Updates -/

/-- **What a host call names**, if it names a request. -/
def named? (b : Body) (g : Guest) (args : List Word) : Option HostRequest :=
  match b.memory?, HostCall.pairs? args with
  | some index, some (space, operation, key, payload) =>
    (HostCall.read (g.memory index) space operation key payload).toOption
  | _, _ => none

/-- **The update that a host call makes**, if it makes one: what it names, if its context is open and
the key is not empty. -/
def update? (b : Body) (w : World σ) (g : Guest) (args : List Word) : Option HostRequest :=
  (named? b g args).filter fun r =>
    ((contextOf b w g).2.interruption w.clock).isNone && !r.key.isEmpty

/-- A host call asks for what it names, if its context is open. -/
theorem asked?_eq (hf : b.imports[func]? = some (.hostCall allocator)) :
    asked? b w g ⟨.acting (.calling t func args), outer⟩ =
      if ((contextOf b w g).2.interruption w.clock).isNone then
        (named? b g args).map ((contextOf b w g).2, ·)
      else none := by
  have hclock := contextOf_clock b w g
  simp only [asked?, hf, named?]
  cases b.memory? with
  | none => simp
  | some index =>
    cases HostCall.pairs? args with
    | none => simp
    | some pairs =>
      obtain ⟨space, operation, key, payload⟩ := pairs
      dsimp only
      cases HostCall.read (g.memory index) space operation key payload with
      | error e => simp [Except.toOption]
      | ok r => simp [Except.toOption, hclock]

/-- **A host call that asks nothing is refused.** -/
theorem refused_round (hf : b.imports[func]? = some (.hostCall allocator))
    (h : asked? b w g ⟨.acting (.calling t func args), outer⟩ = none) :
    ∃ (v : World σ) (g' : Guest) (a' : Activity),
      round b w g ⟨.acting (.calling t func args), outer⟩ = (v, g', .busy a') ∧
        Refused t outer g' a' := by
  refine ⟨_, _, _, rfl, ?_⟩
  have hmemory (index : Nat) : g.recordHostCall.memory index = g.memory index := rfl
  have hcontext : contextOf b w g.recordHostCall = contextOf b w g := rfl
  simp only [hf, hostCall, hmemory, hcontext]
  cases hm : b.memory? with
  | none => exact .told _ failure_ne_zero
  | some index =>
    cases hargs : HostCall.pairs? args with
    | none => exact .told _ failure_ne_zero
    | some pairs =>
      obtain ⟨space, operation, key, payload⟩ := pairs
      dsimp only
      cases hread : HostCall.read (g.memory index) space operation key payload with
      | error e =>
        cases e with
        | callback e => exact refused_deliver rfl ..
        | _ => exact .told _ failure_ne_zero
      | ok request =>
        dsimp only
        cases hopen : (contextOf b w g).2.interruption (contextOf b w g).1.clock with
        | some why => exact refused_deliver (d := delivery request _) rfl ..
        | none =>
          simp only [asked?, hf, hm, hargs, hread, hopen] at h
          cases h

/-- **Whether a thread is told the truth** about the update that it made or did not make, from here
on.  Nothing is assumed of the worlds in which the rounds follow but that time goes on: between two
rounds anybody else may have had any number of turns, and contexts may have ended.

* It is told by a single word, which is zero if and only if the update was made (`answer`).
* If it was made, the thread is told so in the next round (`prompt`).
* Whoever is to be told by a document, such as that of an interrupted request, made none
  (`document`).
* Until the thread is told, nothing is asked but by the allocator that runs on top of it
  (`silent`). -/
structure Truthful (σ : Type) (b : Body) (now : Nat) (t : Thread) (outer : List (Thread × Delivery))
    (made : Bool) (g : Guest) (a : Activity) : Prop where
  answer : ∀ vs : List (World σ), (∀ v ∈ vs, now ≤ v.clock.now) →
    let x := untilAnswered b outer.length vs g a
    x.2.isOpen outer.length = true ∨
      ∃ word, x.2 = ⟨answered x.1 t [word], outer⟩ ∧ (word = 0 ↔ made = true)
  prompt : made = true → ∀ (v : World σ) (vs : List (World σ)), now ≤ v.clock.now →
    let x := untilAnswered b outer.length (v :: vs) g a
    x.2 = ⟨answered x.1 t [0], outer⟩
  document : ∀ vs : List (World σ), (∀ v ∈ vs, now ≤ v.clock.now) →
    ∀ (d : Delivery) (inner : Activity),
      (untilAnswered b outer.length vs g a).2 = inner.above ((t, d) :: outer) →
        d.failed = true ∧ made = false
  silent : ∀ (v : World σ) (vs : List (World σ)),
    let x := untilAnswered b outer.length vs g a
    x.2.isOpen outer.length = true → (round b v x.1 x.2).1.state = v.state ∨
      outer.length < x.2.outer.length ∧ ∃ t func args, x.2.focus = .acting (.calling t func args)

/-- A round of whoever waits for an answer asks nothing, unless it is one on top that asks. -/
theorem silent_of_isOpen (h : a.isOpen depth = true) (b : Body) (v : World σ) (g : Guest) :
    (round b v g a).1.state = v.state ∨
      depth < a.outer.length ∧ ∃ t func args, a.focus = .acting (.calling t func args) := by
  have hhears := (round_hears b v g a).state
  obtain ⟨focus, above⟩ := a
  match focus with
  | .acting (.calling t func args) =>
    exact .inr ⟨of_decide_eq_true h, t, func, args, rfl⟩
  | .acting (.running _) | .acting (.returned _) | .acting (.stopped _) | .awaiting _ _ =>
    rw [asked?_eq_none (by rintro _ _ _ ⟨⟩)] at hhears
    exact .inl hhears

/-- **Whoever was refused is told so.** -/
theorem Refused.truthful (h : Refused t outer g a) (b : Body) (now : Nat) :
    Truthful σ b now t outer false g a where
  answer vs _ := by
    have hrefused := h.untilAnswered b vs
    generalize Activity.untilAnswered b outer.length vs g a = x at hrefused
    obtain ⟨g', a'⟩ := x
    dsimp only at hrefused ⊢
    cases hrefused with
    | waiting hreply => exact .inl (decide_eq_true (Nat.le_refl _))
    | placing hfailed inner => exact .inl (isOpen_above inner)
    | told hword => exact .inr ⟨_, rfl, by simp [hword]⟩
  prompt hmade := by cases hmade
  document vs _ d inner heq := by
    have hrefused := h.untilAnswered b vs
    rw [heq] at hrefused
    have hne : (inner.above ((t, d) :: outer)).outer ≠ outer := outer_above_ne inner
    generalize ha : inner.above ((t, d) :: outer) = a' at hrefused hne
    cases hrefused with
    | waiting hreply => exact absurd rfl hne
    | @placing d' hfailed inner' =>
      have houter := congrArg Activity.outer ha
      obtain ⟨-, hlast⟩ := List.append_inj' houter rfl
      obtain rfl : d = d' := congrArg Prod.snd (List.cons.inj hlast).1
      exact ⟨hfailed, rfl⟩
    | told hword => exact absurd rfl hne
  silent v vs ho := silent_of_isOpen ho b v _

/-- **Whoever made an update is told so.** -/
theorem truthful_of_empty {call : PendingCall} {find now : Nat}
    (hreply : call.reply = .ok ByteArray.empty) (hdue : call.due ≤ now)
    (hf : b.function? call.allocator Body.allocatorType = some find) (g : Guest) :
    Truthful σ b now t outer true g ⟨.awaiting t call, outer⟩ where
  answer vs hvs := by
    cases vs with
    | nil => exact .inl (decide_eq_true (Nat.le_refl _))
    | cons v vs =>
      have hnow := Nat.le_trans hdue (hvs v List.mem_cons_self)
      rw [untilAnswered_of_empty hreply hnow hf]
      exact .inr ⟨0, rfl, by simp⟩
  prompt _ v vs hv := by
    rw [untilAnswered_of_empty hreply (Nat.le_trans hdue hv) hf]
  document vs hvs d inner heq := by
    -- At no time does anything run on top of it.
    refine absurd ((congrArg Activity.outer heq).symm.trans ?_) (outer_above_ne inner)
    cases vs with
    | nil => rfl
    | cons v vs =>
      have hnow := Nat.le_trans hdue (hvs v List.mem_cons_self)
      rw [untilAnswered_of_empty hreply hnow hf]
  silent v vs ho := silent_of_isOpen ho b v _

/-- **The answer to an update can be trusted.**  A host call that names nothing but updates, if it
names anything, makes the update that it names if its context is open and the key is not empty, and
changes nothing else.  If there is an allocator, the thread is told the truth about that. -/
theorem trustworthy {w : World Router} {store : KeyValue} {find : Nat}
    (hw : w.callback = Router.callback) (hstore : w.state.store? = some store)
    (hf : b.imports[func]? = some (.hostCall allocator))
    (hfind : b.function? allocator Body.allocatorType = some find)
    (hupdate : ∀ r, named? b g args = some r → r.IsUpdate) :
    ∃ (v : World Router) (g' : Guest) (a : Activity),
      round b w g ⟨.acting (.calling t func args), outer⟩ = (v, g', .busy a) ∧
        v.state = (update? b w g args).elim w.state (fun r => w.state.withStore (store.updated r)) ∧
        Truthful Router b w.clock.now t outer (update? b w g args).isSome g' a := by
  have hhears := (round_hears b w g ⟨.acting (.calling t func args), outer⟩).state
  have hasked : asked? b w g ⟨.acting (.calling t func args), outer⟩ = _ := asked?_eq hf
  cases ha : asked? b w g ⟨.acting (.calling t func args), outer⟩ with
  | none =>
    -- Nothing is asked, so no update was named in an open context.
    have hnone : update? b w g args = none := by
      rw [ha] at hasked
      unfold update?
      split at hasked
      · rw [Option.map_eq_none_iff.mp hasked.symm]
        rfl
      · rename_i hopen
        rw [Bool.not_eq_true] at hopen
        simp [hopen]
    obtain ⟨v, g', a, hr, hrefused⟩ := refused_round hf ha
    rw [hr, ha] at hhears
    rw [hnone]
    exact ⟨v, g', a, hr, hhears, hrefused.truthful b w.clock.now⟩
  | some q =>
    obtain ⟨c, r⟩ := q
    obtain ⟨hopen, hnamed⟩ : ((contextOf b w g).2.interruption w.clock).isNone = true ∧
        named? b g args = some r := by
      rw [ha] at hasked
      split at hasked
      · rename_i hopen
        obtain ⟨r', hr', hq⟩ := Option.map_eq_some_iff.mp hasked.symm
        cases hq
        exact ⟨hopen, hr'⟩
      · cases hasked
    have hanswer := Router.callback_update hstore (hupdate r hnamed) c
    have hround := round_of_asked hf ha
    rw [hw] at hround
    rw [ha, hw] at hhears
    generalize round b w g ⟨.acting (.calling t func args), outer⟩ = turn at hhears hround
    obtain ⟨v, next⟩ := turn
    obtain rfl := hround
    refine ⟨v, _, _, rfl, ?_⟩
    obtain ⟨hdelay, hanswer⟩ := hanswer
    -- The store refuses an update without a key, and makes any other.
    cases hkey : r.key.isEmpty with
    | true =>
      have hnone : update? b w g args = none := by
        simp only [update?, hnamed, Option.filter_some, hkey, Bool.not_true, Bool.and_false,
          Bool.false_eq_true, if_false]
      rw [hkey, if_pos rfl] at hanswer
      rw [hnone]
      exact ⟨hhears.trans hanswer.1, Refused.truthful (.waiting _ hanswer.2) b w.clock.now⟩
    | false =>
      have hsome : update? b w g args = some r := by
        simp only [update?, hnamed, Option.filter_some, hopen, hkey, Bool.not_false, Bool.and_self,
          if_true]
      rw [hkey, if_neg Bool.false_ne_true] at hanswer
      rw [hsome, Option.elim_some, Option.isSome_some]
      have hstate : v.state = w.state.withStore (store.updated r) := hhears.trans hanswer.1
      refine ⟨hstate, ?_⟩
      apply truthful_of_empty
      · exact hanswer.2
      · exact Nat.le_of_eq (by rw [hdelay, Nat.add_zero])
      · exact hfind

end Activity

end FunctionHost

import FunctionHost.Proofs.Guest.Context
import FunctionHost.Proofs.Guest.Request
import FunctionHost.Proofs.Pool.Owned

/-!
# Calls that are broken off

Whoever makes a call on a lease may give it up where it waits.  If the lease is dropped along with
the call, the instance is destroyed.  But a lease may outlive its call, and then nothing is done of
what the end of the call would have done: the instance is not faulted, and its guest keeps the
request (`Situation.Carries`).  The request stays with it when it comes back, tidies up, becomes idle
and is lent to somebody else, **until the next call begins** (`Situation.Carries.live`).  In
particular the guest tidies up in the name of a request that is over.
-/
namespace FunctionHost

variable {σ : Type}

/-! ## How calls and resets begin -/

/-- **A call that has begun** has put its context in the place of any other. -/
theorem Call.begin_context {w v : World σ} {i j : Instance} {c : Context} {entrypoint : String}
    {payload : Bytes} {s : Standing Call Call.Result} {x : Call}
    (h : begin w i c entrypoint payload = (v, j, s)) (hx : s.work? = some x) :
    j.guest.context = some x.context := by
  have hturn := begins w i c entrypoint payload
  generalize begin w i c entrypoint payload = turn at h hturn
  cases hturn with
  | refused | missing | hindered =>
    cases h
    cases hx
  | entered | allocating =>
    cases h
    cases hx
    rfl

namespace Reset

/-- **How a reset begins** on an instance that is well and has not grown too large: if the guest has
a function for it that is run, and else the reset is over. -/
theorem begin_of_fits (w : World σ) {i : Instance} (hfit : i.isFaulted = false)
    (hsize : i.memory.size ≤ i.body.execution.maxMemoryBytes) :
    match i.body.function? "reset" Body.actionType with
    | none => (begin w i).2.2 = .ended (.ok ())
    | some _ => ∃ r, (begin w i).2.2 = .busy r := by
  unfold begin
  simp only [hfit, Bool.false_eq_true, if_false, if_neg (Nat.not_lt.mpr hsize)]
  cases i.body.function? "reset" Body.actionType with
  | none => rfl
  | some func => exact ⟨_, rfl⟩

end Reset

/-! ## Requests that nobody serves -/

/-- Whether a deed is the beginning of a call. -/
def Deed.Begins : Deed σ → Prop
  | .begun _ _ _ _ => True
  | _ => False

namespace Situation

/-- **Whether an instance carries a request that nobody serves**: no call is in progress on it, and
still its guest has the context. -/
def Carries (c : Context) : Situation → Prop
  | .idle i | .leased i none | .pending i | .resetting i _ => i.guest.context = some c
  | .leased _ (some _) | .making _ => False

variable {c : Context} {s s' : Situation}

theorem carries_tidied {i : Instance} {t : Standing Reset Reset.Result}
    (hi : i.guest.context = some c) (h : tidied i t = some s) : s.Carries c := by
  match t with
  | .busy r | .blocked r =>
    obtain rfl := Option.some.inj h
    exact hi
  | .ended (.ok _) =>
    obtain rfl := Option.some.inj h
    show (i.setState .idle).guest.context = some c
    rw [Instance.guest_setState]
    exact hi
  | .ended (.error _) => cases h

/-- **A request stays** whatever is done to the instance, unless a call begins. -/
theorem Carries.after {d : Deed σ} (h : s.Carries c) (hd : ¬ d.Begins)
    (hs : s.after d = some s') : s'.Carries c := by
  cases d with
  | begun w e entrypoint payload => exact absurd trivial hd
  | lent =>
    cases s with
    | idle i =>
      obtain rfl := Option.some.inj hs
      show (i.setState .leased).guest.context = some c
      rw [Instance.guest_setState]
      exact h
    | _ =>
      obtain rfl := Option.some.inj hs
      exact h
  | called _ _ | dropped | returned =>
    match s with
    | .leased i (some x) => exact h.elim
    | .leased i none | .idle i | .pending i | .resetting i r | .making b =>
      obtain rfl := Option.some.inj hs
      exact h
  | abandoned =>
    match s with
    | .leased i (some x) => exact h.elim
    | .leased i none =>
      obtain rfl := Option.some.inj hs
      show (i.setState .faulted).guest.context = some c
      rw [Instance.guest_setState]
      exact h
    | .idle i | .pending i | .resetting i r | .making b =>
      obtain rfl := Option.some.inj hs
      exact h
  -- Tidying up keeps the request, and nothing that is being made has one.
  | restored rounds w =>
    match s with
    | .idle i | .leased i call =>
      obtain rfl := Option.some.inj hs
      exact h
    | .pending i =>
      simp only [Situation.after] at hs
      split at hs
      · cases hs
      · exact carries_tidied ((Reset.begin_context w i).trans h) hs
    | .resetting i r => exact carries_tidied ((Reset.proceed_context rounds w i r).trans h) hs
    | .making b => exact h.elim

/-- **A request stays until the next call begins**, whatever else is done to the instance. -/
theorem Carries.live {deeds : List (Deed σ)} (h : s.Carries c) (hd : ∀ d ∈ deeds, ¬ d.Begins)
    (hs : s.live deeds = some s') : s'.Carries c := by
  induction deeds generalizing s with
  | nil =>
    obtain rfl := Option.some.inj hs
    exact h
  | cons d deeds ih =>
    obtain ⟨t, ht, hrest⟩ := Option.bind_eq_some_iff.mp hs
    exact ih (h.after (hd d List.mem_cons_self) ht)
      (fun e he => hd e (List.mem_cons_of_mem d he)) hrest

end Situation

/-! ## Calls in progress -/

/-- **Whether the call in progress is the one that the guest serves**, if one is. -/
def Holding.Attached : Holding → Prop
  | .leased l => ∀ x ∈ l.call, l.held.guest.context = some x.context
  | _ => True

/-- A turn of a call leaves the guest with its context, or it is over. -/
theorem Calls.attached {w : World σ} {a : PoolAct} {l l' : Lease} (h : Calls w l a l')
    (hl : (Holding.leased l).Attached) : (Holding.leased l').Attached := by
  intro x hx
  cases h with
  | begun h => exact Call.begin_context h hx
  | @further rounds c v i s hc h =>
    have hattached := (Call.proceed_attached rounds w (hl c hc)).1
    rw [h] at hattached
    exact hattached.trans (congrArg (Option.map Call.context) hx)
  | dropped => cases hx

namespace Pool

variable {p : Pool} {b : Blueprint} {size : Nat} {timeout : Option Nat}

theorem Becomes.attached {w : World σ} {a : PoolAct} {x y : Holding} {n : Nat}
    (h : Becomes w p a x y n) (hx : x.Attached) : y.Attached := by
  cases h with
  | lent ha => exact fun _ hc => nomatch hc
  | called hl h => exact h.attached hx
  | _ => trivial

theorem attached_run (hp : Filled σ b size timeout p) (ms : List (Moment σ)) :
    ∀ x ∈ (p.run ms).holdings, x.Attached := by
  have hall : Kindred (p.run ms) ∧ ∀ x ∈ (p.run ms).holdings, x.Attached := by
    refine run_induction (I := fun q => Kindred q ∧ ∀ x ∈ q.holdings, x.Attached)
      ⟨kindred_of_filled hp, fun x hx => ?_⟩ (fun q m ⟨hk, hattached⟩ => ?_) ms
    · obtain ⟨i, -, rfl⟩ := eq_idle_of_filled hp hx
      trivial
    · have hm := perform_moves m.world q m.act
      exact ⟨hk.moves hm, (hm.shifts hk.numbered).all hattached
        fun x hx _ _ hb => hb.attached (hattached x hx)⟩
  exact hall.2

/-! ## What becomes of an instance whose call was broken off -/

variable {q : Pool} {l : Lease} {x : Call}

/-- An instance that is given back waits to be restored, as it is. -/
theorem Kindred.mem_release (hk : Kindred q) (w : World σ) (hl : l ∈ q.leases) :
    ⟨q.nextNumber, l.held.id, .pending l.held⟩ ∈
      ((PoolAct.release l.number).perform w q).restorations := by
  simp only [PoolAct.perform, Pool.release, hk.numbered.lease? hl]
  exact List.mem_append_right _ (List.mem_singleton_self _)

theorem closed_release (q : Pool) (w : World σ) (number : Nat) :
    ((PoolAct.release number).perform w q).closed = q.closed := by
  simp only [PoolAct.perform, Pool.release]
  split <;> rfl

/-- **An instance that is well passes the first turn of its restoration** in an open pool, if it has
not grown too large: it tidies up or is idle, and carries what it carried before. -/
theorem Kindred.mem_restored (hk : Kindred q) {n id : Nat} {i : Instance} {c : Context}
    (hr : ⟨n, id, .pending i⟩ ∈ q.restorations) (hopen : q.closed = false)
    (hfit : i.isFaulted = false) (hsize : i.memory.size ≤ i.body.execution.maxMemoryBytes)
    (hi : i.guest.context = some c) (rounds : Nat) (w : World σ) :
    ∃ y ∈ ((PoolAct.proceedRestoration rounds n).perform w q).holdings,
      y.id = i.id ∧ y.situation.Carries c ∧
        match i.body.function? "reset" Body.actionType with
        | none => ∃ j, y.situation = .idle j
        | some _ => ∃ j r, y.situation = .resetting j r := by
  have hbegin := Reset.begin_of_fits w hfit hsize
  have hcontext := (Reset.begin_context w i).trans hi
  have hid := (Reset.begin_same w i).id
  simp only [PoolAct.perform, proceedRestoration, hk.numbered.restoration? hr, startRestoration,
    hfit, Bool.false_eq_true, if_false]
  generalize Reset.begin w i = turn at hbegin hcontext hid
  obtain ⟨v, j, s⟩ := turn
  split at hbegin
  · obtain rfl : s = .ended (.ok ()) := hbegin
    refine ⟨.idle (j.setState .idle), ?_, (j.id_setState .idle).trans hid,
      Situation.carries_tidied (t := .ended (.ok ())) hcontext rfl, _, rfl⟩
    simp only [afterReset, hopen, Bool.false_eq_true, if_false]
    exact mem_holdings_idle.mpr List.mem_cons_self
  · obtain ⟨r, rfl : s = .busy r⟩ := hbegin
    refine ⟨.returning ⟨n, id, .resetting j r⟩, ?_, hid, hcontext, _, _, rfl⟩
    have hset := setRestoration_perm hk.numbered (hk.numbered.restoration? hr) (.resetting j r)
    exact (holdings_returning hset).mem_iff.mpr List.mem_cons_self

/-- **What a call leaves behind that is broken off.**  At every moment of a run of a filled pool,
whatever its tasks do in whatever order, a call in progress may be given up and its lease kept:

* the instance is leased as the call left it, and it is not faulted;
* until the next call begins on it, it carries the request that nobody serves any more, wherever it
  is: coming back, idle, or lent to somebody else.  Whatever its guest asks while it tidies up, it
  asks with the context of that request;
* if the lease is dropped, the instance is faulted and stays so, hence is never idle again nor lent;
* if the lease is given back to an open pool, and the instance has not grown too large, then it is
  not destroyed: its guest tidies up if it has a function for that, and else it is idle at once. -/
theorem broken_off_carries (hp : Filled σ b size timeout p) (ms : List (Moment σ)) :
    let q := p.run ms
    ∀ l ∈ q.leases, ∀ x ∈ l.call, ∀ v : World σ,
      let left := (PoolAct.dropCall l.number).perform v q
      ({ l with call := none } ∈ left.leases ∧ l.held.isFaulted = false) ∧
      (∀ ms' : List (Moment σ), (∀ d ∈ left.deeds l.held.id ms', ¬ d.Begins) →
        ∀ y ∈ (left.run ms').holdings, y.id = l.held.id →
          y.situation.Carries x.context ∧
          ∀ i r, y.situation = .resetting i r → ∀ rounds (w : World σ),
            ∀ asked ∈ Activity.asked i.body rounds w i.guest r.activity, asked.1 = x.context) ∧
      (∀ (w : World σ) (ms' : List (Moment σ)),
        ∀ y ∈ (((PoolAct.abandon l.number).perform w left).run ms').holdings,
          y.id = l.held.id → y.isFaulted = true) ∧
      (q.closed = false → l.held.memory.size ≤ l.held.body.execution.maxMemoryBytes →
        ∀ (w : World σ) rounds (w' : World σ),
          let back := (PoolAct.release l.number).perform w left
          ∃ y ∈ ((PoolAct.proceedRestoration rounds left.nextNumber).perform w' back).holdings,
            y.id = l.held.id ∧ y.situation.Carries x.context ∧
              match l.held.body.function? "reset" Body.actionType with
              | none => ∃ i, y.situation = .idle i
              | some _ => ∃ i r, y.situation = .resetting i r) := by
  intro q l hl x hx v left
  have h : Sound q := (sound_of_filled hp).run ms
  have hsound : Sound left := h.perform v _
  have hcontext : l.held.guest.context = some x.context :=
    attached_run hp ms _ (mem_holdings_leased.mpr hl) x hx
  -- On a faulted instance no call would be in progress.
  have hfit : l.held.isFaulted = false := by
    refine Bool.eq_false_iff.mpr fun hf => ?_
    exact nomatch hx.symm.trans (h.resting _ (mem_holdings_leased.mpr hl) hf)
  -- Giving up the call leaves the lease as it is without it, and nothing else is done.
  have hleft : left = q.setLease { l with call := none } := by
    simp only [left, PoolAct.perform, dropCall, h.kindred.numbered.lease? hl]
  let l' : Lease := { l with call := none }
  have hmem : l' ∈ left.leases := hleft ▸ mem_setLease hl rfl
  refine ⟨⟨hmem, hfit⟩, fun ms' hms' y hy hid => ?_, fun w ms' y hy hid => ?_,
    fun hopen hsize w rounds w' => ?_⟩
  · have hlives := live_run hsound.kindred ms' (mem_holdings_leased.mpr hmem) hy hid
    have hcarries : y.situation.Carries x.context :=
      Situation.Carries.live (s := .leased l.held none) hcontext hms' hlives
    refine ⟨hcarries, fun i r hs rounds w => ?_⟩
    rw [hs] at hcarries
    exact Activity.asked_of_context hcarries
  · obtain ⟨z, hz, hzid, hf⟩ := hsound.kindred.abandoned_isFaulted w hmem
    exact (hsound.perform w _).isFaulted_run ms' hz hf hy (hid.trans hzid.symm)
  · have hback := (hsound.perform w (.release l.number)).kindred
    have hclosed := (closed_release left w l.number).trans ((congrArg closed hleft).trans hopen)
    exact hback.mem_restored (hsound.kindred.mem_release (l := l') w hmem) hclosed hfit hsize
      hcontext rounds w'

end Pool

/-- A world in which every host call takes a second. -/
def World.tardy : World Unit :=
  { callback := fun _ _ _ => { state := (), reply := .ok ByteArray.empty, delay := 1000 }
    state := () }

/-- A blueprint whose guests make a host call when they are called. -/
def Blueprint.relaying : Blueprint :=
  { name := "relaying"
    program := Body.relay.program
    contentHash := ""
    linker := { hostCall := some "allocate" }
    execution := {} }

namespace Pool

/-- **An instance whose call was broken off is handed out again**: the guest waits for the answer to
its host call when the call is given up.  The lease is given back, and whoever asks for an instance
next gets that one, with the context of the request. -/
theorem relaying_run_broken_off :
    let p := filled .tardy .relaying []
    let c : Context := { request := .given "secret" }
    let before : List (Moment Unit) := [⟨.tardy, .tryCheckout⟩,
      ⟨.tardy, .beginCall 0 c "run" ByteArray.empty⟩, ⟨.tardy, .proceedCall 16 0⟩]
    let behind : List (Moment Unit) := [⟨.tardy, .dropCall 0⟩, ⟨.tardy, .release 0⟩,
      ⟨.tardy, .proceedRestoration 0 1⟩, ⟨.tardy, .tryCheckout⟩]
    Filled Unit .relaying 1 none p ∧
      (p.run before).leases.map (fun l => (l.held.id, l.call.isSome)) = [(1, true)] ∧
      callDue World.tardy.clock (p.run before) 0 = some 1000 ∧
      (p.run (before ++ behind)).leases.map (fun l =>
        (l.held.id, l.held.isFaulted, l.held.guest.context.map (·.request))) =
        [(1, false, some (.given "secret"))] := by
  intro p c before behind
  exact ⟨⟨.tardy, [], rfl⟩, by decide +kernel, by decide +kernel, by decide +kernel⟩

end Pool
end FunctionHost

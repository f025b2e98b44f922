import FunctionHost.Proofs.Pool.Accounts
import FunctionHost.Proofs.Pool.Lives
import Mathlib.Algebra.GroupWithZero.Nat

/-!
# Drained pools

A pool that is drained is closed for ever: nobody gets an instance any more, and what is idle only
waits to be destroyed.  So the drains of a pool share out what the first one found idle, however
they take turns (`outcomes_idle`).

Whoever drains waits to be told that an instance has come back.  The count of leased instances goes
down only where they are told (`leased_le_run`), so nobody waits in vain.

Closed or not, each instance ever made is there, was destroyed, or vanished with a restoration that
was broken off (`Census`).  Once nothing is leased any more none of them is there.
-/
namespace FunctionHost

variable {σ : Type}

/-- Whether another instance took the place of one that came back. -/
def Restored.isReplaced : Restored → Bool
  | .replaced _ => true
  | _ => false

/-- Whether an instance was made in a restoration that ends like this, given whether the one that
came back was still there. -/
def Restored.afterMaking (holds : Bool) : Restored → Bool
  | .replaced _ => true
  | .discarded => !holds
  | _ => false

theorem Restored.afterMaking_true : Restored.afterMaking true = Restored.isReplaced := by
  funext o
  cases o <;> rfl

namespace PoolAct

/-- What came of draining, if the act is the end of that. -/
def outcome? (w : World σ) (p : Pool) : PoolAct → Option DrainOutcome
  | .drain deadline => (p.close.pollDrain w deadline).2.2
  | _ => none

/-- Whether an act ends the making of an instance well. -/
def creates (w : World σ) (p : Pool) : PoolAct → Bool
  | .proceedRestoration rounds number =>
    (p.restoration? number).any fun r =>
      match r.stage with
      | .replacing b => (Birth.proceed rounds w b).2.result?.any Except.toBool
      | _ => (p.proceedRestoration rounds w number).2.2.result?.any Restored.isReplaced
  | _ => false

end PoolAct

namespace Pool

/-- **What the drains of a run came to**, one after another. -/
def outcomes (p : Pool) (ms : List (Moment σ)) : List DrainOutcome :=
  p.collect (fun q m => (m.act.outcome? m.world q).toList) ms

theorem outcomes_cons (p : Pool) (m : Moment σ) (ms : List (Moment σ)) :
    p.outcomes (m :: ms) =
      (m.act.outcome? m.world p).toList ++ (m.act.perform m.world p).outcomes ms := rfl

variable {w : World σ} {p q : Pool} {a : PoolAct}

/-! ## Nobody gets an instance -/

theorem checkout_closed (hc : p.closed = true) (w : World σ) (c : Context) :
    p.checkout w c = (w, p, .ended (.error p.closedError)) := by
  rw [checkout, if_pos hc]

theorem tryCheckout_closed (hc : p.closed = true) (w : World σ) :
    p.tryCheckout w = (w, p, .error p.closedError) := by
  rw [tryCheckout, if_pos hc]

/-- Also those who wait, and those who have a permit, are refused. -/
theorem pollCheckout_closed (hc : p.closed = true) (w : World σ) (ticket : Nat) :
    (p.pollCheckout w ticket).2.2 = .ended (.error p.closedError) := by
  unfold pollCheckout
  split
  · rfl
  · rw [if_pos hc]

/-- The wait of everybody is over. -/
theorem checkoutDue_closed (hc : p.closed = true) (clock : Clock) (ticket : Nat) :
    p.checkoutDue clock ticket = some clock.now := by
  unfold checkoutDue
  split
  · rfl
  · rw [hc, Bool.true_or, if_pos rfl]

theorem closed_run (hc : p.closed = true) (ms : List (Moment σ)) : (p.run ms).closed = true :=
  run_induction (I := fun q => q.closed = true) hc
    (fun q m hq => (perform_moves m.world q m.act).closed_of_closed hq) ms

theorem closed_drain (w : World σ) (p : Pool) (deadline : Option Nat) :
    ((PoolAct.drain deadline).perform w p).closed = true := by
  simp only [PoolAct.perform, pollDrain]
  split <;> rfl

/-! ## What is idle -/

theorem perform_drain (w : World σ) (p : Pool) (deadline : Option Nat) :
    let a := PoolAct.drain deadline
    a.outcome? w p = none ∧ a.perform w p = p.close ∨
    a.outcome? w p = some ⟨p.idle.length, p.leased⟩ ∧
      a.perform w p = { p.close with idle := [], destroyed := p.destroyed + p.idle.length } := by
  simp only [PoolAct.outcome?, PoolAct.perform, pollDrain]
  split
  · exact .inr ⟨rfl, rfl⟩
  · exact .inl ⟨rfl, rfl⟩

/-- **What a drain leaves idle** and what it says to have destroyed were idle before. -/
theorem outcome?_idle (w : World σ) (p : Pool) (deadline : Option Nat) :
    let a := PoolAct.drain deadline
    (a.outcome? w p = none ∧ (a.perform w p).idle = p.idle) ∨
      ∃ o, a.outcome? w p = some o ∧ o.destroyed = p.idle.length ∧ (a.perform w p).idle = [] := by
  rcases perform_drain w p deadline with ⟨ho, hq⟩ | ⟨ho, hq⟩
  · exact .inl ⟨ho, hq ▸ rfl⟩
  · exact .inr ⟨_, ho, rfl, hq ▸ rfl⟩

/-- Nothing becomes idle in a closed pool, and only a drain takes anything away. -/
theorem Moves.idle_of_closed (h : Moves w p a q) (hc : p.closed = true) :
    q.idle = p.idle ∨ (∃ deadline, a = .drain deadline) ∧ q.idle = [] := by
  have hopen : ¬ p.closed = false := by rw [hc]; decide
  cases h with
  | lent hq hp ho hi => exact absurd ho hopen
  | restored hr h hresult =>
    cases h with
    | kept h ho => exact absurd ho hopen
    | replaced h ho => exact absurd ho hopen
    | _ => exact .inl rfl
  | emptied deadline => exact .inr ⟨⟨deadline, rfl⟩, rfl⟩
  | _ => exact .inl rfl

theorem outcome?_of_ne {a : PoolAct} (ha : ∀ deadline, a ≠ .drain deadline) :
    a.outcome? w p = none := by
  cases a with
  | drain deadline => exact absurd rfl (ha deadline)
  | _ => rfl

/-- In a closed pool an act leaves idle what was idle, or reports all that as destroyed. -/
theorem idle_perform_of_closed (hc : p.closed = true) (w : World σ) (a : PoolAct) :
    (a.outcome? w p = none ∧ (a.perform w p).idle = p.idle) ∨
      ∃ o, a.outcome? w p = some o ∧ o.destroyed = p.idle.length ∧ (a.perform w p).idle = [] := by
  by_cases ha : ∃ deadline, a = .drain deadline
  · obtain ⟨deadline, rfl⟩ := ha
    exact outcome?_idle w p deadline
  · have hne : ∀ deadline, a ≠ .drain deadline := fun deadline h => ha ⟨deadline, h⟩
    have hidle := ((perform_moves w p a).idle_of_closed hc).resolve_right fun h => ha h.1
    exact .inl ⟨outcome?_of_ne hne, hidle⟩

/-- **The drains of a closed pool share out what was idle**: what they report as destroyed and what
is still idle add up to it, and nothing is left as soon as one of them reports. -/
theorem outcomes_idle (hc : p.closed = true) (ms : List (Moment σ)) :
    ((p.outcomes ms).map DrainOutcome.destroyed).sum + (p.run ms).idle.length = p.idle.length ∧
      (p.outcomes ms = [] ∧ (p.run ms).idle = p.idle ∨ (p.run ms).idle = []) := by
  induction ms generalizing p with
  | nil => exact ⟨Nat.zero_add _, .inl ⟨rfl, rfl⟩⟩
  | cons m ms ih =>
    obtain ⟨hsum, hidle⟩ := ih ((perform_moves m.world p m.act).closed_of_closed hc)
    rw [run_cons, outcomes_cons]
    rcases idle_perform_of_closed hc m.world m.act with ⟨ho, hq⟩ | ⟨o, ho, hd, hq⟩
    · rw [hq] at hsum hidle
      rw [ho]
      exact ⟨hsum, hidle⟩
    · rw [hq] at hsum hidle
      have hempty : ((m.act.perform m.world p).run ms).idle = [] := hidle.elim And.right id
      rw [ho]
      refine ⟨?_, .inr hempty⟩
      simp only [Option.toList_some, List.singleton_append, List.map_cons, List.sum_cons]
      simp only [hempty, List.length_nil] at hsum ⊢
      omega

/-- The same from the first drain on, which closes the pool. -/
theorem outcomes_idle_of_drain {m : Moment σ} {deadline : Option Nat}
    (hm : m.act = .drain deadline) (ms : List (Moment σ)) :
    ((p.outcomes (m :: ms)).map DrainOutcome.destroyed).sum + (p.run (m :: ms)).idle.length =
        p.idle.length ∧
      (p.outcomes (m :: ms) = [] ∧ (p.run (m :: ms)).idle = p.idle ∨
        (p.run (m :: ms)).idle = []) := by
  -- Draining an open pool is closing it and draining it then.
  have hclose : m.act.perform m.world p.close = m.act.perform m.world p ∧
      m.act.outcome? m.world p.close = m.act.outcome? m.world p := by
    rw [hm]; exact ⟨rfl, rfl⟩
  have h := outcomes_idle (p := p.close) rfl (m :: ms)
  rw [outcomes_cons, run_cons, hclose.1, hclose.2] at h
  exact h

/-! ## Waiting for what is leased -/

/-- A drain that stops reports what is leased, and if that is anything its time is up. -/
theorem outcome?_leased {deadline : Option Nat} {o : DrainOutcome}
    (h : (PoolAct.drain deadline).outcome? w p = some o) :
    o.outstanding = p.leased ∧ o.destroyed = p.idle.length ∧
      (o.outstanding = 0 ∨ ∃ t, deadline = some t ∧ t ≤ w.clock.now) := by
  simp only [PoolAct.outcome?, pollDrain] at h
  split at h
  · rename_i hover
    cases h
    refine ⟨rfl, rfl, ?_⟩
    rcases Bool.or_eq_true_iff.mp hover with hz | ht
    · exact .inl (of_decide_eq_true hz)
    · cases deadline with
      | none => cases ht
      | some t => exact .inr ⟨t, rfl, of_decide_eq_true ht⟩
  · cases h

/-- A drain that does not stop has found something leased. -/
theorem leased_of_outcome?_eq_none {deadline : Option Nat}
    (h : (PoolAct.drain deadline).outcome? w p = none) :
    ((PoolAct.drain deadline).perform w p).leased ≠ 0 := by
  intro hz
  simp only [PoolAct.outcome?, PoolAct.perform, pollDrain] at h hz
  split at h
  · cases h
  · rename_i hover
    rw [if_neg hover] at hz
    have hz : p.close.leased = 0 := hz
    rw [drainOver, hz] at hover
    exact hover rfl

theorem isSome_outcome? (hz : p.leased = 0) (w : World σ) (deadline : Option Nat) :
    ((PoolAct.drain deadline).outcome? w p).isSome := by
  have hover : drainOver w.clock p.close deadline = true := by
    have hz : p.close.leased = 0 := hz
    rw [drainOver, hz]; rfl
  simp only [PoolAct.outcome?, pollDrain, hover, if_true]
  rfl

/-- **What is leased gets less by one at a time**, and each time those who drain are told. -/
theorem Moves.leased_le (h : Moves w p a q) :
    p.returned ≤ q.returned ∧ p.leased + p.returned ≤ q.leased + q.returned := by
  have stays {q : Pool} (hl : q.leased = p.leased) (hr : q.returned = p.returned) :
      p.returned ≤ q.returned ∧ p.leased + p.returned ≤ q.leased + q.returned :=
    ⟨Nat.le_of_eq hr.symm, Nat.le_of_eq (by rw [hl, hr])⟩
  have less : p.returned ≤ p.returned + 1 ∧
      p.leased + p.returned ≤ p.leased - 1 + (p.returned + 1) := by omega
  cases h with
  | lent hq hp ho hi => exact ⟨Nat.le_refl _, Nat.add_le_add_right (Nat.le_succ _) _⟩
  | forsaken hl => exact less
  | @restored rounds r q o hr h ho =>
    cases h with
    | tidying h hx => exact stays rfl rfl
    | replacing h hx => exact stays rfl rfl
    | kept h ho => exact less
    | discarded hc => exact less
    | replaced h ho => exact less
    | lost h => exact less
  | _ => exact stays rfl rfl

theorem leased_le_run (p : Pool) (ms : List (Moment σ)) :
    p.returned ≤ (p.run ms).returned ∧
      p.leased + p.returned ≤ (p.run ms).leased + (p.run ms).returned := by
  induction ms generalizing p with
  | nil => exact ⟨Nat.le_refl _, Nat.le_refl _⟩
  | cons m ms ih =>
    obtain ⟨hmore, hsum⟩ := (perform_moves m.world p m.act).leased_le
    obtain ⟨hmore', hsum'⟩ := ih (m.act.perform m.world p)
    exact ⟨Nat.le_trans hmore hmore', Nat.le_trans hsum hsum'⟩

/-- **Nobody waits in vain**: whoever has found something leased looks again once nothing is. -/
theorem drainDue_of_leased (hl : p.leased ≠ 0) {ms : List (Moment σ)}
    (hz : (p.run ms).leased = 0) (clock : Clock) (deadline : Option Nat) :
    drainDue clock (p.run ms) (p.await deadline) = some clock.now := by
  have hsum := (leased_le_run p ms).2
  have htold : (p.run ms).returned ≠ (p.await deadline).told := by
    show (p.run ms).returned ≠ p.returned
    omega
  rw [drainDue, if_pos htold]

/-! ## Everything that was made -/

/-- **An instance was made** if it took the place of another one, or if there is none in a closed
pool although the one that came back was gone already. -/
theorem creates_eq {rounds : Nat} {r : Restoration} (hr : p.restoration? r.number = some r) :
    (PoolAct.proceedRestoration rounds r.number).creates w p =
      ((PoolAct.proceedRestoration rounds r.number).restored? w p).any
        (Restored.afterMaking r.stage.holds) := by
  have ho : (PoolAct.proceedRestoration rounds r.number).restored? w p =
      (p.proceedRestoration rounds w r.number).2.2.result? := by
    rw [PoolAct.restored?, hr]; rfl
  rw [ho, PoolAct.creates, hr, Option.any_some]
  obtain ⟨n, id, stage⟩ := r
  cases stage with
  | pending i => rw [RestorationStage.holds, Restored.afterMaking_true]
  | resetting i x => rw [RestorationStage.holds, Restored.afterMaking_true]
  | replacing b =>
    simp only [proceedRestoration, hr]
    generalize (Birth.proceed rounds w b).2 = standing
    cases standing with
    | busy x => rfl
    | blocked x => rfl
    | ended result =>
      cases result with
      | error e => rfl
      | ok i => simp only [afterBirth]; split <;> rfl

theorem creates_of_quiet (h : a.Quiet w p) : a.creates w p = false := by
  have ho := h.restored
  cases a with
  | proceedRestoration rounds number =>
    cases hr : p.restoration? number with
    | none => rw [PoolAct.creates, hr]; rfl
    | some r =>
      obtain rfl := restoration?_number hr
      rw [creates_eq hr, ho]; rfl
  | _ => rfl

/-- **The census of a pool** in which so many instances were made after it was filled, and so many
vanished: all others are there or were destroyed. -/
def Census (p : Pool) (made vanished : Nat) : Prop :=
  p.size + made = p.destroyed +
    (p.idle.length + p.leases.length + p.restorations.countP (·.stage.holds)) + vanished

variable {n v : Nat}

/-- A lease that becomes a restoration, which is still to begin. -/
theorem Census.giveBack (hn : WellNumbered p) (h : Census p n v) {l : Lease}
    (hl : p.lease? l.number = some l) (i : Instance) :
    Census (p.giveBack { l with held := i, call := none }).1 n v := by
  have hlen := leases_of_lease? hn hl
  simp only [Census, Pool.giveBack, List.countP_append] at h ⊢
  show p.size + n = p.destroyed + (p.idle.length + (p.removeLease l.number).leases.length +
    (p.restorations.countP _ + 1)) + v
  omega

/-- A restoration that goes on, perhaps without the instance that came back. -/
theorem Census.setRestoration (hn : WellNumbered p) (h : Census p n v) {r : Restoration}
    (hr : p.restoration? r.number = some r) {stage : RestorationStage} {d : Nat}
    (hd : d + stage.holds.toNat = r.stage.holds.toNat) (m : Nat) :
    Census ({ p with destroyed := p.destroyed + d, made := m }.setRestoration
      { r with stage := stage }) n v := by
  obtain ⟨-, hcount⟩ := restorations_of_restoration? hn hr
  obtain ⟨-, hset⟩ := restorations_setRestoration hn hr stage
  show p.size + n = p.destroyed + d + (p.idle.length + p.leases.length +
    (p.setRestoration { r with stage := stage }).restorations.countP _) + v
  rw [Census] at h
  omega

/-- **A turn of a restoration keeps the census.** -/
theorem Census.restores {rounds : Nat} {r : Restoration} {o : Option Restored}
    (hn : WellNumbered p) (h : Census p n v) (hr : p.restoration? r.number = some r)
    (hR : Restores rounds w p r q o) :
    Census q (n + (o.any (Restored.afterMaking r.stage.holds)).toNat) v := by
  obtain ⟨-, hcount⟩ := restorations_of_restoration? hn hr
  have hsum : p.size + n = p.destroyed + (p.idle.length + p.leases.length +
      p.restorations.countP (·.stage.holds)) + v := h
  cases hR with
  | tidying ht hx => exact h.setRestoration hn hr (d := 0) (by rw [ht.holds]; rfl) p.made
  | replacing hb hx => exact h.setRestoration hn hr rfl _
  | kept ht ho =>
    rw [ht.holds] at hcount
    show p.size + n = p.destroyed + (p.idle.length + 1 + p.leases.length +
      (p.removeRestoration r.number).restorations.countP (·.stage.holds)) + v
    simp only [Bool.toNat_true] at hcount
    omega
  | discarded hc =>
    show p.size + (n + (!r.stage.holds).toNat) = p.destroyed + 1 + (p.idle.length +
      p.leases.length + (p.removeRestoration r.number).restorations.countP (·.stage.holds)) + v
    have hone : (!r.stage.holds).toNat + r.stage.holds.toNat = 1 := by cases r.stage.holds <;> rfl
    omega
  | replaced hb ho =>
    show p.size + (n + 1) = p.destroyed + r.stage.holds.toNat + (p.idle.length + 1 +
      p.leases.length + (p.removeRestoration r.number).restorations.countP (·.stage.holds)) + v
    omega
  | lost hb =>
    show p.size + n = p.destroyed + r.stage.holds.toNat + (p.idle.length + p.leases.length +
      (p.removeRestoration r.number).restorations.countP (·.stage.holds)) + v
    omega

/-- **An act keeps the census.** -/
theorem Census.moves (hn : WellNumbered p) (h : Census p n v) (hm : Moves w p a q) :
    Census q (n + (a.creates w p).toNat) (v + (a.vanishes p).toNat) := by
  have hsum : p.size + n = p.destroyed + (p.idle.length + p.leases.length +
      p.restorations.countP (·.stage.holds)) + v := h
  -- A quiet act makes nothing and lets nothing vanish.
  have quiet {q : Pool} (hq : a.Quiet w p) (h : Census q n v) :
      Census q (n + (a.creates w p).toNat) (v + (a.vanishes p).toNat) := by
    rw [creates_of_quiet hq, hq.vanishes]
    exact h
  cases hm with
  | still hq => exact quiet hq.toQuiet h
  | queued hq hx hg => exact quiet hq.toQuiet h
  | unqueued hq hx => exact quiet hq.toQuiet h
  | starved hq hp hi => exact quiet hq.toQuiet h
  | @lent _ hq ps hps ho i rest hi =>
    refine quiet hq.toQuiet ?_
    rw [hi, List.length_cons] at hsum
    simp only [Census, List.length_append, List.length_singleton]
    omega
  | @called _ hq l l' hl hc =>
    have hlen : (p.setLease l').leases.length = p.leases.length := List.length_map _
    refine quiet hq ?_
    show p.size + n = p.destroyed + (p.idle.length + (p.setLease l').leases.length +
      p.restorations.countP _) + v
    rw [hlen]
    exact hsum
  | returned hl => exact h.giveBack hn hl _
  | abandoned hl => exact h.giveBack hn hl _
  | @forsaken l hl =>
    have hlen := leases_of_lease? hn hl
    show p.size + n = p.destroyed + 1 + (p.idle.length + (p.removeLease l.number).leases.length +
      p.restorations.countP _) + v
    omega
  | @restored rounds r _ o hr hR ho =>
    rw [creates_eq hr, ho]
    exact h.restores hn hr hR
  | @interrupted r hr =>
    obtain ⟨-, hcount⟩ := restorations_of_restoration? hn hr
    have hv : (PoolAct.dropRestoration r.number).vanishes p = r.stage.holds := by
      rw [PoolAct.vanishes, hr]; rfl
    rw [hv]
    show p.size + n = p.destroyed + (p.idle.length + p.leases.length +
      (p.removeRestoration r.number).restorations.countP (·.stage.holds)) +
        (v + r.stage.holds.toNat)
    omega
  | closed deadline => exact h
  | emptied deadline =>
    show p.size + n = p.destroyed + p.idle.length + (0 + p.leases.length +
      p.restorations.countP _) + v
    omega

/-- **A run keeps the census.** -/
theorem Census.run (hn : WellNumbered p) (h : Census p n v) (ms : List (Moment σ)) :
    Census (p.run ms) (n + p.countMoments (fun q m => m.act.creates m.world q) ms)
      (v + p.countMoments (fun q m => m.act.vanishes q) ms) := by
  induction ms generalizing p n v with
  | nil => exact h
  | cons m ms ih =>
    have hm := perform_moves m.world p m.act
    have hstep := ih (hn.moves hm) (h.moves hn hm)
    simp only [countMoments, ← Nat.add_assoc]
    exact hstep

/-- What never vanishes was never broken off. -/
theorem vanishes_eq_zero {p : Pool} {ms : List (Moment σ)}
    (h : p.countMoments (fun q m => m.act.interrupts q) ms = 0) :
    p.countMoments (fun q m => m.act.vanishes q) ms = 0 := by
  induction ms generalizing p with
  | nil => rfl
  | cons m ms ih =>
    obtain ⟨hfirst, hrest⟩ := Nat.add_eq_zero_iff.mp h
    have hnot : m.act.interrupts p = false := Bool.toNat_eq_zero.mp hfirst
    have hv : m.act.vanishes p = false := by
      cases ha : m.act with
      | dropRestoration number =>
        rw [ha, PoolAct.interrupts, Option.isSome_eq_false_iff, Option.isNone_iff_eq_none] at hnot
        rw [PoolAct.vanishes, hnot]; rfl
      | _ => rfl
    rw [countMoments, hv, ih hrest]; rfl

theorem census_of_filled {b : Blueprint} {size : Nat} {timeout : Option Nat}
    (hp : Filled σ b size timeout p) : Census p 0 0 := by
  obtain ⟨made, i, hm, rfl⟩ := hp.eq
  simp only [Census, List.length_cons, List.length_nil, List.countP_nil]
  omega

/-- **Once no instance is there, everything that was made was destroyed.** -/
theorem Census.destroyed_eq (h : Census p n 0) (hi : p.idle = []) (hl : p.leases = [])
    (hr : p.restorations = []) : p.destroyed = p.size + n := by
  rw [Census, hi, hl, hr] at h
  exact h.symm

/-! ## Draining -/

/-- **Draining is final, and what it comes to is exact.**  At every moment of a run of a filled
pool, whatever its tasks do in whatever order:

* what is leased is held by somebody, or being restored by somebody, or its restoration was broken
  off.  A drain that stops reports all that as outstanding, and if there is any its time is up;
* a drain that does not stop has found something leased, and finds something leased for as long as it
  is not told that an instance has come back.  Once nothing is leased it has been told, looks again at
  once and stops;
* from the first drain on the pool is closed, and everybody is refused who asks for an instance,
  waits for one or has a permit for one.  What is idle stays as it is until it is destroyed.  What
  all drains report as destroyed and what is still idle add up to what was idle when the first one
  began, and nothing is idle any more when one has stopped;
* when every instance has come back then, nothing is leased, and the pool counts every instance as
  destroyed that was ever made for it, be it that the making ended only after the drain. -/
theorem drain_is_final {b : Blueprint} {size : Nat} {timeout : Option Nat}
    (hp : Filled σ b size timeout p) (ms : List (Moment σ)) :
    let q := p.run ms
    let broken := p.countMoments (fun q m => m.act.interrupts q) ms
    (q.leased = q.leases.length + q.restorations.length + broken ∧
      ∀ (w : World σ) deadline o, (PoolAct.drain deadline).outcome? w q = some o →
        o.outstanding = q.leases.length + q.restorations.length + broken ∧
        o.destroyed = q.idle.length ∧
        (o.outstanding = 0 ∨ ∃ t, deadline = some t ∧ t ≤ w.clock.now)) ∧
    (∀ (w : World σ) deadline, (PoolAct.drain deadline).outcome? w q = none →
      let next := (PoolAct.drain deadline).perform w q
      ∀ ms' : List (Moment σ),
        ((next.run ms').returned = next.returned → (next.run ms').leased ≠ 0) ∧
        ((next.run ms').leased = 0 → ∀ w' : World σ,
          drainDue w'.clock (next.run ms') (next.await deadline) = some w'.clock.now)) ∧
    (q.leased = 0 → ∀ (w : World σ) deadline, ((PoolAct.drain deadline).outcome? w q).isSome) ∧
    ∀ (m : Moment σ) deadline, m.act = .drain deadline → ∀ ms' : List (Moment σ),
      let r := q.run (m :: ms')
      let outcomes := q.outcomes (m :: ms')
      r.closed = true ∧
      (∀ (w : World σ) c, r.checkout w c = (w, r, .ended (.error r.closedError))) ∧
      (∀ w : World σ, r.tryCheckout w = (w, r, .error r.closedError)) ∧
      (∀ (w : World σ) ticket, (r.pollCheckout w ticket).2.2 = .ended (.error r.closedError) ∧
        r.checkoutDue w.clock ticket = some w.clock.now) ∧
      (∀ ms'' : List (Moment σ), (r.run ms'').idle = r.idle ∨ (r.run ms'').idle = []) ∧
      (outcomes.map DrainOutcome.destroyed).sum + r.idle.length = q.idle.length ∧
      (outcomes ≠ [] → r.idle = []) ∧
      (r.leases = [] → r.restorations = [] →
        p.countMoments (fun q m => m.act.interrupts q) (ms ++ m :: ms') = 0 →
        r.leased = 0 ∧ (outcomes ≠ [] → r.destroyed =
          size + p.countMoments (fun q m => m.act.creates m.world q) (ms ++ m :: ms'))) := by
  intro q broken
  obtain ⟨hn, hacc, hsize⟩ := accounts_of_filled hp
  have leased (ms : List (Moment σ)) : (p.run ms).leased = (p.run ms).leases.length +
      (p.run ms).restorations.length + p.countMoments (fun q m => m.act.interrupts q) ms := by
    have h := (hacc.run hn ms).leased
    rwa [Nat.zero_add (p.countMoments (fun q m => m.act.interrupts q) ms)] at h
  refine ⟨⟨leased ms, fun w deadline o ho => ?_⟩, fun w deadline ho => ?_, fun hz w deadline => ?_,
    fun m deadline hm ms' => ?_⟩
  · obtain ⟨hout, hrest⟩ := outcome?_leased ho
    exact ⟨hout.trans (leased ms), hrest⟩
  · intro next ms'
    -- It has found something leased, and the count goes down only where it is told.
    have hfound : next.leased ≠ 0 := leased_of_outcome?_eq_none ho
    refine ⟨fun hsame => ?_, fun hz w' => drainDue_of_leased hfound hz w'.clock deadline⟩
    have hsum := (leased_le_run next ms').2
    omega
  · exact isSome_outcome? hz w deadline
  · intro r outcomes
    have hfirst : (m.act.perform m.world q).closed = true := by rw [hm]; exact closed_drain _ _ _
    have hc : r.closed = true := closed_run hfirst ms'
    obtain ⟨hsum, hidle⟩ := outcomes_idle_of_drain (p := q) hm ms'
    have hempty (hne : outcomes ≠ []) : r.idle = [] := hidle.resolve_left fun h => hne h.1
    refine ⟨hc, checkout_closed hc, tryCheckout_closed hc,
      fun w ticket => ⟨pollCheckout_closed hc w ticket, checkoutDue_closed hc w.clock ticket⟩,
      fun ms'' => ?_, hsum, hempty, fun hl hr hnone => ?_⟩
    · exact (outcomes_idle hc ms'').2.imp And.right id
    · have hrun : r = p.run (ms ++ m :: ms') := (run_append p ms (m :: ms')).symm
      have hz : r.leased = 0 := by
        have h := leased (ms ++ m :: ms')
        rw [← hrun, hl, hr, hnone] at h
        exact h
      refine ⟨hz, fun hne => ?_⟩
      have hcensus := (census_of_filled hp).run hn (ms ++ m :: ms')
      rw [← hrun, vanishes_eq_zero hnone] at hcensus
      have h := hcensus.destroyed_eq (hempty hne) hl hr
      rw [hrun, (run_fixed p _).2, hsize, Nat.zero_add] at h
      rw [hrun]
      exact h

/-- One of two instances is leased when the time of a drain is up at once; it comes back, and
another drain finds nothing to do. -/
theorem pair_drained :
    let drain : Moment Unit := ⟨.silent, .drain (some 0)⟩
    let later : List (Moment Unit) :=
      [⟨.silent, .release 0⟩, ⟨.silent, .proceedRestoration 1 1⟩, ⟨.silent, .drain none⟩]
    let q := pair.run [(⟨.silent, .tryCheckout⟩ : Moment Unit)]
    let r := q.run (drain :: later)
    q.outcomes (drain :: later) = [⟨1, 1⟩, ⟨0, 0⟩] ∧ q.idle.length = 1 ∧ r.idle = [] ∧
      r.leased = 0 ∧ r.destroyed = 2 := by
  intro drain later q r
  have hp : Filled Unit .plain 2 none pair := ⟨.silent, [], rfl⟩
  have houtcomes : q.outcomes (drain :: later) = [⟨1, 1⟩, ⟨0, 0⟩] := by decide +kernel
  have hne : q.outcomes (drain :: later) ≠ [] := houtcomes ▸ List.cons_ne_nil _ _
  obtain ⟨-, -, -, h⟩ := drain_is_final hp [(⟨.silent, .tryCheckout⟩ : Moment Unit)]
  obtain ⟨-, -, -, -, -, -, hempty, hback⟩ := h drain (some 0) rfl later
  obtain ⟨hz, hdestroyed⟩ := hback (List.eq_nil_of_length_eq_zero (by decide +kernel))
    (List.eq_nil_of_length_eq_zero (by decide +kernel)) (by decide +kernel)
  exact ⟨houtcomes, by decide +kernel, hempty hne, hz, (hdestroyed hne).trans (by decide +kernel)⟩

end Pool
end FunctionHost

import FunctionHost.Proofs.Pool.Drained
import FunctionHost.Proofs.Pool.Fates
import FunctionHost.Proofs.Pool.Queue

/-!
# What is somebody's own

Whoever has a number of a pool has what stands under it: a place among those who wait, a leased
instance, or one that is being given back.  An act under another number leaves all of that alone,
whatever it does to the rest (`waits_perform`, `mem_perform_of_about`).

An instance that is given back stays with whoever gives it back until it is idle again or **gone**;
in a closed pool it is gone in the end (`Comes.turn`).  From the closing of a pool on nobody else
gets what was leased then, and nothing becomes idle (`Remains`).
-/
namespace FunctionHost

variable {σ : Type}

/-- The number of a pool that an act is about: of somebody who waits, of a lease or of a
restoration. -/
def PoolAct.about? : PoolAct → Option Nat
  | .pollCheckout number | .leaveQueue number | .beginCall number _ _ _ | .proceedCall _ number
  | .dropCall number | .release number | .abandon number | .abandonForGood number
  | .proceedRestoration _ number | .dropRestoration number => some number
  | .checkout _ | .tryCheckout | .drain _ => none

/-- The number under which somebody has an instance. -/
def Holding.number? : Holding → Option Nat
  | .idle _ => none
  | .leased l => some l.number
  | .returning r => some r.number

/-- Whether an instance is leased under a number, or is being given back. -/
def Holding.Retiring (number : Nat) : Holding → Prop
  | .idle _ => False
  | .leased l => l.number = number
  | .returning r => r.stage.holds = true

/-- **Somebody waits** under a number, on behalf of a request and since some instant. -/
def Permits.Waits (p : Permits) (ticket : Nat) (c : Context) (since : Nat) : Prop :=
  ∃ x ∈ p.waiters, x.ticket = ticket ∧ x.context = c ∧ x.since = since

namespace Permits

variable {p q : Permits} {ticket since : Nat} {c : Context}

theorem Waits.of_waiters (h : p.Waits ticket c since) (hq : q.waiters = p.waiters) :
    q.Waits ticket c since := by
  obtain ⟨x, hx, hxc⟩ := h
  exact ⟨x, hq ▸ hx, hxc⟩

theorem Waits.enqueue (h : p.Waits ticket c since) (x : Waiter) :
    (p.enqueue x).Waits ticket c since := by
  obtain ⟨y, hy, hyc⟩ := h
  exact ⟨y, List.mem_append_left _ hy, hyc⟩

theorem Waits.remove (h : p.Waits ticket c since) {other : Nat} (hne : ticket ≠ other) :
    (p.remove other).Waits ticket c since := by
  obtain ⟨x, hx, rfl, hc⟩ := h
  exact ⟨x, List.mem_filter.mpr ⟨hx, decide_eq_true hne⟩, rfl, hc⟩

/-- A permit that is given back sends nobody away. -/
theorem Waits.release (h : p.Waits ticket c since) : p.release.Waits ticket c since := by
  have hr := release_releases p
  generalize p.release = q at hr
  cases hr with
  | freed hall => exact h
  | @granted front back x ho hsplit hfront hx =>
    obtain ⟨y, hy, hyc⟩ := h
    rcases List.mem_append.mp (hsplit ▸ hy) with hy | hy
    · exact ⟨y, List.mem_append_left _ hy, hyc⟩
    · rcases List.mem_cons.mp hy with rfl | hy
      · exact ⟨{ y with granted := true }, List.mem_append_right _ List.mem_cons_self, hyc⟩
      · exact ⟨y, List.mem_append_right _ (List.mem_cons_of_mem _ hy), hyc⟩

theorem Waits.withdraw (h : p.Waits ticket c since) {x : Waiter} (hne : ticket ≠ x.ticket) :
    (p.withdraw x).Waits ticket c since := by
  unfold Permits.withdraw
  split
  · exact (h.remove hne).release
  · exact h.remove hne

end Permits

namespace Pool

variable {w : World σ} {p q : Pool} {a : PoolAct} {m since : Nat} {c : Context}

/-! ## Waiting -/

/-- Lending takes no permit from anybody; one that is of no use goes back. -/
theorem permits_lend (w : World σ) (p : Pool) :
    (lend w p).2.1.permits = p.permits ∨ (lend w p).2.1.permits = p.permits.release := by
  unfold lend
  split
  · exact .inr rfl
  · split
    · exact .inr rfl
    · exact .inl rfl

theorem waits_lend (h : p.permits.Waits m c since) : (lend w p).2.1.permits.Waits m c since := by
  rcases permits_lend w p with hp | hp
  · exact hp ▸ h
  · exact hp ▸ h.release

theorem Restores.waits {rounds : Nat} {r : Restoration} {o : Option Restored}
    (hR : Restores rounds w p r q o) (h : p.permits.Waits m c since) : q.permits.Waits m c since := by
  cases hR with
  | tidying ht hx => exact h
  | kept ht ho => exact h.release
  | discarded hc => exact h.release
  | replacing hb hx => exact h
  | replaced hb ho => exact h.release
  | lost hb => exact h

/-- **An act under another number leaves those who wait where they are.** -/
theorem waits_perform (h : p.permits.Waits m c since) (w : World σ) (ha : a.about? ≠ some m) :
    (a.perform w p).permits.Waits m c since := by
  have hne {number : Nat} (ha : some number ≠ some m) : m ≠ number :=
    fun he => ha (congrArg some he.symm)
  -- An act takes nobody from the line but the one that it is about.
  cases a with
  | checkout c' =>
    have hasks := checkout_asks w p c'
    rw [PoolAct.perform]
    generalize p.checkout w c' = turn at hasks
    cases hasks with
    | refused hc => exact h
    | interrupted ho hi => exact h
    | obtained ho hq =>
      exact waits_lend (p := { p with permits := _ })
        (h.of_waiters (Permits.take?_eq_some hq).2.2.1)
    | blocked ho hf => exact h.enqueue _
  | tryCheckout =>
    simp only [PoolAct.perform, tryCheckout]
    split
    · exact h
    · split
      · rename_i q hq
        exact waits_lend (p := { p with permits := q })
          (h.of_waiters (Permits.take?_eq_some hq).2.2.1)
      · exact h
  | pollCheckout ticket =>
    have hne := hne ha
    have hlooks := pollCheckout_looks w p ticket
    rw [PoolAct.perform]
    generalize p.pollCheckout w ticket = turn at hlooks
    cases hlooks with
    | gone hx => exact h
    | refused hx hc =>
      obtain ⟨-, rfl⟩ := Permits.mem_of_waiter? hx
      exact h.withdraw hne
    | obtained hx ho hg =>
      exact waits_lend (p := { p with permits := p.permits.remove ticket }) (h.remove hne)
    | interrupted hx ho hg hi =>
      obtain ⟨-, rfl⟩ := Permits.mem_of_waiter? hx
      exact h.withdraw hne
    | blocked hx ho hg hi => exact h
  | leaveQueue ticket =>
    have hne := hne ha
    simp only [PoolAct.perform, leaveQueue]
    split
    · exact h
    · rename_i x hx
      obtain ⟨-, rfl⟩ := Permits.mem_of_waiter? hx
      exact h.withdraw hne
  | beginCall lease c' entrypoint payload =>
    simp only [PoolAct.perform, beginCall]
    split
    · exact h
    · rw [afterCall_eq]
      exact h
  | proceedCall rounds lease =>
    simp only [PoolAct.perform, proceedCall]
    split
    · exact h
    · split
      · exact h
      · rw [afterCall_eq]
        exact h
  | dropCall lease =>
    simp only [PoolAct.perform, dropCall]
    split <;> exact h
  | release lease =>
    simp only [PoolAct.perform, Pool.release]
    split <;> exact h
  | abandon lease =>
    simp only [PoolAct.perform, abandon]
    split <;> exact h
  | abandonForGood lease =>
    simp only [PoolAct.perform, abandonForGood]
    split <;> exact h
  | proceedRestoration rounds number =>
    cases hr : p.restoration? number with
    | none =>
      simp only [PoolAct.perform, proceedRestoration, hr]
      exact h
    | some r =>
      obtain rfl := restoration?_number hr
      have hturn : Restores rounds w p r (p.proceedRestoration rounds w r.number).2.1
          (p.proceedRestoration rounds w r.number).2.2.result? := proceedRestoration_restores hr
      exact hturn.waits h
  | dropRestoration number =>
    simp only [PoolAct.perform, dropRestoration]
    split
    · exact h
    · exact Permits.Waits.release h
  | drain deadline =>
    simp only [PoolAct.perform, pollDrain]
    split <;> exact h

/-- **Whoever comes by a permit finds an instance**, if no restoration was broken off. -/
theorem Accounts.idle_of_obtained {g v : Nat} (h : Accounts p g 0 v) (hn : WellNumbered p)
    (ho : p.closed = false) {ps : Permits} (hps : p.permits.Obtained ps) : p.idle ≠ [] := by
  have havailable := available_of_obtained hps hn.waiters.1
  have hpermits := h.permits ho
  rintro hidle
  rw [hidle] at hpermits
  simp only [List.length_nil] at hpermits
  omega

/-! ## Having an instance -/

theorem subject?_number {x : Holding} (hx : a.subject? p = some x) : x.number? = a.about? := by
  cases a with
  | checkout c => cases hx
  | tryCheckout => cases hx
  | pollCheckout ticket => cases hx
  | leaveQueue ticket => cases hx
  | drain deadline => cases hx
  | proceedRestoration rounds number | dropRestoration number =>
    obtain ⟨r, hr, rfl⟩ := Option.map_eq_some_iff.mp hx
    exact congrArg some (restoration?_number hr)
  | _ =>
    obtain ⟨l, hl, rfl⟩ := Option.map_eq_some_iff.mp hx
    exact congrArg some (lease?_number hl)

/-- **An act under another number leaves an instance where it is.** -/
theorem mem_perform_of_about (hk : Kindred p) (w : World σ) {x : Holding} (hx : x ∈ p.holdings)
    (hm : x.number? = some m) (ha : a.about? ≠ some m) : x ∈ (a.perform w p).holdings := by
  cases hs : a.subject? p with
  | some z =>
    refine mem_perform_of_subject hk w hs hx fun hid => ha ?_
    obtain rfl := hk.eq_of_id (hk.mem_of_subject w hs) hx hid
    exact (subject?_number hs).symm.trans hm
  | none =>
    cases (perform_moves w p a).spares hs with
    | still h hl => exact h ▸ hx
    | lent hp hq hl hheld hcall =>
      rcases List.mem_cons.mp (hp.mem_iff.mp hx) with rfl | hx
      · cases hm
      · exact hq.mem_iff.mpr (List.mem_cons_of_mem _ hx)
    | drained h hl =>
      rcases List.mem_append.mp (h ▸ hx) with hx | hx
      · obtain ⟨i, -, rfl⟩ := List.mem_map.mp hx
        cases hm
      · exact hx

/-! ## Being gone -/

/-- **An instance is gone**: its number was given out, and nothing has it. -/
structure Gone (p : Pool) (id : Nat) : Prop where
  numbered : id ≤ p.made
  absent : ∀ x ∈ p.holdings, x.id ≠ id

variable {id number : Nat}

/-- What is gone stays gone. -/
theorem Gone.moves (hk : Kindred p) (h : Gone p id) (hm : Moves w p a q) : Gone q id := by
  have hshifts := hm.shifts hk.numbered
  refine ⟨Nat.le_trans h.numbered hshifts.made_le, hshifts.all h.absent fun x hx y n hb => ?_⟩
  rcases (hb.of (hk.bodies x hx)).2 with ⟨-, hid⟩ | ⟨-, hid⟩
  · exact hid ▸ h.absent x hx
  · have hnumbered := h.numbered
    omega

/-- **An instance comes back** under a number, or is gone already. -/
def Comes (p : Pool) (number id : Nat) : Prop :=
  (∃ r ∈ p.restorations, r.number = number ∧ r.stage.holds = true ∧ r.stage.id = id) ∨ Gone p id

/-- An act under another number leaves alone what comes back. -/
theorem Comes.perform (hk : Kindred p) (h : Comes p number id) (w : World σ)
    (ha : a.about? ≠ some number) : Comes (a.perform w p) number id := by
  rcases h with ⟨r, hr, rfl, hs, hid⟩ | h
  · have hmem := mem_perform_of_about hk w (mem_holdings_returning.mpr hr) rfl ha
    exact .inl ⟨r, mem_holdings_returning.mp hmem, rfl, hs, hid⟩
  · exact .inr (h.moves hk (perform_moves w p a))

theorem Comes.close (h : Comes p number id) : Comes p.close number id := by
  rcases h with ⟨r, hr⟩ | h
  · exact .inl ⟨r, hr⟩
  · exact .inr ⟨h.numbered, h.absent⟩

/-- **A turn of giving an instance back**: it comes back still, or has come back; in a closed pool
it is gone then. -/
theorem Comes.turn (hk : Kindred p) (h : Comes p number id) (rounds : Nat) (w : World σ) :
    let turn := p.proceedRestoration rounds w number
    (turn.2.2.result? = none → Comes turn.2.1 number id) ∧
      (p.closed = true → turn.2.2.result? ≠ none → Gone turn.2.1 id) := by
  intro turn
  rcases h with ⟨r, hr, rfl, hs, rfl⟩ | h
  · have hfound := hk.numbered.restoration? hr
    have hturn : Restores rounds w p r turn.2.1 turn.2.2.result? := proceedRestoration_restores hfound
    have hm : Moves w p (.proceedRestoration rounds r.number) turn.2.1 := perform_moves w p _
    have hle : r.stage.id ≤ turn.2.1.made := Nat.le_trans
      (hk.id_le (mem_holdings_returning.mpr hr)) (hm.shifts hk.numbered).made_le
    have hgone (hd : turn.2.1.destroyed = p.destroyed + 1) : Gone turn.2.1 r.stage.id :=
      ⟨hle, hturn.gone hk hr hd⟩
    generalize turn.2.1 = q at hturn hgone
    generalize turn.2.2.result? = o at hturn
    cases hturn with
    | @tidying i s x ht hx =>
      have hq := setRestoration_perm hk.numbered hfound (.resetting i x)
      refine ⟨fun _ => .inl ⟨_, hq.mem_iff.mpr List.mem_cons_self, rfl, rfl, ht.same.1⟩, ?_⟩
      exact fun _ hnone => absurd rfl hnone
    | kept ht ho => exact ⟨nofun, fun hc => absurd (hc.symm.trans ho) nofun⟩
    | discarded hc => exact ⟨nofun, fun _ _ => hgone rfl⟩
    | replacing hb hx =>
      have hd : p.destroyed + r.stage.holds.toNat = p.destroyed + 1 := by rw [hs]; rfl
      exact ⟨fun _ => .inr (hgone hd), fun _ hnone => absurd rfl hnone⟩
    | replaced hb ho => exact ⟨nofun, fun hc => absurd (hc.symm.trans ho) nofun⟩
    | lost hb =>
      have hd : p.destroyed + r.stage.holds.toNat = p.destroyed + 1 := by rw [hs]; rfl
      exact ⟨nofun, fun _ _ => hgone hd⟩
  · have hm : Moves w p (.proceedRestoration rounds number) turn.2.1 := perform_moves w p _
    exact ⟨fun _ => .inr (h.moves hk hm), fun _ _ => h.moves hk hm⟩

/-! ## Calling and giving back -/

/-- How a turn of a call leaves the pool, and how it stands. -/
theorem afterCall_turn (l : Lease) (i : Instance) (s : Standing Call Call.Result) :
    p.afterCall l i s = (p.setLease { l with held := i, call := s.work? }, s.lift fun _ => ()) := by
  cases s <;> rfl

theorem mem_setLease {l l' : Lease} (hl : l ∈ p.leases) (hn : l'.number = l.number) :
    l' ∈ (p.setLease l').leases := by
  refine List.mem_map.mpr ⟨l, hl, ?_⟩
  rw [if_pos hn.symm]

/-- **A lease that is given back comes back**, under a new number. -/
theorem Kindred.release (hk : Kindred p) {l : Lease} (hl : l ∈ p.leases) :
    ∃ q, p.release l.number = (q, some p.nextNumber) ∧ Comes q p.nextNumber l.held.id := by
  refine ⟨(p.giveBack { l with call := none }).1, ?_, .inl ?_⟩
  · simp only [Pool.release, hk.numbered.lease? hl]
    rfl
  · exact ⟨_, List.mem_append_right _ (List.mem_singleton_self _), rfl, rfl, rfl⟩

/-! ## In a closed pool -/

/-- **An instance retires**: whoever has it leased has the lease still, or it is being given back, or
it is gone. -/
structure Retires (p : Pool) (number id : Nat) : Prop where
  numbered : id ≤ p.made
  held : ∀ x ∈ p.holdings, x.id = id → x.Retiring number

/-- **What remains of a closed pool**: nothing has become idle, nobody has got a lease, and what was
leased retires. -/
structure Remains (p q : Pool) : Prop where
  idle : ∀ i ∈ q.idle, i ∈ p.idle
  leases : ∀ l' ∈ q.leases, ∃ l ∈ p.leases, l.number = l'.number ∧ l.held.id = l'.held.id
  retires : ∀ l ∈ p.leases, q.Retires l.number l.held.id

theorem Kindred.remains (hk : Kindred p) : Remains p p where
  idle := fun _ hi => hi
  leases := fun l hl => ⟨l, hl, rfl, rfl⟩
  retires := fun l hl => by
    have hmem := mem_holdings_leased.mpr hl
    refine ⟨hk.id_le hmem, fun x hx hid => ?_⟩
    obtain rfl := hk.eq_of_id hmem hx hid
    rfl

/-- What retires goes on doing so unless it becomes idle. -/
theorem Becomes.retiring {x y : Holding} (h : Becomes w p a x y 0) (hx : x.Retiring number) :
    (∃ i, y = .idle i) ∨ y.Retiring number := by
  generalize hn : 0 = n at h
  cases h with
  | lent ha => exact hx.elim
  | called hl h => exact .inr (h.number.trans hx)
  | returned => exact .inr rfl
  | abandoned => exact .inr rfl
  | tidying hr h hy => exact .inr rfl
  | @replacing rounds r s b hr h hy =>
    have hs : r.stage.holds = true := hx
    rw [hs] at hn
    cases hn
  | kept hr h ho => exact .inl ⟨_, rfl⟩
  | replaced hr h ho => exact .inl ⟨_, rfl⟩

theorem Moves.idle_subset (hm : Moves w p a q) (hc : p.closed = true) :
    ∀ i ∈ q.idle, i ∈ p.idle := by
  intro i hi
  rcases hm.idle_of_closed hc with h | ⟨-, h⟩
  · exact h ▸ hi
  · rw [h] at hi
    cases hi

theorem Retires.moves (hk : Kindred p) (hc : p.closed = true) (h : p.Retires number id)
    (hm : Moves w p a q) : q.Retires number id := by
  have hshifts := hm.shifts hk.numbered
  have hnext : ∀ y ∈ q.holdings, y.id = id → (∃ i, y = .idle i) ∨ y.Retiring number :=
    hshifts.all (fun x hx hid => .inr (h.held x hx hid)) fun x hx y n hb hid => by
      rcases (hb.of (hk.bodies x hx)).2 with ⟨rfl, hsame⟩ | ⟨-, hnew⟩
      · exact hb.retiring (h.held x hx (hsame.symm.trans hid))
      · have hnumbered := h.numbered
        omega
  refine ⟨Nat.le_trans h.numbered hshifts.made_le, fun y hy hid => ?_⟩
  rcases hnext y hy hid with ⟨i, rfl⟩ | hy
  · -- What is idle now was idle before.
    have hi := hm.idle_subset hc i (mem_holdings_idle.mp hy)
    exact (h.held _ (mem_holdings_idle.mpr hi) hid).elim
  · exact hy

/-- **Nobody gets an instance** of a closed pool. -/
theorem Moves.leases_of_closed (hm : Moves w p a q) (hc : p.closed = true) :
    ∀ l' ∈ q.leases, ∃ l ∈ p.leases, l.number = l'.number ∧ l.held.id = l'.held.id := by
  intro l' hl'
  have same (h : l' ∈ p.leases) :
      ∃ l ∈ p.leases, l.number = l'.number ∧ l.held.id = l'.held.id := ⟨l', h, rfl, rfl⟩
  cases hm with
  | lent hq hp ho hi => exact absurd (hc.symm.trans ho) nofun
  | called hq hl h =>
    obtain ⟨l, hmem, hset⟩ := List.mem_map.mp hl'
    split at hset
    · rename_i hn
      exact ⟨_, mem_of_lease? hl, hset ▸ h.number.symm, hset ▸ h.same.id.symm⟩
    · exact same (hset ▸ hmem)
  | returned hl => exact same (List.mem_of_mem_filter hl')
  | abandoned hl => exact same (List.mem_of_mem_filter hl')
  | forsaken hl => exact same (List.mem_of_mem_filter hl')
  | restored hr h ho => cases h <;> exact same hl'
  | _ => exact same hl'

/-- **What remains of a closed pool** only gets less. -/
theorem Remains.moves {r : Pool} (h : Remains p q) (hk : Kindred q) (hc : q.closed = true)
    (hm : Moves w q a r) : Remains p r where
  idle := fun i hi => h.idle i (hm.idle_subset hc i hi)
  leases := by
    intro l' hl'
    obtain ⟨l, hl, hnumber, hid⟩ := hm.leases_of_closed hc l' hl'
    obtain ⟨l₀, hl₀, hnumber₀, hid₀⟩ := h.leases l hl
    exact ⟨l₀, hl₀, hnumber₀.trans hnumber, hid₀.trans hid⟩
  retires := fun l hl => (h.retires l hl).moves hk hc hm

end Pool
end FunctionHost

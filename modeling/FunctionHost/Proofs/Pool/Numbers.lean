import FunctionHost.Proofs.Pool.Moves

/-!
# Numbers of a pool

What a pool is made from never changes, and once it is closed it stays so.  Waiters, leases and
restorations are found by numbers of which none is given twice (`WellNumbered`), whatever happens.
-/
namespace FunctionHost
namespace Pool

variable {σ : Type} {w : World σ} {p q : Pool} {a : PoolAct}

/-! ## What never changes -/

theorem closed_of_obtained {ps qs : Permits} (h : ps.Obtained qs) : qs.closed = ps.closed := by
  cases h with
  | free h => exact (Permits.take?_eq_some h).2.2.2
  | granted hw hg => rfl

theorem closed_keep (r : Restoration) (i : Instance) : (p.keep r i).closed = p.closed :=
  Permits.closed_release _

theorem closed_settled (r : Restoration) : (p.settled r).closed = p.closed :=
  Permits.closed_release _

theorem Restores.closed {rounds : Nat} {r : Restoration} {o : Option Restored}
    (h : Restores rounds w p r q o) : q.closed = p.closed := by
  cases h with
  | tidying h hx => rfl
  | kept h ho => exact closed_keep _ _
  | discarded hc => exact closed_settled _
  | replacing h hx => rfl
  | replaced h ho => exact Permits.closed_release p.permits
  | lost h => rfl

/-- **A closed pool stays closed.** -/
theorem Moves.closed_of_closed (h : Moves w p a q) (hc : p.closed = true) : q.closed = true := by
  cases h with
  | still hq => exact hc
  | queued hq hx hg => exact hc
  | unqueued hq hx => exact (Permits.closed_withdraw _ _).trans hc
  | starved hq h hi => exact ((Permits.closed_release _).trans (closed_of_obtained h)).trans hc
  | lent hq h ho hi => exact (closed_of_obtained h).trans hc
  | called hq hl h => exact hc
  | returned hl => exact hc
  | abandoned hl => exact hc
  | forsaken hl => exact hc
  | restored hr h ho => exact h.closed.trans hc
  | interrupted hr => exact (Permits.closed_release _).trans hc
  | closed deadline => rfl
  | emptied deadline => rfl

theorem Restores.fixed {rounds : Nat} {r : Restoration} {o : Option Restored}
    (h : Restores rounds w p r q o) : q.blueprint = p.blueprint ∧ q.size = p.size := by
  cases h <;> exact ⟨rfl, rfl⟩

/-- **What its instances are made from and how many there should be never changes.** -/
theorem Moves.fixed (h : Moves w p a q) : q.blueprint = p.blueprint ∧ q.size = p.size := by
  cases h with
  | restored hr h ho => exact h.fixed
  | _ => exact ⟨rfl, rfl⟩

/-! ## Numbers -/

/-- **Waiters, leases and restorations have numbers of their own.** -/
structure WellNumbered (p : Pool) : Prop where
  waiters : Numbered.GivenOut p.permits.tickets p.nextNumber
  leases : Numbered.GivenOut (p.leases.map Lease.number) p.nextNumber
  restorations : Numbered.GivenOut (p.restorations.map Restoration.number) p.nextNumber

/-- The permits are those of before but for whoever got one. -/
theorem tickets_of_obtained {ps qs : Permits} {next : Nat} (h : ps.Obtained qs)
    (hn : Numbered.GivenOut ps.tickets next) : Numbered.GivenOut qs.tickets next := by
  cases h with
  | free h => rw [Permits.tickets, (Permits.take?_eq_some h).2.2.1]; exact hn
  | granted hw hg => rw [Permits.tickets_remove]; exact hn.filter _

theorem WellNumbered.releasePermit (h : WellNumbered p) : WellNumbered p.releasePermit :=
  ⟨by rw [Pool.releasePermit, Permits.tickets_release]; exact h.waiters, h.leases, h.restorations⟩

theorem WellNumbered.removeLease (h : WellNumbered p) (n : Nat) : WellNumbered (p.removeLease n) :=
  ⟨h.waiters, by rw [Pool.removeLease, Numbered.map_number_filter]; exact h.leases.filter _,
    h.restorations⟩

theorem WellNumbered.removeRestoration (h : WellNumbered p) (n : Nat) :
    WellNumbered (p.removeRestoration n) :=
  ⟨h.waiters, h.leases,
    by rw [Pool.removeRestoration, Numbered.map_number_filter]; exact h.restorations.filter _⟩

theorem WellNumbered.setLease (h : WellNumbered p) (l : Lease) : WellNumbered (p.setLease l) :=
  ⟨h.waiters, by rw [Pool.setLease, Numbered.map_number_set rfl]; exact h.leases, h.restorations⟩

theorem WellNumbered.setRestoration (h : WellNumbered p) (r : Restoration) :
    WellNumbered (p.setRestoration r) :=
  ⟨h.waiters, h.leases,
    by rw [Pool.setRestoration, Numbered.map_number_set rfl]; exact h.restorations⟩

theorem WellNumbered.giveBack (h : WellNumbered p) (l : Lease) : WellNumbered (p.giveBack l).1 := by
  have hl := h.removeLease l.number
  refine ⟨hl.waiters.succ, hl.leases.succ, ?_⟩
  simp only [Pool.giveBack, List.map_append, List.map_cons, List.map_nil]
  exact h.restorations.append

theorem WellNumbered.parted (h : WellNumbered p) (stage : RestorationStage) :
    WellNumbered (p.parted stage) :=
  ⟨h.waiters, h.leases, h.restorations⟩

theorem WellNumbered.settled (h : WellNumbered p) (r : Restoration) :
    WellNumbered (p.settled r) := by
  have hr := (h.removeRestoration r.number).releasePermit
  exact ⟨hr.waiters, hr.leases, hr.restorations⟩

theorem WellNumbered.keep (h : WellNumbered p) (r : Restoration) (i : Instance) :
    WellNumbered (p.keep r i) := by
  have hk : WellNumbered { p with idle := i :: p.idle } := ⟨h.waiters, h.leases, h.restorations⟩
  exact hk.settled r

theorem WellNumbered.restores {rounds : Nat} {r : Restoration} {o : Option Restored}
    (hn : WellNumbered p) (h : Restores rounds w p r q o) : WellNumbered q := by
  have hp := hn.parted r.stage
  cases h with
  | tidying h hx => exact hn.setRestoration _
  | kept h ho => exact hn.keep r _
  | discarded hc =>
    have hd : WellNumbered { p with destroyed := p.destroyed + 1 } :=
      ⟨hn.waiters, hn.leases, hn.restorations⟩
    exact hd.settled r
  | replacing h hx => exact hp.setRestoration _
  | replaced h ho =>
    have hd : WellNumbered
        { p.parted r.stage with replaced := (p.parted r.stage).replaced + 1 } :=
      ⟨hp.waiters, hp.leases, hp.restorations⟩
    exact hd.keep r _
  | lost h =>
    have hr := hp.removeRestoration r.number
    exact ⟨hr.waiters, hr.leases, hr.restorations⟩

/-- **No act gives a number twice.** -/
theorem WellNumbered.moves (hn : WellNumbered p) (h : Moves w p a q) : WellNumbered q := by
  cases h with
  | still hq => exact hn
  | queued hq hx hg =>
    refine ⟨?_, hn.leases.succ, hn.restorations.succ⟩
    rw [Permits.tickets_enqueue, hx]
    exact hn.waiters.append
  | unqueued hq hx =>
    exact ⟨by rw [Permits.tickets_withdraw]; exact hn.waiters.filter _, hn.leases, hn.restorations⟩
  | @starved a hq ps h hi =>
    have hs : WellNumbered { p with permits := ps } :=
      ⟨tickets_of_obtained h hn.waiters, hn.leases, hn.restorations⟩
    exact hs.releasePermit
  | lent hq h ho hi =>
    refine ⟨(tickets_of_obtained h hn.waiters).succ, ?_, hn.restorations.succ⟩
    rw [List.map_append]
    exact hn.leases.append
  | called hq hl h => exact hn.setLease _
  | returned hl => exact hn.giveBack _
  | abandoned hl => exact hn.giveBack _
  | @forsaken l hl =>
    have hr := hn.removeLease l.number
    exact ⟨hr.waiters, hr.leases, hr.restorations⟩
  | restored hr h ho => exact hn.restores h
  | interrupted hr => exact (hn.removeRestoration _).releasePermit
  | closed deadline => exact ⟨hn.waiters, hn.leases, hn.restorations⟩
  | emptied deadline => exact ⟨hn.waiters, hn.leases, hn.restorations⟩

end Pool
end FunctionHost

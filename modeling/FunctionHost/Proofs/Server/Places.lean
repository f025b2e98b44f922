import FunctionHost.Proofs.Pool.Places
import FunctionHost.Proofs.Server.Running

/-!
# Places that servers give back

Wherever a server is in a turn, each of its pools takes as many places as it has instances, and
limited room is not overdrawn; so an act that destroys an instance to replace it finds a place
(`Acts.replaces`).  And whatever drains a pool of a server, be it that its module is unloaded or that
the server is shut down, leaves it drained in the turn in which nobody waits for it any more
(`dry_begin`, `dry_proceed`).
-/
namespace FunctionHost

variable {σ : Type}

theorem Registry.find?_of_get {α : Type} {r : Registry α} {name : String} {entry : α}
    (h : r.get name = .ok entry) : r.entries.find? name = some entry := by
  unfold Registry.get at h
  split at h
  · cases h
  · split at h
    · rename_i hfound
      exact hfound.trans (congrArg some (Except.ok.inj h))
    · cases h

/-- Whether some work waits until a pool is drained. -/
def ServerWork.Drains (n : Nat) : ServerWork → Prop
  | .unloading pool _ => pool = n
  | .closing drains => ∃ d ∈ drains, d.pool = n
  | _ => False

/-- **Whether a command is to drain a pool** of a server: the module is unloaded that is served by it,
or the server is shut down that serves a module by it. -/
def Server.Drains (s : Server σ) (n : Nat) : ServerCommand → Prop
  | .unload name => ∃ served, s.registry.get name = .ok served ∧ served.pool = n
  | .shutDown => s.closed = false ∧ ∃ e ∈ s.registry.entries.entries, e.2.pool = n
  | _ => False

namespace Server

variable {s t : Server σ} {x : Option ServerWork} {drained : Nat → Prop} {k n : Nat}

/-! ## Room -/

/-- **Work leaves the engine as it is** and does not overdraw its room. -/
theorem Acts.abides (h : Acts x drained s t) : s.world.Abides t.world := by
  induction h with
  | refl => exact .refl _
  | report h e ih => exact ih.trans (World.Still.report _ e).abides
  | act h hn hd ha ih => exact ih.trans (Pool.world_abides _ _ _)
  | close h hn hd ih => exact ih
  | halt h ih => exact ih

theorem length_holdings_le_stock (hk : k < s.pools.size) :
    (s.pool k).holdings.length ≤ s.stock := by
  obtain ⟨rest, hstock, -⟩ := stock_after hk default
  omega

theorem restoration?_of_size_le {number : Nat} (hn : s.pools.size ≤ n) :
    (s.pool n).restoration? number = none := by
  rw [pool_of_size_le hn]
  rfl

/-- **Wherever a server is in a turn**, what is destroyed to be replaced leaves its place to what is
made instead. -/
theorem Acts.replaces (h : Acts x drained s t) (hs : ∀ n, (s.pool n).Kindred)
    (hfits : s.world.Fits) (hstock : s.stock ≤ s.world.slots) {number rounds : Nat}
    {r : Restoration} (hr : (t.pool n).restoration? number = some r) :
    Pool.Replaces rounds t.world (t.pool n) r
      ((t.pool n).proceedRestoration rounds t.world number) := by
  have hn : n < t.pools.size := by
    refine Nat.lt_of_not_le fun hle => ?_
    cases (restoration?_of_size_le hle).symm.trans hr
  have hpos := Pool.holdings_pos_of_restoration? hr
  have hle := length_holdings_le_stock hn
  have hslots := h.trades hs (s.world.slots - s.stock) (by omega)
  exact Pool.proceedRestoration_replaces hr (h.abides.fits hfits) (by omega)

/-! ## Draining -/

theorem Acts.dry (h : Acts x drained s t) (hs : (s.pool n).Dry) : (t.pool n).Dry :=
  h.pool_induction hs fun _ _ _ _ hp hm _ => hp.moves hm

/-- A look at a closed pool that finds it drained. -/
theorem dry_after_pollDrain (deadline : Option Nat) {o : DrainOutcome} (hn : n < s.pools.size)
    (hc : (s.pool n).closed = true) (ho : ((s.pool n).pollDrain s.world deadline).2.2 = some o) :
    ((s.after n ((s.pool n).pollDrain s.world deadline).1
      ((s.pool n).pollDrain s.world deadline).2.1).pool n).Dry := by
  have hsame := Pool.close_of_closed hc
  have hdry : ((PoolAct.drain deadline).perform s.world (s.pool n)).Dry :=
    Pool.dry_of_outcome (o := o) (by rw [PoolAct.outcome?, hsame]; exact ho)
  rw [PoolAct.perform, hsame] at hdry
  rw [pool_after hn]
  exact hdry

/-- **A pool that is unloaded is drained** once nobody waits for that. -/
theorem dry_pollUnload {deadline : Option Nat} (hn : n < s.pools.size)
    (hc : (s.pool n).closed = true)
    (hover : ∀ y ∈ (s.pollUnload n deadline).2.work?, ¬ y.Drains n) :
    ((s.pollUnload n deadline).1.pool n).Dry := by
  have hdry := fun o => dry_after_pollDrain deadline (o := o) hn hc
  rw [pollUnload] at hover ⊢
  generalize (s.pool n).pollDrain s.world deadline = turn at hdry hover
  obtain ⟨w, p, outcome⟩ := turn
  cases outcome with
  | none => exact absurd rfl (hover _ rfl)
  | some o => exact hdry o rfl

/-- **Of the pools that are drained side by side** each is drained or still waited for. -/
theorem dry_pollDrains (drains : List Draining)
    (hd : ∀ d ∈ drains, d.pool < s.pools.size ∧ (s.pool d.pool).closed = true) :
    ∀ d ∈ drains, (∃ e ∈ (s.pollDrains drains).2.2, e.pool = d.pool) ∨
      ((s.pollDrains drains).1.pool d.pool).Dry := by
  induction drains generalizing s with
  | nil => exact nofun
  | cons d drains ih =>
    obtain ⟨hk, hc⟩ := hd d List.mem_cons_self
    have hdry := fun o => dry_after_pollDrain d.wait.deadline (o := o) hk hc
    have hacts : Acts none (fun _ => True) s _ := Acts.refl.drain hk hc trivial d.wait.deadline
    rw [pollDrains]
    generalize (s.pool d.pool).pollDrain s.world d.wait.deadline = turn at hdry hacts
    obtain ⟨w, p, outcome⟩ := turn
    have hrest : ∀ e ∈ drains, e.pool < (s.after d.pool w p).pools.size ∧
        ((s.after d.pool w p).pool e.pool).closed = true := fun e he =>
      ⟨hacts.size.symm ▸ (hd e (List.mem_cons_of_mem d he)).1,
        hacts.closed_of_closed (hd e (List.mem_cons_of_mem d he)).2⟩
    have hothers := ih hrest
    have hfurther : Acts none (fun _ => True) (s.after d.pool w p)
        ((s.after d.pool w p).pollDrains drains).1 :=
      Acts.refl.pollDrains fun e he => ⟨(hrest e he).1, (hrest e he).2, trivial⟩
    intro e he
    cases outcome with
    | none =>
      rcases List.mem_cons.mp he with rfl | he
      · exact .inl ⟨_, List.mem_cons_self, rfl⟩
      · refine (hothers e he).imp_left ?_
        rintro ⟨e', he', hpool⟩
        exact ⟨e', List.mem_cons_of_mem _ he', hpool⟩
    | some o =>
      rcases List.mem_cons.mp he with rfl | he
      · exact .inr (hfurther.dry (hdry o rfl))
      · exact hothers e he

theorem dry_pollClose {drains : List Draining}
    (hd : ∀ d ∈ drains, d.pool < s.pools.size ∧ (s.pool d.pool).closed = true)
    (hn : ∃ d ∈ drains, d.pool = n) (hover : ∀ y ∈ (s.pollClose drains).2.work?, ¬ y.Drains n) :
    ((s.pollClose drains).1.pool n).Dry := by
  obtain ⟨d, hmem, rfl⟩ := hn
  have hdrained := dry_pollDrains drains hd d hmem
  obtain ⟨ticking, journal, hsame⟩ := Traffic.pollClose_same s drains
  rw [hsame]
  refine hdrained.resolve_left fun ⟨e, hwaits, hpool⟩ => ?_
  have hwork : (s.pollClose drains).2.work? = some (.closing (s.pollDrains drains).2.2) := by
    unfold pollClose
    generalize s.pollDrains drains = turn at hwaits
    obtain ⟨u, outcomes, waiting⟩ := turn
    cases waiting with
    | nil => exact nomatch hwaits
    | cons _ _ => rfl
  exact hover _ hwork ⟨e, hwaits, hpool⟩

theorem lt_size_of_drains (hs : s.Proper) {command : ServerCommand} (h : s.Drains n command) :
    n < s.pools.size := by
  cases command with
  | unload name =>
    obtain ⟨served, hget, rfl⟩ := h
    exact (hs.named _ (Registry.mem_of_get hget).2).1
  | shutDown =>
    obtain ⟨-, e, he, rfl⟩ := h
    exact (hs.named e he).1
  | _ => exact h.elim

/-- **A command that drains a pool** has drained it, unless what is left of it waits for that. -/
theorem dry_begin (hs : s.Proper) {c : Context} {command : ServerCommand}
    (h : s.Drains n command) (hover : ∀ y ∈ (s.begin c command).2.work?, ¬ y.Drains n) :
    ((s.begin c command).1.pool n).Dry := by
  cases command with
  | unload name =>
    obtain ⟨served, hget, rfl⟩ := h
    have hn := lt_size_of_drains hs (show s.Drains served.pool (.unload name) from ⟨served, hget, rfl⟩)
    let u := { s with registry := { s.registry with entries := s.registry.entries.erase name } }
    have hpool : (u.after served.pool s.world (u.pool served.pool).close).pool served.pool =
        (u.pool served.pool).close := pool_after (s := u) hn
    rw [begin, unload, Registry.remove] at hover ⊢
    simp only [Registry.find?_of_get hget] at hover ⊢
    refine dry_pollUnload (size_after.symm ▸ hn) ?_ hover
    rw [hpool]
    rfl
  | shutDown =>
    obtain ⟨ho, e, he, rfl⟩ := h
    obtain ⟨hshutDown, hentries, hacts, hclosed⟩ :=
      Traffic.shutDown_eq ho fun e he => (hs.named e he).1
    have hall : s.registry.close.2.getD [] = s.registry.entries.entries := by
      rw [Registry.close, hs.flags.trans ho]
      rfl
    rw [begin, hshutDown] at hover ⊢
    refine dry_pollClose (fun d hd => ?_) ⟨_, List.mem_map_of_mem (hall ▸ he), rfl⟩ hover
    obtain ⟨e, he, rfl⟩ := List.mem_map.mp hd
    exact ⟨hacts.size.symm ▸ hentries e he, hclosed e he⟩
  | _ => exact h.elim

theorem lt_size_of_work_drains {y : ServerWork} (hy : y.Sound s) (h : y.Drains n) :
    n < s.pools.size := by
  cases y with
  | unloading pool wait =>
    obtain rfl : pool = n := h
    exact hy.1
  | closing drains =>
    obtain ⟨d, hd, rfl⟩ := h
    exact (hy d hd).1
  | _ => exact h.elim

/-- **Work that drains a pool** has drained it, unless what is left of it waits for that. -/
theorem dry_proceed {y : ServerWork} (hy : y.Sound s) (h : y.Drains n)
    (hover : ∀ z ∈ (s.proceed y).2.work?, ¬ z.Drains n) : ((s.proceed y).1.pool n).Dry := by
  cases y with
  | unloading pool wait =>
    obtain rfl : pool = n := h
    exact dry_pollUnload hy.1 hy.2 hover
  | closing drains => exact dry_pollClose hy h hover
  | _ => exact h.elim

end Server
end FunctionHost

import FunctionHost.Proofs.Pool.Filled
import FunctionHost.Proofs.Pool.Numbers

/-!
# The accounts of a pool

A pool counts its instances in several ways, and while it is open the counts agree.  An instance is
idle or leased; a leased one is held by somebody or being restored; and for each idle one there is a
permit that can be used.  The exception is a restoration that is broken off: its permit comes back,
its lease is counted for ever.

`Accounts` says all that of one pool and `Accounts.run` of every run.  A closed pool counts what is
leased right, but not what is there: what comes back to it is destroyed and keeps its place.
-/
namespace FunctionHost
namespace Pool

variable {σ : Type} {w : World σ} {p q : Pool} {a : PoolAct}

/-- **The accounts of a pool** in which so many instances were given up, so many restorations were
broken off, and so many instances vanished with these. -/
structure Accounts (p : Pool) (givenUp broken vanished : Nat) : Prop where
  capacity : p.capacity + givenUp = p.size
  leased : p.leased = p.leases.length + p.restorations.length + broken
  room : p.idle.length + p.leased ≤ p.capacity
  places : p.closed = false → p.idle.length + p.leased = p.capacity
  permits : p.closed = false → p.permits.available = p.idle.length + broken
  instances : p.closed = false → p.size + p.replaced = p.destroyed +
    (p.idle.length + p.leases.length + p.restorations.countP (·.stage.holds)) + vanished

variable {g b v : Nat}

theorem available_of_obtained {ps qs : Permits} (h : ps.Obtained qs) (hn : ps.tickets.Nodup) :
    ps.available = qs.available + 1 := by
  cases h with
  | free h =>
    obtain ⟨-, hfree, hwaiters, -⟩ := Permits.take?_eq_some h
    rw [Permits.available, Permits.available, hfree, hwaiters]
    omega
  | granted hw hg => rw [Permits.available_remove hn hw, if_pos hg]

/-- What happens to the permits changes nothing else. -/
theorem Accounts.withPermits (h : Accounts p g b v) {ps : Permits} (n : Nat)
    (hc : ps.closed = p.closed) (ha : ps.available = p.permits.available) :
    Accounts { p with permits := ps, nextNumber := n } g b v := by
  have hopen (ho : ps.closed = false) : p.closed = false := hc.symm.trans ho
  exact ⟨h.capacity, h.leased, h.room, fun ho => h.places (hopen ho),
    fun ho => ha.trans (h.permits (hopen ho)), fun ho => h.instances (hopen ho)⟩

/-- A closed pool owes no account of its places. -/
theorem Accounts.of_closed (hc : p.closed = true) (hcapacity : p.capacity + g = p.size)
    (hleased : p.leased = p.leases.length + p.restorations.length + b)
    (hroom : p.idle.length + p.leased ≤ p.capacity) : Accounts p g b v := by
  have hopen : ¬ p.closed = false := by simp [hc]
  exact ⟨hcapacity, hleased, hroom, fun ho => absurd ho hopen, fun ho => absurd ho hopen,
    fun ho => absurd ho hopen⟩

/-! ## Leases -/

theorem mem_of_lease? {n : Nat} {l : Lease} (h : p.lease? n = some l) : l ∈ p.leases :=
  (Numbered.mem_of_find? h).1

theorem leases_of_lease? (hn : WellNumbered p) {l : Lease} (h : p.lease? l.number = some l) :
    p.leases.length = (p.removeLease l.number).leases.length + 1 :=
  Numbered.length_filter hn.leases.1 (mem_of_lease? h)

/-- **An instance that is lent is counted as leased.** -/
theorem Accounts.lend (hn : WellNumbered p) (h : Accounts p g b v) {ps : Permits}
    (hps : p.permits.Obtained ps) {i : Instance} {rest : List Instance} (hi : p.idle = i :: rest)
    (l : Lease) (n : Nat) :
    Accounts { p with
      permits := ps, idle := rest, leases := p.leases ++ [l], nextNumber := n
      leased := p.leased + 1 } g b v := by
  have hlen : p.idle.length = rest.length + 1 := by rw [hi]; rfl
  have havailable := available_of_obtained hps hn.waiters.1
  have hopen (ho : ps.closed = false) : p.closed = false := (closed_of_obtained hps).symm.trans ho
  obtain ⟨hcapacity, hleased, hroom, hplaces, hpermits, hinstances⟩ := h
  refine ⟨hcapacity, ?_, ?_, fun ho => ?_, fun ho => ?_, fun ho => ?_⟩
  · simp only [List.length_append, List.length_singleton]
    omega
  · show rest.length + (p.leased + 1) ≤ p.capacity
    omega
  · show rest.length + (p.leased + 1) = p.capacity
    have := hplaces (hopen ho)
    omega
  · show ps.available = rest.length + b
    have := hpermits (hopen ho)
    omega
  · simp only [List.length_append, List.length_singleton]
    have := hinstances (hopen ho)
    omega

theorem Accounts.setLease (h : Accounts p g b v) (l : Lease) : Accounts (p.setLease l) g b v := by
  have hlen : (p.setLease l).leases.length = p.leases.length := List.length_map _
  exact ⟨h.capacity, hlen ▸ h.leased, h.room, h.places, h.permits, hlen ▸ h.instances⟩

/-- **A lease that becomes a restoration is counted as before.** -/
theorem Accounts.giveBack (hn : WellNumbered p) (h : Accounts p g b v) {l : Lease}
    (hl : p.lease? l.number = some l) (i : Instance) :
    Accounts (p.giveBack { l with held := i, call := none }).1 g b v := by
  have hlen := leases_of_lease? hn hl
  obtain ⟨hcapacity, hleased, hroom, hplaces, hpermits, hinstances⟩ := h
  refine ⟨hcapacity, ?_, hroom, hplaces, hpermits, fun ho => ?_⟩
  · simp only [Pool.giveBack, List.length_append, List.length_singleton]
    show p.leased = (p.removeLease l.number).leases.length + _ + b
    omega
  · simp only [Pool.giveBack, List.countP_append]
    show p.size + p.replaced = p.destroyed + (p.idle.length +
      (p.removeLease l.number).leases.length + (p.restorations.countP _ + 1)) + v
    have := hinstances ho
    omega

/-- An instance that is given up takes its place with it. -/
theorem Accounts.forsake (hn : WellNumbered p) (h : Accounts p g b v) {l : Lease}
    (hl : p.lease? l.number = some l) :
    Accounts { p.removeLease l.number with
      destroyed := p.destroyed + 1
      capacity := p.capacity - 1
      leased := p.leased - 1
      returned := p.returned + 1 } (g + 1) b v := by
  have hlen := leases_of_lease? hn hl
  obtain ⟨hcapacity, hleased, hroom, hplaces, hpermits, hinstances⟩ := h
  refine ⟨?_, ?_, ?_, fun ho => ?_, hpermits, fun ho => ?_⟩
  · show p.capacity - 1 + (g + 1) = p.size
    omega
  · show p.leased - 1 = (p.removeLease l.number).leases.length + p.restorations.length + b
    omega
  · show p.idle.length + (p.leased - 1) ≤ p.capacity - 1
    omega
  · show p.idle.length + (p.leased - 1) = p.capacity - 1
    have := hplaces ho
    omega
  · show p.size + p.replaced = p.destroyed + 1 + (p.idle.length +
      (p.removeLease l.number).leases.length + p.restorations.countP _) + v
    have := hinstances ho
    omega

/-! ## Restorations -/

variable {r : Restoration}

theorem mem_of_restoration? {n : Nat} (h : p.restoration? n = some r) : r ∈ p.restorations :=
  (Numbered.mem_of_find? h).1

theorem restorations_of_restoration? (hn : WellNumbered p)
    (h : p.restoration? r.number = some r) :
    p.restorations.length = (p.removeRestoration r.number).restorations.length + 1 ∧
      p.restorations.countP (·.stage.holds) =
        (p.removeRestoration r.number).restorations.countP (·.stage.holds) +
          r.stage.holds.toNat :=
  ⟨Numbered.length_filter hn.restorations.1 (mem_of_restoration? h),
    Numbered.countP_filter hn.restorations.1 (mem_of_restoration? h) _⟩

theorem restorations_setRestoration (hn : WellNumbered p) (h : p.restoration? r.number = some r)
    (stage : RestorationStage) :
    (p.setRestoration { r with stage := stage }).restorations.length = p.restorations.length ∧
      (p.setRestoration { r with stage := stage }).restorations.countP (·.stage.holds) =
        (p.removeRestoration r.number).restorations.countP (·.stage.holds) +
          stage.holds.toNat :=
  ⟨List.length_map _,
    Numbered.countP_set (x := { r with stage := stage }) hn.restorations.1 (mem_of_restoration? h)
      rfl _⟩

/-- A restoration that goes on. -/
theorem Accounts.setRestoration (hn : WellNumbered p) (h : Accounts p g b v)
    (hr : p.restoration? r.number = some r) {stage : RestorationStage} {d : Nat}
    (hd : d + stage.holds.toNat = r.stage.holds.toNat) (m : Nat) :
    Accounts ({ p with destroyed := p.destroyed + d, made := m }.setRestoration
      { r with stage := stage }) g b v := by
  obtain ⟨hcapacity, hleased, hroom, hplaces, hpermits, hinstances⟩ := h
  obtain ⟨-, hcount⟩ := restorations_of_restoration? hn hr
  obtain ⟨hlen', hcount'⟩ := restorations_setRestoration hn hr stage
  refine ⟨hcapacity, ?_, hroom, hplaces, hpermits, fun ho => ?_⟩
  · show p.leased = p.leases.length +
      (p.setRestoration { r with stage := stage }).restorations.length + b
    omega
  · show p.size + p.replaced = p.destroyed + d + (p.idle.length + p.leases.length +
      (p.setRestoration { r with stage := stage }).restorations.countP (·.stage.holds)) + v
    have := hinstances ho
    omega

/-- **A restoration that leaves an instance behind.** -/
theorem Accounts.keep (hn : WellNumbered p) (h : Accounts p g b v)
    (hr : p.restoration? r.number = some r) {n d : Nat} (hd : n + r.stage.holds.toNat = d + 1)
    (m : Nat) (i : Instance) :
    Accounts ({ p with
      destroyed := p.destroyed + d, made := m, replaced := p.replaced + n }.keep r i) g b v := by
  obtain ⟨hcapacity, hleased, hroom, hplaces, hpermits, hinstances⟩ := h
  obtain ⟨hlen, hcount⟩ := restorations_of_restoration? hn hr
  have havailable := Permits.available_release p.permits
  have hopen (ho : p.permits.release.closed = false) : p.closed = false :=
    (Permits.closed_release p.permits).symm.trans ho
  refine ⟨hcapacity, ?_, ?_, fun ho => ?_, fun ho => ?_, fun ho => ?_⟩
  · show p.leased - 1 = p.leases.length + (p.removeRestoration r.number).restorations.length + b
    omega
  · show p.idle.length + 1 + (p.leased - 1) ≤ p.capacity
    omega
  · show p.idle.length + 1 + (p.leased - 1) = p.capacity
    have := hplaces (hopen ho)
    omega
  · show p.permits.release.available = p.idle.length + 1 + b
    have := hpermits (hopen ho)
    omega
  · show p.size + (p.replaced + n) = p.destroyed + d + (p.idle.length + 1 + p.leases.length +
      (p.removeRestoration r.number).restorations.countP (·.stage.holds)) + v
    have := hinstances (hopen ho)
    omega

/-- A restoration in a closed pool. -/
theorem Accounts.discard (hn : WellNumbered p) (h : Accounts p g b v)
    (hr : p.restoration? r.number = some r) (hc : p.closed = true) :
    Accounts ({ p with destroyed := p.destroyed + 1 }.settled r) g b v := by
  obtain ⟨hcapacity, hleased, hroom, -, -, -⟩ := h
  obtain ⟨hlen, -⟩ := restorations_of_restoration? hn hr
  refine .of_closed ((closed_settled (p := { p with destroyed := p.destroyed + 1 }) r).trans hc)
    hcapacity ?_ ?_
  · show p.leased - 1 = p.leases.length + (p.removeRestoration r.number).restorations.length + b
    omega
  · show p.idle.length + (p.leased - 1) ≤ p.capacity
    omega

/-- **A restoration that fails** takes the place of its instance with it. -/
theorem Accounts.lose (hn : WellNumbered p) (h : Accounts p g b v)
    (hr : p.restoration? r.number = some r) :
    Accounts ({ p.parted r.stage with
      capacity := (p.parted r.stage).capacity - 1 }.removeRestoration r.number).finishReturn
      (g + 1) b v := by
  obtain ⟨hcapacity, hleased, hroom, hplaces, hpermits, hinstances⟩ := h
  obtain ⟨hlen, hcount⟩ := restorations_of_restoration? hn hr
  refine ⟨?_, ?_, ?_, fun ho => ?_, hpermits, fun ho => ?_⟩
  · show p.capacity - 1 + (g + 1) = p.size
    omega
  · show p.leased - 1 = p.leases.length + (p.removeRestoration r.number).restorations.length + b
    omega
  · show p.idle.length + (p.leased - 1) ≤ p.capacity - 1
    omega
  · show p.idle.length + (p.leased - 1) = p.capacity - 1
    have := hplaces ho
    omega
  · show p.size + p.replaced = p.destroyed + r.stage.holds.toNat + (p.idle.length +
      p.leases.length + (p.removeRestoration r.number).restorations.countP (·.stage.holds)) + v
    have := hinstances ho
    omega

/-- A restoration that is broken off: its permit comes back without its instance. -/
theorem Accounts.breakOff (hn : WellNumbered p) (h : Accounts p g b v)
    (hr : p.restoration? r.number = some r) :
    Accounts (p.removeRestoration r.number).releasePermit g (b + 1)
      (v + r.stage.holds.toNat) := by
  obtain ⟨hcapacity, hleased, hroom, hplaces, hpermits, hinstances⟩ := h
  obtain ⟨hlen, hcount⟩ := restorations_of_restoration? hn hr
  have havailable := Permits.available_release p.permits
  have hopen (ho : p.permits.release.closed = false) : p.closed = false :=
    (Permits.closed_release p.permits).symm.trans ho
  refine ⟨hcapacity, ?_, hroom, fun ho => hplaces (hopen ho), fun ho => ?_, fun ho => ?_⟩
  · show p.leased = p.leases.length + (p.removeRestoration r.number).restorations.length + (b + 1)
    omega
  · show p.permits.release.available = p.idle.length + (b + 1)
    have := hpermits (hopen ho)
    omega
  · show p.size + p.replaced = p.destroyed + (p.idle.length + p.leases.length +
      (p.removeRestoration r.number).restorations.countP (·.stage.holds)) +
        (v + r.stage.holds.toNat)
    have := hinstances (hopen ho)
    omega

/-- **A turn of a restoration keeps the accounts**, and gives an instance up if it could not be
replaced. -/
theorem Accounts.restores {rounds : Nat} {o : Option Restored} (hn : WellNumbered p)
    (h : Accounts p g b v) (hr : p.restoration? r.number = some r)
    (hR : Restores rounds w p r q o) : Accounts q (g + (o.any Restored.isLost).toNat) b v := by
  cases hR with
  | tidying ht hx => exact h.setRestoration hn hr (d := 0) (by rw [ht.holds]; rfl) p.made
  | kept ht ho => exact h.keep hn hr (n := 0) (d := 0) (by rw [ht.holds]; rfl) p.made _
  | discarded hc => exact h.discard hn hr hc
  | replacing hb hx => exact h.setRestoration hn hr rfl _
  | replaced hb ho => exact h.keep hn hr (n := 1) (Nat.add_comm _ _) _ _
  | lost hb => exact h.lose hn hr

/-! ## All acts -/

/-- **An act keeps the accounts.** -/
theorem Accounts.moves (hn : WellNumbered p) (h : Accounts p g b v) (hm : Moves w p a q) :
    Accounts q (g + (a.fails w p || a.forsakes p).toNat) (b + (a.interrupts p).toNat)
      (v + (a.vanishes p).toNat) := by
  -- A quiet act gives nothing up and breaks nothing off, so the tallies stay.
  have quiet {q : Pool} (hq : a.Quiet w p) (h : Accounts q g b v) :
      Accounts q (g + (a.fails w p || a.forsakes p).toNat) (b + (a.interrupts p).toNat)
        (v + (a.vanishes p).toNat) := by
    rw [hq.fails, hq.forsakes, hq.interrupts, hq.vanishes]
    exact h
  cases hm with
  | still hq => exact quiet hq.toQuiet h
  | queued hq hx hg => exact quiet hq.toQuiet (h.withPermits _ rfl (Permits.available_enqueue _ hg))
  | unqueued hq hx =>
    exact quiet hq.toQuiet (h.withPermits _ (Permits.closed_withdraw _ _)
      (Permits.available_withdraw hn.waiters.1 hx))
  | @starved _ hq ps hps hi =>
    have hc : ps.release.closed = p.closed :=
      (Permits.closed_release ps).trans (closed_of_obtained hps)
    have ha : ps.release.available = p.permits.available := by
      rw [Permits.available_release, available_of_obtained hps hn.waiters.1]
    exact quiet hq.toQuiet (h.withPermits _ hc ha)
  | lent hq hps ho hi => exact quiet hq.toQuiet (h.lend hn hps hi _ _)
  | called hq hl hc => exact quiet hq (h.setLease _)
  | returned hl => exact h.giveBack hn hl _
  | abandoned hl => exact h.giveBack hn hl _
  | @forsaken l hl =>
    have hf : (PoolAct.abandonForGood l.number).forsakes p = true := by
      rw [PoolAct.forsakes, hl]; rfl
    rw [hf, Bool.or_true]
    exact h.forsake hn hl
  | @restored rounds r _ o hr hR ho =>
    have hf : ((PoolAct.proceedRestoration rounds r.number).fails w p ||
        (PoolAct.proceedRestoration rounds r.number).forsakes p) = o.any Restored.isLost := by
      rw [PoolAct.fails, ho]
      exact Bool.or_false _
    rw [hf]
    exact h.restores hn hr hR
  | @interrupted r hr =>
    have hb : (PoolAct.dropRestoration r.number).interrupts p = true := by
      rw [PoolAct.interrupts, hr]; rfl
    have hv : (PoolAct.dropRestoration r.number).vanishes p = r.stage.holds := by
      rw [PoolAct.vanishes, hr]; rfl
    rw [hb, hv]
    exact h.breakOff hn hr
  | closed deadline => exact .of_closed rfl h.capacity h.leased h.room
  | emptied deadline =>
    -- Idle instances are gone, but no place is given up for them.
    have hroom : ([] : List Instance).length + p.leased ≤ p.capacity :=
      Nat.le_trans (Nat.add_le_add_right (Nat.zero_le _) _) h.room
    exact .of_closed rfl h.capacity h.leased hroom

/-! ## Runs -/

theorem run_fixed (p : Pool) (ms : List (Moment σ)) :
    (p.run ms).blueprint = p.blueprint ∧ (p.run ms).size = p.size :=
  run_induction (I := fun q => q.blueprint = p.blueprint ∧ q.size = p.size) ⟨rfl, rfl⟩
    (fun q m h => by
      have hm := (perform_moves m.world q m.act).fixed
      exact ⟨hm.1.trans h.1, hm.2.trans h.2⟩) ms

theorem wellNumbered_run (hn : WellNumbered p) (ms : List (Moment σ)) : WellNumbered (p.run ms) :=
  run_induction hn (fun q m hq => hq.moves (perform_moves m.world q m.act)) ms

/-- **A run keeps the accounts.** -/
theorem Accounts.run (hn : WellNumbered p) (h : Accounts p g b v) (ms : List (Moment σ)) :
    Accounts (p.run ms)
      (g + p.countMoments (fun q m => m.act.fails m.world q || m.act.forsakes q) ms)
      (b + p.countMoments (fun q m => m.act.interrupts q) ms)
      (v + p.countMoments (fun q m => m.act.vanishes q) ms) := by
  induction ms generalizing p g b v with
  | nil => exact h
  | cons m ms ih =>
    have hm := perform_moves m.world p m.act
    have hstep := ih (hn.moves hm) (h.moves hn hm)
    simp only [countMoments, ← Nat.add_assoc]
    exact hstep

theorem accounts_pool (f : Filling) (made : List Instance) (hm : made.length = f.size) :
    WellNumbered (f.pool made) ∧ Accounts (f.pool made) 0 0 0 := by
  refine ⟨⟨.nil 0, .nil 0, .nil 0⟩,
    ⟨hm, rfl, Nat.le_refl _, fun _ => rfl, fun _ => rfl, fun _ => ?_⟩⟩
  show f.size + 0 = 0 + (made.length + 0 + 0) + 0
  omega

/-- **The accounts of a filled pool.** -/
theorem accounts_of_filled {blueprint : Blueprint} {size : Nat} {timeout : Option Nat}
    (hp : Filled σ blueprint size timeout p) :
    WellNumbered p ∧ Accounts p 0 0 0 ∧ p.size = size := by
  obtain ⟨made, i, rfl, rfl⟩ := hp.eq
  have h := accounts_pool ⟨blueprint, made.length + 1, timeout, [], default⟩ (i :: made) rfl
  exact ⟨h.1, h.2, rfl⟩

theorem countMoments_eq_zero {is : Pool → Moment σ → Bool} {ms : List (Moment σ)}
    (h : ∀ m ∈ ms, ∀ q, is q m = false) (p : Pool) : p.countMoments is ms = 0 := by
  induction ms generalizing p with
  | nil => rfl
  | cons m ms ih =>
    rw [countMoments, h m List.mem_cons_self p,
      ih (fun m' hm => h m' (List.mem_cons_of_mem m hm))]
    rfl

theorem countMoments_congr {is is' : Pool → Moment σ → Bool} {ms : List (Moment σ)}
    (h : ∀ m ∈ ms, ∀ q, is q m = is' q m) (p : Pool) :
    p.countMoments is ms = p.countMoments is' ms := by
  induction ms generalizing p with
  | nil => rfl
  | cons m ms ih =>
    rw [countMoments, countMoments, h m List.mem_cons_self p,
      ih (fun m' hm => h m' (List.mem_cons_of_mem m hm))]

/-- **A pool that has settled** with so many callers: they hold what is leased, there is no permit
without an instance, and every place belongs to an instance that is idle or leased.  So whoever
comes by a permit gets an instance, and whoever drains the pool waits for the callers only. -/
structure Settled (p : Pool) (callers : Nat) : Prop where
  leased : p.leased = callers
  permits : p.permits.available ≤ p.idle.length
  places : p.idle.length + p.leased = p.capacity
  served : ∀ ps, p.permits.Obtained ps → p.idle ≠ []
  drained : ∀ clock, drainOver clock p none = decide (callers = 0)

/-- **An open pool in which nothing is being restored has settled** if and only if no restoration
was broken off. -/
theorem Accounts.settled_iff (hn : WellNumbered p) (h : Accounts p g b v) (ho : p.closed = false)
    (hr : p.restorations.length = 0) : p.Settled p.leases.length ↔ b = 0 := by
  have hleased := h.leased
  have hpermits := h.permits ho
  constructor
  · intro hs
    have := hs.leased
    omega
  · rintro rfl
    refine ⟨by omega, Nat.le_of_eq hpermits, h.places ho, fun ps hps hi => ?_, fun clock => ?_⟩
    -- Whoever comes by a permit takes an available one, and there is an instance for each.
    · have havailable := available_of_obtained hps hn.waiters.1
      rw [hi] at hpermits
      simp only [List.length_nil] at hpermits
      omega
    · have hall : p.leased = p.leases.length := by omega
      rw [drainOver, hall, Option.any_none, Bool.or_false]

/-- **A pool in use settles** once nothing is being restored, if and only if no restoration was
broken off. -/
theorem settled_run_iff {blueprint : Blueprint} {size : Nat} {timeout : Option Nat}
    (hp : Filled σ blueprint size timeout p) (ms : List (Moment σ))
    (ho : (p.run ms).closed = false) (hr : (p.run ms).restorations = []) :
    (p.run ms).Settled (p.run ms).leases.length ↔
      p.countMoments (fun q m => m.act.interrupts q) ms = 0 := by
  obtain ⟨hn, hacc, -⟩ := accounts_of_filled hp
  have h := hacc.run hn ms
  rw [Nat.zero_add (p.countMoments (fun q m => m.act.interrupts q) ms)] at h
  exact h.settled_iff (wellNumbered_run hn ms) ho (congrArg List.length hr)

/-- **The accounts of a pool in use.**  Whatever the tasks of a pool do in whatever order, as long
as instances come back in an orderly way: while the pool is open every place belongs to an instance
that is idle or leased, a place is lost with each replacement that fails and only so, what is leased
is held by somebody or being restored, each idle instance has a permit that is free or was granted,
and each instance ever made is there or was destroyed.  Open or closed, no more is leased than there
are places, and there are no more places than there were to be. -/
theorem orderly_run_accounts {blueprint : Blueprint} {size : Nat} {timeout : Option Nat}
    (hp : Filled σ blueprint size timeout p) (ms : List (Moment σ))
    (hms : ∀ m ∈ ms, m.act.Orderly) :
    let q := p.run ms
    (q.closed = false →
      q.idle.length + q.leased = q.capacity ∧
      q.permits.free + q.permits.waiters.countP (·.granted) = q.idle.length ∧
      size + q.replaced = q.destroyed +
        (q.idle.length + q.leases.length + q.restorations.countP (·.stage.holds))) ∧
    q.capacity + p.countMoments (fun q m => m.act.fails m.world q) ms = size ∧
    q.leased = q.leases.length + q.restorations.length ∧
    q.leased ≤ q.capacity ∧ q.capacity ≤ size := by
  intro q
  obtain ⟨hn, hacc, rfl⟩ := accounts_of_filled hp
  have h := hacc.run hn ms
  -- An orderly run breaks nothing off, and gives up only what could not be replaced.
  have hgiven : p.countMoments (fun q m => m.act.fails m.world q || m.act.forsakes q) ms =
      p.countMoments (fun q m => m.act.fails m.world q) ms :=
    countMoments_congr (fun m hm q => by rw [((hms m hm).quiet q).2.2, Bool.or_false]) p
  rw [hgiven, countMoments_eq_zero fun m hm q => ((hms m hm).quiet q).1,
    countMoments_eq_zero fun m hm q => ((hms m hm).quiet q).2.1] at h
  have hsize : q.size = p.size := (run_fixed p ms).2
  obtain ⟨hcapacity, hleased, hroom, hplaces, hpermits, hinstances⟩ := h
  have hlost : q.capacity + p.countMoments (fun q m => m.act.fails m.world q) ms = p.size := by
    rw [← hsize, ← hcapacity, Nat.zero_add]
  refine ⟨fun ho => ⟨hplaces ho, hpermits ho, ?_⟩, hlost, hleased, ?_, ?_⟩
  · exact hsize ▸ hinstances ho
  · exact Nat.le_trans (Nat.le_add_left _ _) hroom
  · exact hlost ▸ Nat.le_add_right _ _

/-- In a pool of one, a lease is dropped and its instance replaced. -/
theorem plain_run_accounts :
    let ms : List (Moment Unit) := [⟨.silent, .tryCheckout⟩, ⟨.silent, .abandon 0⟩,
      ⟨.silent, .proceedRestoration 1 1⟩]
    let q := (filled .silent .plain []).run ms
    (∀ m ∈ ms, m.act.Orderly) ∧ q.closed = false ∧ q.idle.length + q.leased = q.capacity ∧
      1 + q.replaced = q.destroyed + (q.idle.length + q.leases.length +
        q.restorations.countP (·.stage.holds)) := by
  intro ms q
  have hms : ∀ m ∈ ms, m.act.Orderly := by simp [ms, PoolAct.Orderly]
  have h := (orderly_run_accounts filled_plain ms hms).1 rfl
  exact ⟨hms, rfl, h.1, h.2.2⟩

end Pool
end FunctionHost

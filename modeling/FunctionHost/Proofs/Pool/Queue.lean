import FunctionHost.Proofs.Pool.Line
import FunctionHost.Proofs.Pool.Lives
import Mathlib.Data.List.Sort

/-!
# First come, first served

Those who wait for an instance get permits in the order in which they began to wait, whatever
happens in between (`grants_sublist`).  A permit is a promise: an instance is kept for each.  Who
has one and when they look again is another matter, so of two who both have one the second may lease
an instance before the first does (`pair_overtaken`).  If nobody is overtaken like that, instances
are leased in order, too (`served_sublist`).
-/
namespace FunctionHost

variable {σ : Type}

/-- The numbers of those who had no permit before and have one now. -/
def Permits.grantedSince (p q : Permits) : List Nat :=
  (q.waiters.filter fun x => x.granted && (p.waiter? x.ticket).any (!·.granted)).map (·.ticket)

namespace PoolAct

/-- The number under which somebody waited who gets an instance, if the act is that. -/
def served? (w : World σ) (p : Pool) : PoolAct → Option Nat
  | .pollCheckout ticket =>
    match (p.pollCheckout w ticket).2.2 with
    | .ended (.ok _) => some ticket
    | _ => none
  | _ => none

/-- Whether somebody who waited gets an instance while another one waits who came earlier. -/
def overtakes (w : World σ) (p : Pool) (a : PoolAct) : Bool :=
  (a.served? w p).any fun ticket => p.permits.waiters.any (·.ticket < ticket)

end PoolAct

namespace Pool

/-- **Who begins to wait** in a run, one after another. -/
def arrivals (p : Pool) (ms : List (Moment σ)) : List Nat :=
  p.collect (fun q m => (m.act.arrived? m.world q).toList) ms

/-- **Who gets a permit** in a run after having waited, one after another. -/
def grants (p : Pool) (ms : List (Moment σ)) : List Nat :=
  p.collect (fun q m => q.permits.grantedSince (m.act.perform m.world q).permits) ms

/-- **Who gets an instance** in a run after having waited, one after another. -/
def served (p : Pool) (ms : List (Moment σ)) : List Nat :=
  p.collect (fun q m => (m.act.served? m.world q).toList) ms

variable {w : World σ} {p q : Pool} {a : PoolAct} {t : Nat}

/-! ## The line of a pool -/

/-- **A pool whose waiters stand in line**, each under a number of its own. -/
structure Queued (p : Pool) : Prop where
  numbered : WellNumbered p
  line : p.permits.InLine

namespace Queued

theorem lt_next (h : Queued p) {x : Waiter} (hx : x ∈ p.permits.waiters) :
    x.ticket < p.nextNumber :=
  h.numbered.waiters.2 _ (List.mem_map_of_mem hx)

theorem nodup (h : Queued p) : p.permits.tickets.Nodup := h.numbered.waiters.1

theorem perform (h : Queued p) (w : World σ) (a : PoolAct) : Queued (a.perform w p) := by
  have hm := perform_moves w p a
  refine ⟨h.numbered.moves hm, h.line.steps ?_ hm.steps⟩
  intro t ht y hy
  rw [(arrived?_eq_some ht).1]
  exact h.lt_next hy

theorem run (h : Queued p) (ms : List (Moment σ)) : Queued (p.run ms) :=
  run_induction h (fun _ m hq => hq.perform m.world m.act) ms

/-- Who waits is found under their number. -/
theorem waiter? (h : Queued p) {x : Waiter} (hx : x ∈ p.permits.waiters) :
    p.permits.waiter? x.ticket = some x :=
  Numbered.find?_of_mem h.nodup hx

end Queued

theorem queued_of_filled {b : Blueprint} {size : Nat} {timeout : Option Nat}
    (hp : Filled σ b size timeout p) : Queued p ∧ p.permits.waiters = [] := by
  have hn := (accounts_of_filled hp).1
  obtain ⟨made, i, -, rfl⟩ := hp.eq
  exact ⟨⟨hn, .nil, fun _ _ _ hx => nomatch hx⟩, rfl⟩

/-! ## Arrivals -/

theorem nextNumber_le_of_mem_arrivals {ms : List (Moment σ)} (h : t ∈ p.arrivals ms) :
    p.nextNumber ≤ t := by
  induction ms generalizing p with
  | nil => cases h
  | cons m ms ih =>
    rcases List.mem_append.mp h with h | h
    · have hfirst : m.act.arrived? m.world p = some t := Option.mem_toList.mp h
      exact Nat.le_of_eq (arrived?_eq_some hfirst).1.symm
    · exact Nat.le_trans (perform_moves m.world p m.act).nextNumber_le (ih h)

/-- Who comes later has a greater number. -/
theorem arrivals_sorted (p : Pool) (ms : List (Moment σ)) : (p.arrivals ms).Pairwise (· < ·) := by
  induction ms generalizing p with
  | nil => exact .nil
  | cons m ms ih =>
    refine List.pairwise_append.mpr ⟨?_, ih _, ?_⟩
    · cases m.act.arrived? m.world p <;> simp
    · intro t ht t' ht'
      have hfirst : m.act.arrived? m.world p = some t := Option.mem_toList.mp ht
      have hlater := nextNumber_le_of_mem_arrivals ht'
      rw [(arrived?_eq_some hfirst).2] at hlater
      exact hlater

/-! ## Grants -/

theorem mem_grantedSince {ps qs : Permits} (h : t ∈ ps.grantedSince qs) :
    (∃ x ∈ qs.waiters, x.granted = true ∧ x.ticket = t) ∧
      ∃ y ∈ ps.waiters, y.granted = false ∧ y.ticket = t := by
  obtain ⟨x, hx, rfl⟩ := List.mem_map.mp h
  obtain ⟨hx, hcond⟩ := List.mem_filter.mp hx
  obtain ⟨hg, hany⟩ := Bool.and_eq_true_iff.mp hcond
  refine ⟨⟨x, hx, hg, rfl⟩, ?_⟩
  cases hy : ps.waiter? x.ticket with
  | none => rw [hy] at hany; cases hany
  | some y =>
    rw [hy] at hany
    obtain ⟨hmem, hticket⟩ := Permits.mem_of_waiter? hy
    exact ⟨y, hmem, by simpa using hany, hticket⟩

/-- **Who has a permit** had one before or gets it now. -/
theorem granted_or_mem_grantedSince (h : Queued p) (w : World σ) (a : PoolAct) {x : Waiter}
    (hx : x ∈ (a.perform w p).permits.waiters) (hg : x.granted = true) :
    (∃ y ∈ p.permits.waiters, y.granted = true ∧ y.ticket = x.ticket) ∨
      x.ticket ∈ p.permits.grantedSince (a.perform w p).permits := by
  rcases (perform_moves w p a).steps.stays hx with ⟨y, hy, hticket, -⟩ | ⟨-, hnot⟩
  · cases hgy : y.granted with
    | true => exact .inl ⟨y, hy, hgy, hticket⟩
    | false =>
      refine .inr (List.mem_map.mpr ⟨x, List.mem_filter.mpr ⟨hx, ?_⟩, rfl⟩)
      rw [hg, ← hticket, h.waiter? hy, Option.any_some, hgy]
      rfl
  · rw [hg] at hnot
    cases hnot

/-- **Who gets a permit** waits for one before, or comes later. -/
theorem mem_grants {ms : List (Moment σ)} (ht : t ∈ p.grants ms) :
    (∃ z ∈ p.permits.waiters, z.granted = false ∧ z.ticket = t) ∨ t ∈ p.arrivals ms := by
  induction ms generalizing p with
  | nil => cases ht
  | cons m ms ih =>
    rcases List.mem_append.mp ht with ht | ht
    · exact .inl (mem_grantedSince ht).2
    · rcases ih ht with ⟨z, hz, hg, rfl⟩ | hlater
      · rcases (perform_moves m.world p m.act).steps.stays hz with ⟨y, hy, hyt, hyg⟩ | ⟨hnew, -⟩
        · exact .inl ⟨y, hy, hyg hg, hyt⟩
        · exact .inr (List.mem_append_left _ (Option.mem_toList.mpr hnew))
      · exact .inr (List.mem_append_right _ hlater)

/-- **Permits are given in rising order of numbers.** -/
theorem grants_sorted (h : Queued p) (ms : List (Moment σ)) :
    (p.grants ms).Pairwise (· < ·) := by
  induction ms generalizing p with
  | nil => exact .nil
  | cons m ms ih =>
    have hq := h.perform m.world m.act
    refine List.pairwise_append.mpr ⟨?_, ih hq, ?_⟩
    · refine List.pairwise_map.mpr (List.Pairwise.filter _ ?_)
      exact hq.line.order.imp And.left
    · intro t ht t' ht'
      obtain ⟨x, hx, hgx, rfl⟩ := (mem_grantedSince ht).1
      rcases mem_grants ht' with ⟨z, hz, hgz, rfl⟩ | hlater
      -- Whoever has none yet stands behind whoever has got one.
      · exact hq.line.lt_of_granted hx hz hgx hgz
      · exact Nat.lt_of_lt_of_le (hq.lt_next hx) (nextNumber_le_of_mem_arrivals hlater)

/-- A list in rising order whose numbers are those of another one is a part of it in that order. -/
theorem sublist_of_sorted {l l' : List Nat} (hl : l.Pairwise (· < ·)) (hl' : l'.Pairwise (· < ·))
    (h : l ⊆ l') : l.Sublist l' := by
  have hnodup : l.Nodup := hl.imp Nat.ne_of_lt
  exact List.sublist_of_subperm_of_pairwise (List.subperm_of_subset hnodup h)
    (hl.imp Nat.le_of_lt) (hl'.imp Nat.le_of_lt)

/-- **Permits are given in the order in which those came who get them.** -/
theorem grants_sublist (h : Queued p) (hnobody : p.permits.waiters = []) (ms : List (Moment σ)) :
    (p.grants ms).Sublist (p.arrivals ms) := by
  refine sublist_of_sorted (grants_sorted h ms) (arrivals_sorted p ms) fun t ht => ?_
  rcases mem_grants ht with ⟨z, hz, -, -⟩ | hlater
  · rw [hnobody] at hz
    cases hz
  · exact hlater

/-! ## Who gets an instance -/

/-- Whoever gets an instance leaves the permits as they are. -/
theorem permits_of_lend {l : Nat} (h : (lend w p).2.2 = .ok l) :
    (lend w p).2.1.permits = p.permits := by
  unfold lend at h ⊢
  split at h
  · cases h
  · rename_i hc
    rw [if_neg hc]
    split at h
    · cases h
    · rfl

/-- Whoever has a permit gets an instance as long as one is idle. -/
theorem lend_of_idle (ho : p.closed = false) (hi : p.idle ≠ []) (w : World σ) :
    ∃ l, (lend w p).2.2 = .ok l := by
  unfold lend
  rw [if_neg (Bool.eq_false_iff.mp ho)]
  split
  · rename_i hidle
    exact absurd hidle hi
  · exact ⟨_, rfl⟩

/-- **Whoever gets an instance after having waited** had a permit for it. -/
theorem served?_eq_some (h : a.served? w p = some t) :
    (∃ x ∈ p.permits.waiters, x.ticket = t ∧ x.granted = true) ∧
      (a.perform w p).permits = p.permits.remove t := by
  cases a with
  | pollCheckout ticket =>
    have hlooks := pollCheckout_looks w p ticket
    rw [PoolAct.served?] at h
    rw [PoolAct.perform]
    generalize p.pollCheckout w ticket = r at hlooks h
    cases hlooks with
    | @obtained x hx ho hg =>
      obtain ⟨hmem, hticket⟩ := Permits.mem_of_waiter? hx
      split at h
      · rename_i l hl
        cases h
        exact ⟨⟨x, hmem, hticket, hg⟩, permits_of_lend (Standing.ended.inj hl)⟩
      · cases h
    | _ => cases h
  | _ => cases h

/-- **Whoever gets an instance after having waited** has a permit before, or gets it in the run. -/
theorem mem_served (h : Queued p) {ms : List (Moment σ)} (ht : t ∈ p.served ms) :
    (∃ x ∈ p.permits.waiters, x.granted = true ∧ x.ticket = t) ∨ t ∈ p.grants ms := by
  induction ms generalizing p with
  | nil => cases ht
  | cons m ms ih =>
    rcases List.mem_append.mp ht with ht | ht
    · obtain ⟨⟨x, hx, rfl, hg⟩, -⟩ := served?_eq_some (Option.mem_toList.mp ht)
      exact .inl ⟨x, hx, hg, rfl⟩
    · rcases ih (h.perform m.world m.act) ht with ⟨x, hx, hg, rfl⟩ | hlater
      · rcases granted_or_mem_grantedSince h m.world m.act hx hg with hbefore | hnow
        · exact .inl hbefore
        · exact .inr (List.mem_append_left _ hnow)
      · exact .inr (List.mem_append_right _ hlater)

/-- Who is served later waits still, or comes later. -/
theorem waits_or_arrives (h : Queued p) {ms : List (Moment σ)} (ht : t ∈ p.served ms) :
    (∃ x ∈ p.permits.waiters, x.ticket = t) ∨ p.nextNumber ≤ t := by
  rcases mem_served h ht with ⟨x, hx, -, hxt⟩ | hgranted
  · exact .inl ⟨x, hx, hxt⟩
  · rcases mem_grants hgranted with ⟨z, hz, -, hzt⟩ | hlater
    · exact .inl ⟨z, hz, hzt⟩
    · exact .inr (nextNumber_le_of_mem_arrivals hlater)

/-- **If nobody is overtaken, instances are leased in rising order of numbers.** -/
theorem served_sorted (h : Queued p) {ms : List (Moment σ)}
    (hnone : p.countMoments (fun q m => m.act.overtakes m.world q) ms = 0) :
    (p.served ms).Pairwise (· < ·) := by
  induction ms generalizing p with
  | nil => exact .nil
  | cons m ms ih =>
    obtain ⟨hnow, hrest⟩ := Nat.add_eq_zero_iff.mp hnone
    have hnow : (m.act.overtakes m.world p).toNat = 0 := hnow
    have hq := h.perform m.world m.act
    refine List.pairwise_append.mpr ⟨?_, ih hq hrest, ?_⟩
    · cases m.act.served? m.world p <;> simp
    · intro t ht t' ht'
      have hserved : m.act.served? m.world p = some t := Option.mem_toList.mp ht
      obtain ⟨⟨x, hx, rfl, -⟩, hpermits⟩ := served?_eq_some hserved
      rcases waits_or_arrives hq ht' with ⟨z, hz, rfl⟩ | hlater
      -- All who wait still came later: else one of them would be overtaken.
      · rw [hpermits] at hz
        obtain ⟨hz, hne⟩ := List.mem_filter.mp hz
        have hne : z.ticket ≠ x.ticket := of_decide_eq_true hne
        have hnot : ¬ z.ticket < x.ticket := by
          intro hlt
          have hover : m.act.overtakes m.world p = true := by
            rw [PoolAct.overtakes, hserved]
            exact List.any_eq_true.mpr ⟨z, hz, decide_eq_true hlt⟩
          rw [hover] at hnow
          cases hnow
        omega
      · have hle := (perform_moves m.world p m.act).nextNumber_le
        have hlt := h.lt_next hx
        omega

/-- **Instances are leased in the order in which those came who wait for them**, if nobody is
overtaken. -/
theorem served_sublist (h : Queued p) (hnobody : p.permits.waiters = []) {ms : List (Moment σ)}
    (hnone : p.countMoments (fun q m => m.act.overtakes m.world q) ms = 0) :
    (p.served ms).Sublist (p.arrivals ms) := by
  refine sublist_of_sorted (served_sorted h hnone) (arrivals_sorted p ms) fun t ht => ?_
  rcases mem_served h ht with ⟨x, hx, -, -⟩ | hgranted
  · rw [hnobody] at hx
    cases hx
  · exact (grants_sublist h hnobody ms).subset hgranted

/-! ## Newcomers -/

/-- **Whoever gets an instance at once** finds nobody waiting without a permit. -/
theorem granted_of_take? (h : Queued p) {ps : Permits} (hq : p.permits.take? = some ps) :
    ∀ x ∈ p.permits.waiters, x.granted = true := by
  obtain ⟨ho, hfree, -, -⟩ := Permits.take?_eq_some hq
  exact h.line.full ho (by omega)

theorem granted_of_tryCheckout (h : Queued p) {l : Nat} (hl : (p.tryCheckout w).2.2 = .ok l) :
    ∀ x ∈ p.permits.waiters, x.granted = true := by
  unfold tryCheckout at hl
  split at hl
  · cases hl
  · split at hl
    · rename_i ps hq
      exact granted_of_take? h hq
    · cases hl

theorem granted_of_checkout (h : Queued p) {c : Context} {l : Nat}
    (hl : (p.checkout w c).2.2 = .ended (.ok l)) : ∀ x ∈ p.permits.waiters, x.granted = true := by
  have hasks := checkout_asks w p c
  generalize p.checkout w c = r at hasks hl
  cases hasks with
  | obtained ho hq => exact granted_of_take? h hq
  | _ => cases hl

/-- The pool's own limit leaves a context cancelled or expired that is so. -/
theorem interruption_bounded {clock : Clock} {c : Context}
    (h : (c.interruption clock).isSome) : ((p.bounded clock c).interruption clock).isSome := by
  unfold bounded
  split
  · rename_i ms hd ht
    unfold Context.interruption at h ⊢
    split at h
    · rename_i hc
      have hc : (c.withTimeout clock.now ms).isCancelled clock = true := hc
      rw [if_pos hc]
      rfl
    · rw [Context.isExpired, hd] at h
      cases h
  · exact h

/-- **A request that is over before it asks** changes nothing. -/
theorem checkout_of_interrupted {c : Context} (h : (c.interruption w.clock).isSome) :
    ∃ v e, p.checkout w c = (v, p, .ended (.error e)) := by
  obtain ⟨why, hwhy⟩ := Option.isSome_iff_exists.mp (interruption_bounded (p := p) h)
  cases ho : p.closed with
  | true => exact ⟨w, _, by rw [checkout, if_pos ho]⟩
  | false =>
    refine ⟨(interrupted w p w.clock.now why).1, (interrupted w p w.clock.now why).2, ?_⟩
    simp only [checkout, ho, hwhy, Bool.false_eq_true, if_false]

/-! ## Leaving the line -/

/-- **A permit of somebody who leaves the line** goes to the first who has none. -/
theorem mem_withdraw (h : Queued p) (ho : p.closed = false) {x y : Waiter}
    (hx : x ∈ p.permits.waiters) (hgx : x.granted = true) (hy : y ∈ p.permits.waiters)
    (hgy : y.granted = false)
    (hfirst : ∀ z ∈ p.permits.waiters, z.granted = false → y.ticket ≤ z.ticket) :
    { y with granted := true } ∈ (p.permits.withdraw x).waiters := by
  have hlt := h.line.lt_of_granted hx hy hgx hgy
  have hmem : y ∈ (p.permits.remove x.ticket).waiters :=
    List.mem_filter.mpr ⟨hy, decide_eq_true (Nat.ne_of_gt hlt)⟩
  have horder := (h.line.remove x.ticket).order
  have hr := Permits.release_releases (p.permits.remove x.ticket)
  rw [Permits.withdraw, if_pos hgx]
  generalize (p.permits.remove x.ticket).release = ps at hr
  cases hr with
  | freed hall =>
    have hy := hall ho y hmem
    rw [hgy] at hy
    cases hy
  | @granted front back z hz hsplit hfront hgz =>
    rw [hsplit] at hmem horder
    have hzmem : z ∈ (p.permits.remove x.ticket).waiters :=
      hsplit ▸ List.mem_append_right _ List.mem_cons_self
    have hle := hfirst z (Permits.mem_of_remove hzmem) hgz
    obtain ⟨-, hback, -⟩ := List.pairwise_append.mp horder
    -- Before the one who gets it stand only those who have one, behind it those who came later.
    rcases List.mem_append.mp hmem with hyf | hyb
    · have hy := hfront y hyf
      rw [hgy] at hy
      cases hy
    · rcases List.mem_cons.mp hyb with rfl | hyb
      · exact List.mem_append_right _ List.mem_cons_self
      · have hzy := (List.rel_of_pairwise_cons hback hyb).1
        omega

/-- A permit of somebody who leaves is free if nobody needs it. -/
theorem free_withdraw {x : Waiter} (hgx : x.granted = true)
    (hall : ∀ y ∈ p.permits.waiters, y.granted = true) :
    (p.permits.withdraw x).free = p.permits.free + 1 := by
  have hr := Permits.release_releases (p.permits.remove x.ticket)
  rw [Permits.withdraw, if_pos hgx]
  generalize (p.permits.remove x.ticket).release = ps at hr
  cases hr with
  | freed hfreed => rfl
  | @granted front back z hz hsplit hfront hgz =>
    have hzmem : z ∈ (p.permits.remove x.ticket).waiters :=
      hsplit ▸ List.mem_append_right _ List.mem_cons_self
    have hz := hall z (Permits.mem_of_remove hzmem)
    rw [hgz] at hz
    cases hz

theorem leaveQueue_eq (h : Queued p) {x : Waiter} (hx : x ∈ p.permits.waiters) :
    p.leaveQueue x.ticket = { p with permits := p.permits.withdraw x } := by
  simp only [leaveQueue, h.waiter? hx]

theorem withdraw_of_not_granted {x : Waiter} (hg : x.granted = false) :
    p.permits.withdraw x = p.permits.remove x.ticket := by
  rw [Permits.withdraw, hg]
  rfl

/-- **What somebody who waits finds** when they look again in an open pool: an instance if they have
a permit, else the end of their context if it has come, else nothing. -/
theorem pollCheckout_of_mem (h : Queued p) (ho : p.closed = false) {x : Waiter}
    (hx : x ∈ p.permits.waiters) (hidle : x.granted = true → p.idle ≠ []) (w : World σ) :
    if x.granted then ∃ l, (p.pollCheckout w x.ticket).2.2 = .ended (.ok l)
    else
      match x.context.interruption w.clock with
      | some why => p.pollCheckout w x.ticket = ((interrupted w p x.since why).1,
          { p with permits := p.permits.remove x.ticket },
          .ended (.error (interrupted w p x.since why).2))
      | none => p.pollCheckout w x.ticket = (w, p, .blocked x.ticket) := by
  have hfound := h.waiter? hx
  unfold pollCheckout
  rw [hfound]
  cases hg : x.granted with
  | true =>
    obtain ⟨l, hl⟩ :=
      lend_of_idle (p := { p with permits := p.permits.remove x.ticket }) ho (hidle hg) w
    refine ⟨l, ?_⟩
    simp only [ho, hg, Bool.false_eq_true, if_false, if_true, hl]
  | false =>
    simp only [ho, hg, Bool.false_eq_true, if_false]
    cases x.context.interruption w.clock with
    | some why => simp only [withdraw_of_not_granted hg]
    | none => rfl

/-- **If all who wait have no permit, nothing is idle.** -/
theorem idle_of_waiting (h : Queued p) (ho : p.closed = false) {g b v : Nat}
    (hacc : Accounts p g b v) (hall : ∀ x ∈ p.permits.waiters, x.granted = false)
    (hwait : p.permits.waiters ≠ []) : p.idle = [] := by
  have hpermits := hacc.permits ho
  obtain ⟨x, hx⟩ := List.exists_mem_of_ne_nil _ hwait
  have hfree : p.permits.free = 0 := by
    by_contra hfree
    have hg := h.line.full ho hfree x hx
    rw [hall x hx] at hg
    cases hg
  have hnone : p.permits.waiters.countP (·.granted) = 0 := by
    refine List.countP_eq_zero.mpr ?_
    intro y hy
    simp [hall y hy]
  rw [Permits.available, hfree, hnone] at hpermits
  exact List.eq_nil_of_length_eq_zero (by omega)

/-- Whoever has a permit would go on at once. -/
theorem checkoutDue_of_granted (h : Queued p) (clock : Clock) {x : Waiter}
    (hx : x ∈ p.permits.waiters) (hg : x.granted = true) :
    p.checkoutDue clock x.ticket = some clock.now := by
  simp only [checkoutDue, h.waiter? hx, hg, Bool.or_true, if_true]

/-! ## Being served -/

/-- **First come, first served.**  Whatever the tasks of a filled pool do in whatever order:

* those who wait get permits in the order in which they came.  Whoever leases an instance after
  having waited got a permit before, and if nobody leases one while somebody is still to look who
  came earlier, instances are leased in the order in which those came, too.

While the pool is open, at every moment:

* whoever waits in front of somebody with a permit has one.  For each permit an instance is idle,
  but for restorations that were broken off, and who has one gets an instance when they look again,
  be their context over or not;
* whoever is lent an instance at once finds nobody waiting without a permit;
* whoever waits without a permit until their context is over gets nothing, and no one else is
  affected.  Whoever gives up waiting gets nothing, and if they had a permit the first one who has
  none gets it; it is free if there is nobody;
* if nobody who waits would go on, somebody waits only if no instance is idle.

Open or closed, a request that is cancelled or late before it asks changes nothing. -/
theorem permits_in_line {b : Blueprint} {size : Nat} {timeout : Option Nat}
    (hp : Filled σ b size timeout p) (ms : List (Moment σ)) :
    let q := p.run ms
    let broken := p.countMoments (fun q m => m.act.interrupts q) ms
    ((p.grants ms).Sublist (p.arrivals ms) ∧
      (∀ t ∈ p.served ms, t ∈ p.grants ms) ∧
      (p.countMoments (fun q m => m.act.overtakes m.world q) ms = 0 →
        (p.served ms).Sublist (p.arrivals ms))) ∧
    (q.closed = false →
      (∀ x ∈ q.permits.waiters, ∀ y ∈ q.permits.waiters, x.ticket < y.ticket →
        y.granted = true → x.granted = true) ∧
      q.permits.waiters.countP (·.granted) ≤ q.idle.length + broken ∧
      (∀ (w : World σ) l, (q.tryCheckout w).2.2 = .ok l →
        ∀ x ∈ q.permits.waiters, x.granted = true) ∧
      (∀ (w : World σ) c l, (q.checkout w c).2.2 = .ended (.ok l) →
        ∀ x ∈ q.permits.waiters, x.granted = true) ∧
      (∀ x ∈ q.permits.waiters, broken = 0 → ∀ w : World σ,
        if x.granted then ∃ l, (q.pollCheckout w x.ticket).2.2 = .ended (.ok l)
        else
          match x.context.interruption w.clock with
          | some why => q.pollCheckout w x.ticket = ((interrupted w q x.since why).1,
              { q with permits := q.permits.remove x.ticket },
              .ended (.error (interrupted w q x.since why).2))
          | none => q.pollCheckout w x.ticket = (w, q, .blocked x.ticket)) ∧
      (∀ x ∈ q.permits.waiters,
        q.leaveQueue x.ticket = { q with permits := q.permits.withdraw x } ∧
        (x.granted = false → q.permits.withdraw x = q.permits.remove x.ticket) ∧
        (x.granted = true →
          (∀ y ∈ q.permits.waiters, y.granted = false →
            (∀ z ∈ q.permits.waiters, z.granted = false → y.ticket ≤ z.ticket) →
            { y with granted := true } ∈ (q.permits.withdraw x).waiters) ∧
          ((∀ y ∈ q.permits.waiters, y.granted = true) →
            (q.permits.withdraw x).free = q.permits.free + 1))) ∧
      (∀ clock, (∀ x ∈ q.permits.waiters, q.checkoutDue clock x.ticket ≠ some clock.now) →
        q.permits.waiters ≠ [] → q.idle = [])) ∧
    (∀ (w : World σ) c, (c.interruption w.clock).isSome →
      ∃ v e, q.checkout w c = (v, q, .ended (.error e))) := by
  intro q broken
  obtain ⟨h, hnobody⟩ := queued_of_filled hp
  have hq : Queued q := h.run ms
  obtain ⟨hn, hacc, -⟩ := accounts_of_filled hp
  have hacc := hacc.run hn ms
  refine ⟨⟨grants_sublist h hnobody ms, fun t ht => ?_, served_sublist h hnobody⟩, fun ho => ?_,
    fun w c => checkout_of_interrupted⟩
  · rcases mem_served h ht with ⟨x, hx, -, -⟩ | hgranted
    · rw [hnobody] at hx
      cases hx
    · exact hgranted
  have hkept : q.permits.waiters.countP (·.granted) ≤ q.idle.length + broken := by
    have hpermits := hacc.permits ho
    rw [Permits.available, Nat.zero_add] at hpermits
    exact Nat.le_trans (Nat.le_add_left _ _) (Nat.le_of_eq hpermits)
  refine ⟨fun x hx y hy => hq.line.granted_of_lt hx hy, hkept, fun w l => granted_of_tryCheckout hq,
    fun w c l => granted_of_checkout hq, fun x hx hnone => ?_, fun x hx => ?_, fun clock hdue => ?_⟩
  · refine pollCheckout_of_mem hq ho hx fun hg hidle => ?_
    -- Their own permit counts among those for which an instance is kept.
    have hpos : 0 < q.permits.waiters.countP (·.granted) :=
      List.countP_pos_iff.mpr ⟨x, hx, hg⟩
    rw [hidle, hnone] at hkept
    exact absurd hkept (by simpa using hpos)
  · exact ⟨leaveQueue_eq hq hx, withdraw_of_not_granted, fun hg =>
      ⟨fun y hy => mem_withdraw hq ho hx hg hy, free_withdraw hg⟩⟩
  · refine idle_of_waiting hq ho hacc fun x hx => ?_
    refine Bool.eq_false_iff.mpr fun hg => ?_
    exact hdue x hx (checkoutDue_of_granted hq clock hx hg)

/-- A run in which both instances of a pool are leased, somebody waits for each, and both come
back. -/
def returnedTwice : List (Moment Unit) := [
  ⟨.silent, .tryCheckout⟩, ⟨.silent, .tryCheckout⟩,
  ⟨.silent, .checkout default⟩, ⟨.silent, .checkout default⟩,
  ⟨.silent, .release 0⟩, ⟨.silent, .release 1⟩,
  ⟨.silent, .proceedRestoration 1 4⟩, ⟨.silent, .proceedRestoration 1 5⟩]

/-- Two wait and look again in their turn. -/
theorem pair_served_in_line :
    let ms := returnedTwice ++ [⟨.silent, .pollCheckout 2⟩, ⟨.silent, .pollCheckout 3⟩]
    pair.arrivals ms = [2, 3] ∧ pair.served ms = [2, 3] ∧
      pair.countMoments (fun q m => m.act.overtakes m.world q) ms = 0 ∧
      (pair.served ms).Sublist (pair.arrivals ms) ∧ (pair.grants ms).Sublist (pair.arrivals ms) := by
  intro ms
  have hp : Filled Unit .plain 2 none pair := ⟨.silent, [], rfl⟩
  have hnone : pair.countMoments (fun q m => m.act.overtakes m.world q) ms = 0 := by
    decide +kernel
  obtain ⟨⟨hgrants, -, hserved⟩, -⟩ := permits_in_line hp ms
  exact ⟨by decide +kernel, by decide +kernel, hnone, hserved hnone, hgrants⟩

/-- **Instances need not be leased in the order of waiting.**  Two wait and both have got a permit;
the second one looks again first, and the first instance is theirs.  And of two instances that come
back while one waits, somebody who has just come may lease the first, although the one who waits
has not had theirs yet. -/
theorem pair_overtaken :
    let ms := returnedTwice ++ [⟨.silent, .pollCheckout 3⟩, ⟨.silent, .pollCheckout 2⟩]
    let single : List (Moment Unit) := [
      ⟨.silent, .tryCheckout⟩, ⟨.silent, .tryCheckout⟩, ⟨.silent, .checkout default⟩,
      ⟨.silent, .release 0⟩, ⟨.silent, .release 1⟩,
      ⟨.silent, .proceedRestoration 1 3⟩, ⟨.silent, .proceedRestoration 1 4⟩]
    (Filled Unit .plain 2 none pair ∧ (∀ m ∈ ms, m.act.Orderly) ∧ (pair.run ms).closed = false) ∧
    (pair.arrivals ms = [2, 3] ∧ pair.served ms = [3, 2] ∧
      ¬ (pair.served ms).Sublist (pair.arrivals ms)) ∧
    ((pair.run single).permits.waiters.map (·.ticket) = [2] ∧
      ((pair.run single).tryCheckout World.silent).2.2.toOption = some 5) := by
  intro ms single
  have harrivals : pair.arrivals ms = [2, 3] := by decide +kernel
  have hserved : pair.served ms = [3, 2] := by decide +kernel
  refine ⟨⟨⟨.silent, [], rfl⟩, by simp [ms, returnedTwice, PoolAct.Orderly], by decide +kernel⟩,
    ⟨harrivals, hserved, ?_⟩, by decide +kernel, by decide +kernel⟩
  rw [harrivals, hserved]
  decide

end Pool
end FunctionHost

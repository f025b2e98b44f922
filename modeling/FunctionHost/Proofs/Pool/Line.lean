import FunctionHost.Proofs.Pool.Numbers

/-!
# Waiting in line

Those who wait for a permit stand in the order in which they began to wait.  A permit that is given
back goes to the first of them who has none, so those who have one stand in front, and as long as
somebody has none no permit is free (`InLine`).

An act does one of a few things to the permits (`Steps`).  Each of these keeps the line, whoever
comes to stand in it or leaves it from the middle.
-/
namespace FunctionHost
namespace Permits

variable {p q : Permits} {x y z : Waiter} {coming : Option Nat}

/-- **One waits in front of another**: for longer, and with a permit if the other one has one. -/
def Before (x y : Waiter) : Prop := x.ticket < y.ticket ∧ (y.granted = true → x.granted = true)

/-- **Permits whose waiters stand in line.** -/
structure InLine (p : Permits) : Prop where
  order : p.waiters.Pairwise Before
  full : p.closed = false → p.free ≠ 0 → ∀ x ∈ p.waiters, x.granted = true

theorem InLine.eq_or_before (h : InLine p) (hx : x ∈ p.waiters) (hy : y ∈ p.waiters) :
    x = y ∨ Before x y ∨ Before y x := by
  have horder := h.order
  obtain ⟨front, back, hsplit⟩ := List.append_of_mem hx
  rw [hsplit] at horder hy
  obtain ⟨-, hback, hfront⟩ := List.pairwise_append.mp horder
  rcases List.mem_append.mp hy with hy | hy
  · exact .inr (.inr (hfront y hy x List.mem_cons_self))
  · rcases List.mem_cons.mp hy with rfl | hy
    · exact .inl rfl
    · exact .inr (.inl (List.rel_of_pairwise_cons hback hy))

/-- **Whoever stands in front of somebody with a permit has one.** -/
theorem InLine.granted_of_lt (h : InLine p) (hx : x ∈ p.waiters) (hy : y ∈ p.waiters)
    (hlt : x.ticket < y.ticket) (hg : y.granted = true) : x.granted = true := by
  rcases h.eq_or_before hx hy with rfl | hb | hb
  · exact hg
  · exact hb.2 hg
  · exact absurd hb.1 (Nat.lt_asymm hlt)

/-- Whoever has a permit stands in front of whoever has none. -/
theorem InLine.lt_of_granted (h : InLine p) (hx : x ∈ p.waiters) (hy : y ∈ p.waiters)
    (hgx : x.granted = true) (hgy : y.granted = false) : x.ticket < y.ticket := by
  have hne : ¬ (y.granted = true) := by rw [hgy]; decide
  rcases h.eq_or_before hx hy with rfl | hb | hb
  · exact absurd hgx hne
  · exact hb.1
  · exact absurd (hb.2 hgx) hne

/-! ## Giving back -/

theorem grantFirst_eq_none {ws : List Waiter} (h : grantFirst ws = none) :
    ∀ x ∈ ws, x.granted = true := by
  induction ws with
  | nil => exact fun _ hx => nomatch hx
  | cons w rest ih =>
    rw [grantFirst] at h
    split at h
    · rename_i hg
      exact List.forall_mem_cons.mpr ⟨hg, ih (Option.map_eq_none_iff.mp h)⟩
    · cases h

/-- A permit that is granted goes to the first who has none. -/
theorem grantFirst_split {ws ws' : List Waiter} (h : grantFirst ws = some ws') :
    ∃ front x back, ws = front ++ x :: back ∧ (∀ y ∈ front, y.granted = true) ∧
      x.granted = false ∧ ws' = front ++ { x with granted := true } :: back := by
  induction ws generalizing ws' with
  | nil => cases h
  | cons w rest ih =>
    rw [grantFirst] at h
    split at h
    · rename_i hg
      obtain ⟨rest', hrest, rfl⟩ := Option.map_eq_some_iff.mp h
      obtain ⟨front, x, back, rfl, hfront, hx, rfl⟩ := ih hrest
      exact ⟨w :: front, x, back, rfl, List.forall_mem_cons.mpr ⟨hg, hfront⟩, hx, rfl⟩
    · rename_i hg
      cases h
      exact ⟨[], w, rest, rfl, List.forall_mem_nil _, Bool.eq_false_iff.mpr hg, rfl⟩

/-- **What becomes of a permit that is given back**: nobody needs it, or the first who has none gets
it. -/
inductive Releases (p : Permits) : Permits → Prop
  | freed (h : p.closed = false → ∀ x ∈ p.waiters, x.granted = true) :
      Releases p { p with free := p.free + 1 }
  | granted {front back : List Waiter} {x : Waiter} (ho : p.closed = false)
      (h : p.waiters = front ++ x :: back) (hfront : ∀ y ∈ front, y.granted = true)
      (hx : x.granted = false) :
      Releases p { p with waiters := front ++ { x with granted := true } :: back }

theorem release_releases (p : Permits) : Releases p p.release := by
  unfold release
  split
  · rename_i ws hg
    split at hg
    · cases hg
    · rename_i ho
      obtain ⟨front, x, back, hsplit, hfront, hx, rfl⟩ := grantFirst_split hg
      exact .granted (Bool.eq_false_iff.mpr ho) hsplit hfront hx
  · rename_i hg
    refine .freed fun ho => grantFirst_eq_none ?_
    rwa [if_neg (Bool.eq_false_iff.mp ho)] at hg

theorem InLine.releases (h : InLine p) (hr : Releases p q) : InLine q := by
  cases hr with
  | freed hall => exact ⟨h.order, fun ho _ => hall ho⟩
  | @granted front back x ho hsplit hfront hx =>
    have horder := h.order
    rw [hsplit] at horder
    obtain ⟨hbefore, hback, hcross⟩ := List.pairwise_append.mp horder
    obtain ⟨hx', hback⟩ := List.pairwise_cons.mp hback
    refine ⟨List.pairwise_append.mpr ⟨hbefore, List.pairwise_cons.mpr ⟨fun z hz => ?_, hback⟩,
      fun y hy z hz => ?_⟩, fun _ hfree => ?_⟩
    · exact ⟨(hx' z hz).1, fun _ => rfl⟩
    · rcases List.mem_cons.mp hz with rfl | hz
      · exact ⟨(hcross y hy x List.mem_cons_self).1, fun _ => hfront y hy⟩
      · exact hcross y hy z (List.mem_cons_of_mem x hz)
    -- Somebody had no permit, so none was free.
    · have hmem : x ∈ p.waiters := hsplit ▸ List.mem_append_right _ List.mem_cons_self
      exact nomatch hx.symm.trans (h.full ho hfree x hmem)

theorem InLine.release (h : InLine p) : InLine p.release := h.releases (release_releases p)

/-! ## Coming and leaving -/

theorem InLine.remove (h : InLine p) (ticket : Nat) : InLine (p.remove ticket) :=
  ⟨h.order.filter _, fun ho hfree x hx => h.full ho hfree x (List.mem_filter.mp hx).1⟩

theorem InLine.withdraw (h : InLine p) (x : Waiter) : InLine (p.withdraw x) := by
  unfold Permits.withdraw
  split
  · exact (h.remove x.ticket).release
  · exact h.remove x.ticket

theorem free_of_take? (ho : p.closed = false) (h : p.take? = none) : p.free = 0 := by
  unfold take? at h
  split at h
  · cases h
  · rename_i hno
    exact Nat.eq_zero_of_not_pos fun hpos => hno (p.free - 1) ho (by omega)

/-- Whoever comes stands behind all others. -/
theorem InLine.enqueue (h : InLine p) (hf : p.take? = none) (hg : x.granted = false)
    (hlt : ∀ y ∈ p.waiters, y.ticket < x.ticket) : InLine (p.enqueue x) := by
  refine ⟨List.pairwise_append.mpr ⟨h.order, List.pairwise_singleton _ _, fun y hy z hz => ?_⟩,
    fun (ho : p.closed = false) hfree => absurd (free_of_take? ho hf) hfree⟩
  obtain rfl := List.mem_singleton.mp hz
  exact ⟨hlt y hy, fun hz => nomatch hg.symm.trans hz⟩

theorem InLine.obtained (h : InLine p) (hq : p.Obtained q) : InLine q := by
  cases hq with
  | free hq =>
    obtain ⟨ho, hfree, hwaiters, -⟩ := take?_eq_some hq
    have hall := h.full ho (by omega)
    exact ⟨hwaiters ▸ h.order, fun _ _ => hwaiters ▸ hall⟩
  | granted hw hg => exact h.remove _

/-! ## All acts -/

/-- **What an act can do to permits**, given the number of whoever begins to wait then. -/
inductive Steps (coming : Option Nat) (p : Permits) : Permits → Prop
  | same : Steps coming p p
  | queued {x : Waiter} (hx : coming = some x.ticket) (hg : x.granted = false)
      (hf : p.take? = none) : Steps coming p (p.enqueue x)
  | left {x : Waiter} (hx : x ∈ p.waiters) : Steps coming p (p.withdraw x)
  | obtained {q : Permits} (h : p.Obtained q) : Steps coming p q
  | passed {q : Permits} (h : p.Obtained q) : Steps coming p q.release
  | released : Steps coming p p.release
  | closed : Steps coming p p.close

/-- **Every act keeps the line.** -/
theorem InLine.steps (h : InLine p) (hlt : ∀ t, coming = some t → ∀ y ∈ p.waiters, y.ticket < t)
    (hs : Steps coming p q) : InLine q := by
  cases hs with
  | same => exact h
  | queued hx hg hf => exact h.enqueue hf hg (hlt _ hx)
  | left hx => exact h.withdraw _
  | obtained hq => exact h.obtained hq
  | passed hq => exact (h.obtained hq).release
  | released => exact h.release
  | closed => exact ⟨h.order, fun ho => nomatch ho⟩

/-- **Who waits after an act** waited before, with a permit only if they have one now; or they have
come and have none. -/
def Stays (coming : Option Nat) (p : Permits) (z : Waiter) : Prop :=
  (∃ y ∈ p.waiters, y.ticket = z.ticket ∧ (z.granted = false → y.granted = false)) ∨
    coming = some z.ticket ∧ z.granted = false

theorem stays_of_mem (h : z ∈ p.waiters) : Stays coming p z := .inl ⟨z, h, rfl, id⟩

/-- A permit that is given back brings nobody into the line. -/
theorem stays_of_release {r : Permits} (h : ∀ y ∈ r.waiters, y ∈ p.waiters)
    (hz : z ∈ r.release.waiters) : Stays coming p z := by
  have hr := release_releases r
  generalize r.release = q at hr hz
  cases hr with
  | freed hall => exact stays_of_mem (h z hz)
  | @granted front back x ho hsplit hfront hx =>
    have hmem : x ∈ r.waiters := hsplit ▸ List.mem_append_right _ List.mem_cons_self
    rcases List.mem_append.mp hz with hz | hz
    · exact stays_of_mem (h z (hsplit ▸ List.mem_append_left _ hz))
    · rcases List.mem_cons.mp hz with rfl | hz
      · exact .inl ⟨x, h x hmem, rfl, fun _ => hx⟩
      · exact stays_of_mem
          (h z (hsplit ▸ List.mem_append_right _ (List.mem_cons_of_mem x hz)))

theorem mem_of_remove {ticket : Nat} (h : z ∈ (p.remove ticket).waiters) : z ∈ p.waiters :=
  (List.mem_filter.mp h).1

theorem mem_of_obtained (h : p.Obtained q) (hz : z ∈ q.waiters) : z ∈ p.waiters := by
  cases h with
  | free h => exact (take?_eq_some h).2.2.1 ▸ hz
  | granted hw hg => exact mem_of_remove hz

theorem Steps.stays (h : Steps coming p q) (hz : z ∈ q.waiters) : Stays coming p z := by
  cases h with
  | same => exact stays_of_mem hz
  | queued hx hg hf =>
    rcases List.mem_append.mp hz with hz | hz
    · exact stays_of_mem hz
    · obtain rfl := List.mem_singleton.mp hz
      exact .inr ⟨hx, hg⟩
  | @left x hx =>
    unfold withdraw at hz
    split at hz
    · exact stays_of_release (fun y => mem_of_remove) hz
    · exact stays_of_mem (mem_of_remove hz)
  | obtained h => exact stays_of_mem (mem_of_obtained h hz)
  | passed h => exact stays_of_release (fun y => mem_of_obtained h) hz
  | released => exact stays_of_release (fun y => id) hz
  | closed => exact stays_of_mem hz

end Permits

/-- The number under which somebody begins to wait, if the act is that. -/
def PoolAct.arrived? {σ : Type} (w : World σ) (p : Pool) : PoolAct → Option Nat
  | .checkout c =>
    match (p.checkout w c).2.2 with
    | .blocked ticket => some ticket
    | _ => none
  | _ => none

namespace Pool

variable {σ : Type} {w : World σ} {p q : Pool} {a : PoolAct}

theorem Restores.steps {rounds : Nat} {r : Restoration} {o : Option Restored} {coming : Option Nat}
    (h : Restores rounds w p r q o) : Permits.Steps coming p.permits q.permits := by
  cases h with
  | tidying h hx => exact .same
  | kept h ho => exact .released
  | discarded hc => exact .released
  | replacing h hx => exact .same
  | replaced h ho => exact .released
  | lost h => exact .same

/-- **Every act on a pool does one of these things to its permits.** -/
theorem Moves.steps (h : Moves w p a q) :
    Permits.Steps (a.arrived? w p) p.permits q.permits := by
  cases h with
  | still hq => exact .same
  | queued hq hx hg hf hb => exact .queued (by rw [PoolAct.arrived?, hb, hx]) hg hf
  | unqueued hq hx => exact .left hx
  | starved hq hp hi => exact .passed hp
  | lent hq hp ho hi => exact .obtained hp
  | called hq hl h => exact .same
  | returned hl => exact .same
  | abandoned hl => exact .same
  | forsaken hl => exact .same
  | restored hr h ho => exact h.steps
  | interrupted hr => exact .released
  | closed deadline => exact .closed
  | emptied deadline => exact .closed

/-! ## Numbers -/

/-- Numbers are given out in rising order. -/
theorem Moves.nextNumber_le (h : Moves w p a q) : p.nextNumber ≤ q.nextNumber := by
  cases h with
  | queued hq hx hg hf hb => exact Nat.le_succ _
  | lent hq hp ho hi => exact Nat.le_succ _
  | returned hl => exact Nat.le_succ _
  | abandoned hl => exact Nat.le_succ _
  | restored hr h ho => cases h <;> exact Nat.le_refl _
  | _ => exact Nat.le_refl _

/-- Whoever begins to wait gets the next number. -/
theorem arrived?_eq_some {t : Nat} (h : a.arrived? w p = some t) :
    t = p.nextNumber ∧ (a.perform w p).nextNumber = t + 1 := by
  cases a with
  | checkout c =>
    have hasks := checkout_asks w p c
    rw [PoolAct.arrived?] at h
    rw [PoolAct.perform]
    generalize p.checkout w c = r at hasks h
    cases hasks with
    | blocked ho hf => cases h; exact ⟨rfl, rfl⟩
    | _ => cases h
  | _ => cases h

end Pool
end FunctionHost

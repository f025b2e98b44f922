import FunctionHost.Proofs.Guest.Context
import FunctionHost.Proofs.Pool.Owned
import FunctionHost.Proofs.Pool.Running

/-!
# Pools whose guests keep requests apart

An instance is lent without a context and comes back without one, if nobody breaks a call off and
keeps the instance (`PoolAct.LetsFinish`).  So an instance of a pool has a context just while a call is
in progress on it, which is that of the call, or it is about to be destroyed (`Holding.Clear`).

A call that somebody makes on a lease stays theirs (`Pool.Reserved`): nobody else begins one there.
-/
namespace FunctionHost

variable {σ : Type}

/-- **Whether an act leaves calls to those who make them**: a call begins and an instance is given
back while no call is in progress, and no call is broken off. -/
def PoolAct.LetsFinish (p : Pool) : PoolAct → Prop
  | .beginCall lease _ _ _ | .release lease => ∀ l ∈ p.lease? lease, l.call = none
  | .dropCall _ => False
  | _ => True

/-- Whether the instance that a restoration is about serves no request, unless it is to be
destroyed. -/
def RestorationStage.Clear (module : String) : RestorationStage → Prop
  | .pending i => i.body.name = module ∧ (i.isFaulted = false → i.guest.context = none)
  | .resetting i _ => i.Free module
  | .replacing b => b.Free module

/-- **Whether an instance has the context of its call**, and none if no call is in progress. -/
def Holding.Clear (module : String) : Holding → Prop
  | .idle i => i.Free module
  | .leased l => l.held.body.name = module ∧ l.held.guest.context = l.call.map Call.context
  | .returning r => r.stage.Clear module

theorem Instance.Free.setState {module : String} {i : Instance} (h : i.Free module)
    (state : InstanceState) : (i.setState state).Free module := by
  refine ⟨?_, ?_⟩
  · rw [Instance.body_setState]
    exact h.name
  · rw [Instance.guest_setState]
    exact h.context

/-- A call is for an entrypoint of whatever has the same code. -/
theorem Call.For.of_body {i j : Instance} {context : Context} {entrypoint : String} {c : Call}
    (h : c.For i context entrypoint) (hb : j.body = i.body) : c.For j context entrypoint :=
  ⟨h.context, hb ▸ h.func⟩

/-- **Whether a guest asks in contexts made up for that**, if any has its turn, and in each of them
once. -/
def Running.AsksAfresh (module : String) (o : Option Running) (rounds : Nat) (w : World σ) : Prop :=
  ∃ numbers : List Nat,
    (Running.asks? o rounds w).map Prod.fst = numbers.map (Context.fresh module) ∧
      numbers.Pairwise (· < ·) ∧
      ∀ n ∈ numbers, w.minted ≤ n ∧ n < (Running.after? o rounds w).minted

theorem Running.asksAfresh_none (module : String) (rounds : Nat) (w : World σ) :
    AsksAfresh module none rounds w ∧ ∀ r ∈ (none : Option Running), r.body.name = module :=
  ⟨⟨[], rfl, .nil, fun _ hn => nomatch hn⟩, fun _ hr => nomatch hr⟩

/-- **A guest without a request** asks in contexts made up for that. -/
theorem Running.asksAfresh_some {r : Running} {module : String} (hname : r.body.name = module)
    (hcontext : r.guest.context = none) (rounds : Nat) (w : World σ) :
    AsksAfresh module (some r) rounds w ∧ ∀ x ∈ some r, x.body.name = module := by
  refine ⟨?_, fun x hx => ?_⟩
  · rw [← hname]
    exact Activity.asked_fresh hcontext
  · obtain rfl := Option.some.inj hx
    exact hname

/-- **A pool whose instances have the contexts of their calls.** -/
def Pool.Clear (p : Pool) : Prop := ∀ x ∈ p.holdings, x.Clear p.name

/-! ## What acts make of instances -/

theorem Tidies.free {rounds : Nat} {w : World σ} {stage : RestorationStage} {i : Instance}
    {module : String} {s : Standing Reset Reset.Result} (h : Tidies rounds w stage i s)
    (hx : stage.Clear module) : i.Free module := by
  cases h with
  | begun hi h =>
    have hfree := Reset.begin_free (w := w) ⟨hx.1, hx.2 hi⟩
    rw [h] at hfree
    exact hfree
  | @further i _ x _ _ h =>
    have hfree := Reset.proceed_free rounds w x hx
    rw [h] at hfree
    exact hfree

theorem Bears.frees {rounds : Nat} {w : World σ} {p : Pool} {stage : RestorationStage}
    {s : Standing Birth Birth.Result} (h : Bears rounds w p stage s) (hx : stage.Clear p.name) :
    Birth.Frees p.name s := by
  cases h with
  | begun hs v => exact Birth.frees_begin v p.blueprint (p.made + 1)
  | further x => exact Birth.frees_proceed hx w

theorem Birth.frees_work? {module : String} {s : Standing Birth Birth.Result} {b : Birth}
    (h : Birth.Frees module s) (hb : s.work? = some b) : b.Free module := by
  cases s <;> cases hb <;> exact h

namespace Calls

variable {w : World σ} {p : Pool} {a : PoolAct} {module : String} {l l' : Lease}

/-- **A turn of a call** leaves the instance with the context of the call, or with none. -/
theorem clear (h : Calls w l a l') (hl : p.lease? l.number = some l) (ha : a.LetsFinish p)
    (hx : (Holding.leased l).Clear module) : (Holding.leased l').Clear module := by
  refine ⟨(congrArg Body.name h.same.body).trans hx.1, ?_⟩
  cases h with
  | @begun c e payload v i s h =>
    have hcall : l.call = none := ha l hl
    have hnone : l.held.guest.context = none := by rw [hx.2, hcall]; rfl
    have hattached := (Call.begin_attached w c e payload hnone).1
    rw [h] at hattached
    exact hattached
  | @further rounds c v i s hc h =>
    have hsome : l.held.guest.context = some c.context := by rw [hx.2, hc]; rfl
    have hattached := (Call.proceed_attached rounds w hsome).1
    rw [h] at hattached
    exact hattached
  | dropped => exact ha.elim

end Calls

namespace Pool

variable {w : World σ} {p q : Pool} {a : PoolAct}

/-- **What an act makes of an instance** that lets calls finish has the context of its call. -/
theorem Becomes.clear (hn : WellNumbered p) {x y : Holding} {n : Nat} (h : Becomes w p a x y n)
    (ha : a.LetsFinish p) (hmem : x ∈ p.holdings) (hx : x.Clear p.name) : y.Clear p.name := by
  cases h with
  | lent hs =>
    obtain ⟨hname, hcontext⟩ := Instance.Free.setState hx .leased
    exact ⟨hname, hcontext⟩
  | called hl h => exact h.clear hl ha hx
  | @returned l =>
    have hcall : l.call = none := ha l (hn.lease? (mem_holdings_leased.mp hmem))
    refine ⟨hx.1, fun _ => ?_⟩
    rw [hx.2, hcall]
    rfl
  | @abandoned l =>
    refine ⟨(congrArg Body.name (l.held.body_setState _)).trans hx.1, fun hf => ?_⟩
    rw [l.held.isFaulted_setState_faulted] at hf
    cases hf
  | tidying hr h hs => exact h.free hx
  | replacing hr h hs => exact Birth.frees_work? (h.frees hx) hs
  | kept hr h ho => exact (h.free hx).setState .idle
  | replaced hr h ho => exact h.frees hx

/-- **Acts that let calls finish keep requests apart.** -/
theorem Clear.perform (h : p.Clear) (hn : WellNumbered p) (w : World σ) {a : PoolAct}
    (ha : a.LetsFinish p) : (a.perform w p).Clear := by
  have hmoves := perform_moves w p a
  have hname : (a.perform w p).name = p.name := congrArg Blueprint.name hmoves.fixed.1
  intro y hy
  rw [hname]
  exact (hmoves.shifts hn).all h (fun x hx y n hb => hb.clear hn ha hx (h x hx)) y hy

/-! ## Who asks -/

/-- **A guest that restores** asks in contexts made up for that. -/
theorem Clear.asksAfresh (h : p.Clear) (number rounds : Nat) (w : World σ) :
    Running.AsksAfresh p.name (p.restoring? number) rounds w ∧
      ∀ r ∈ p.restoring? number, r.body.name = p.name := by
  rw [restoring?]
  cases hr : p.restoration? number with
  | none => exact Running.asksAfresh_none ..
  | some r =>
    have hclear : r.stage.Clear p.name :=
      h _ (mem_holdings_returning.mpr (mem_of_restoration? hr))
    rw [Option.bind_some]
    cases hs : r.stage with
    | pending i => exact Running.asksAfresh_none ..
    | resetting i x =>
      rw [hs] at hclear
      exact Running.asksAfresh_some hclear.name hclear.context rounds w
    | replacing b =>
      rw [hs] at hclear
      exact Running.asksAfresh_some hclear.name hclear.context rounds w

/-! ## Leases and their calls -/

/-- **A lease on which no calls are made but for an entrypoint in some context.** -/
def Reserved (p : Pool) (lease : Nat) (context : Context) (entrypoint : String) : Prop :=
  ∀ l ∈ p.leases, l.number = lease → ∀ c ∈ l.call, c.For l.held context entrypoint

variable {lease : Nat} {context : Context} {entrypoint : String}

theorem Reserved.of_leases (h : p.Reserved lease context entrypoint)
    (hl : ∀ l ∈ q.leases, l ∈ p.leases ∨ l.call = none) : q.Reserved lease context entrypoint := by
  intro l hmem hnumber c hc
  rcases hl l hmem with hold | hnone
  · exact h l hold hnumber c hc
  · rw [hnone] at hc
    cases hc

/-- A lease of a pool in which one has changed is that one or has another number. -/
theorem eq_or_mem_of_setLease {l x : Lease} (hx : x ∈ (p.setLease l).leases) :
    x = l ∨ x ∈ p.leases ∧ x.number ≠ l.number := by
  obtain ⟨y, hy, rfl⟩ := List.mem_map.mp hx
  split
  · exact .inl rfl
  · rename_i hne
    exact .inr ⟨hy, hne⟩

theorem Reserved.setLease (h : p.Reserved lease context entrypoint) {l : Lease}
    (hl : l.number = lease → ∀ c ∈ l.call, c.For l.held context entrypoint) :
    (p.setLease l).Reserved lease context entrypoint := by
  intro x hx hnumber c hc
  rcases eq_or_mem_of_setLease hx with rfl | ⟨hx, -⟩
  · exact hl hnumber c hc
  · exact h x hx hnumber c hc

theorem Restores.leases {rounds : Nat} {r : Restoration} {o : Option Restored}
    (h : Restores rounds w p r q o) : q.leases = p.leases := by
  cases h <;> rfl

/-- **A lease stays reserved** unless a call begins there. -/
theorem Reserved.perform (h : p.Reserved lease context entrypoint) (hclear : p.Clear) (w : World σ)
    {a : PoolAct} (ha : ∀ c e payload, a ≠ .beginCall lease c e payload) :
    (a.perform w p).Reserved lease context entrypoint := by
  have hmoves := perform_moves w p a
  generalize a.perform w p = q at hmoves
  -- For acts that only take leases away.
  have hless {number : Nat} (hl : ∀ x ∈ q.leases, x ∈ (p.removeLease number).leases) :
      q.Reserved lease context entrypoint :=
    h.of_leases fun x hx => .inl (List.mem_filter.mp (hl x hx)).1
  cases hmoves with
  | still hq => exact h
  | queued hq hx hg => exact h
  | unqueued hq hx => exact h
  | starved hq hp hi => exact h
  | lent hq hp ho hi =>
    refine h.of_leases fun x hx => (List.mem_append.mp hx).imp_right fun hnew => ?_
    rw [List.mem_singleton.mp hnew]
  | @called _ hq l l' hl hc =>
    have hmem := mem_of_lease? hl
    have hbody := hc.same.body
    refine h.setLease fun hnumber => ?_
    cases hc with
    | begun hbegin => exact absurd (congrArg (PoolAct.beginCall · _ _ _) hnumber) (ha _ _ _)
    | @further rounds c v i s hcall hproceed =>
      -- A call that goes on keeps its context and its entrypoint.
      have hcontext : l.held.guest.context = some c.context := by
        rw [(hclear _ (mem_holdings_leased.mpr hmem)).2, hcall]
        rfl
      have hgoesOn := (Call.proceed_attached rounds w hcontext).2
      rw [hproceed] at hgoesOn
      intro c' hc'
      obtain ⟨hsame, hfunc⟩ := hgoesOn c' hc'
      obtain ⟨hc, hentry⟩ := h l hmem hnumber c hcall
      exact ⟨hsame.trans hc, hfunc ▸ hbody ▸ hentry⟩
    | dropped => exact fun _ hc => nomatch hc
  | returned hl => exact hless fun _ hx => hx
  | abandoned hl => exact hless fun _ hx => hx
  | forsaken hl => exact hless fun _ hx => hx
  | restored hr hR ho => exact h.of_leases fun x hx => .inl (hR.leases ▸ hx)
  | interrupted hr => exact h
  | closed deadline => exact h
  | emptied deadline => exact h

/-- **A call that begins reserves its lease.** -/
theorem reserved_beginCall (hn : p.WellNumbered) (hclear : p.Clear) (w : World σ) (lease : Nat)
    (context : Context) (entrypoint : String) (payload : Bytes)
    (hidle : ∀ l ∈ p.lease? lease, l.call = none) :
    (p.beginCall w lease context entrypoint payload).2.1.Reserved lease context entrypoint := by
  unfold beginCall
  cases hl : p.lease? lease with
  | none =>
    intro l hmem hnumber c hc
    have hfound := hn.lease? hmem
    rw [hnumber] at hfound
    cases hl.symm.trans hfound
  | some l =>
    obtain rfl := lease?_number hl
    have hnone : l.held.guest.context = none := by
      rw [(hclear _ (mem_holdings_leased.mpr (mem_of_lease? hl))).2, hidle l hl]
      rfl
    have hbegun := (Call.begin_attached w context entrypoint payload hnone).2
    have hsame := Call.begin_same w l.held context entrypoint payload
    simp only [afterCall_turn]
    intro x hx hnumber c hc
    rcases eq_or_mem_of_setLease hx with rfl | ⟨-, hne⟩
    · exact (hbegun c hc).of_body hsame.body
    · exact absurd hnumber hne

/-- **A guest that is called** asks in the context for which its lease is reserved. -/
theorem Reserved.asks (h : p.Reserved lease context entrypoint) (hclear : p.Clear) (rounds : Nat)
    (w : World σ) :
    (∀ q ∈ Running.asks? (p.calling? lease) rounds w, q.1 = context) ∧
      ∀ r ∈ p.calling? lease, r.body.name = p.name := by
  rw [calling?]
  cases hl : p.lease? lease with
  | none => exact ⟨(fun _ hq => nomatch hq), fun _ hx => nomatch hx⟩
  | some l =>
    have hmem := mem_of_lease? hl
    obtain ⟨hname, hcontext⟩ := hclear _ (mem_holdings_leased.mpr hmem)
    rw [Option.bind_some]
    cases hc : l.call with
    | none => exact ⟨(fun _ hq => nomatch hq), fun _ hx => nomatch hx⟩
    | some c =>
      rw [hc] at hcontext
      have hfor := h l hmem (lease?_number hl) c hc
      refine ⟨fun q hq => ?_, fun y hy => ?_⟩
      · rw [← hfor.context]
        exact Activity.asked_of_context hcontext q hq
      · obtain rfl := Option.some.inj hy
        exact hname

/-! ## Calls that are over -/

/-- **A turn that ends a call** leaves none in progress. -/
theorem call_afterCall {l x : Lease} {i : Instance} {s : Standing Call Call.Result}
    {r : Call.Result} (h : (p.afterCall l i s).2 = .ended r)
    (hx : (p.afterCall l i s).1.lease? l.number = some x) : x.call = none := by
  rw [afterCall_turn] at h hx
  rcases eq_or_mem_of_setLease (mem_of_lease? hx) with rfl | ⟨-, hne⟩
  · cases s with
    | busy c | blocked c => cases h
    | ended r' => rfl
  · exact absurd (lease?_number hx) hne

theorem call_beginCall {payload : Bytes} {r : Call.Result}
    (h : (p.beginCall w lease context entrypoint payload).2.2 = .ended r) :
    ∀ l ∈ (p.beginCall w lease context entrypoint payload).2.1.lease? lease, l.call = none := by
  unfold beginCall at h ⊢
  cases hl : p.lease? lease with
  | none => exact fun l hmem => nomatch hl.symm.trans hmem
  | some l =>
    simp only [hl] at h ⊢
    obtain rfl := lease?_number hl
    exact fun x hx => call_afterCall h hx

theorem call_proceedCall {rounds : Nat} {r : Call.Result}
    (h : (p.proceedCall rounds w lease).2.2 = .ended r) :
    ∀ l ∈ (p.proceedCall rounds w lease).2.1.lease? lease, l.call = none := by
  unfold proceedCall at h ⊢
  cases hl : p.lease? lease with
  | none => exact fun l hmem => nomatch hl.symm.trans hmem
  | some l =>
    simp only [hl] at h ⊢
    cases hc : l.call with
    | none =>
      intro x hx
      obtain rfl := Option.some.inj (hl.symm.trans hx)
      exact hc
    | some c =>
      simp only [hc] at h ⊢
      obtain rfl := lease?_number hl
      exact fun x hx => call_afterCall h hx

/-- No call is in progress on what has just been lent. -/
theorem call_lend (hn : ∀ l ∈ p.leases, l.number < p.nextNumber)
    (h : (lend w p).2.2 = .ok lease) : ∀ l ∈ (lend w p).2.1.lease? lease, l.call = none := by
  unfold lend at h ⊢
  split at h
  · cases h
  · rename_i hopen
    rw [if_neg hopen]
    split at h
    · cases h
    · cases h
      intro l hl
      have hnumber := lease?_number hl
      rcases List.mem_append.mp (mem_of_lease? hl) with hold | hnew
      · exact absurd hnumber (Nat.ne_of_lt (hn l hold))
      · rw [List.mem_singleton.mp hnew]

theorem WellNumbered.lease_lt (hn : p.WellNumbered) : ∀ l ∈ p.leases, l.number < p.nextNumber :=
  fun _ hl => hn.leases.2 _ (List.mem_map_of_mem hl)

theorem call_checkout {c : Context} (hn : p.WellNumbered)
    (h : (p.checkout w c).2.2 = .ended (.ok lease)) :
    ∀ l ∈ (p.checkout w c).2.1.lease? lease, l.call = none := by
  have hasks := checkout_asks w p c
  generalize p.checkout w c = turn at hasks h
  cases hasks with
  | refused hc => cases h
  | interrupted ho hi => cases h
  | @obtained ps ho hq =>
    exact call_lend (p := { p with permits := ps }) hn.lease_lt (Standing.ended.inj h)
  | blocked ho hf => cases h

theorem call_pollCheckout {ticket : Nat} (hn : p.WellNumbered)
    (h : (p.pollCheckout w ticket).2.2 = .ended (.ok lease)) :
    ∀ l ∈ (p.pollCheckout w ticket).2.1.lease? lease, l.call = none := by
  have hlooks := pollCheckout_looks w p ticket
  generalize p.pollCheckout w ticket = turn at hlooks h
  cases hlooks with
  | gone hx => cases h
  | refused hx hc => cases h
  | obtained hx ho hg =>
    exact call_lend (p := { p with permits := p.permits.remove ticket }) hn.lease_lt
      (Standing.ended.inj h)
  | interrupted hx ho hg hi => cases h
  | blocked hx ho hg hi => cases h

/-! ## Draining -/

/-- **What draining leaves of a pool**: idle instances go, and nothing else. -/
structure Drained (p q : Pool) : Prop where
  blueprint : q.blueprint = p.blueprint
  leases : q.leases = p.leases
  restorations : q.restorations = p.restorations
  idle : ∀ i ∈ q.idle, i ∈ p.idle

theorem Drained.refl (p : Pool) : Drained p p := ⟨rfl, rfl, rfl, fun _ hi => hi⟩

theorem Drained.trans {r : Pool} (h : Drained p q) (h' : Drained q r) : Drained p r :=
  ⟨h'.blueprint.trans h.blueprint, h'.leases.trans h.leases,
    h'.restorations.trans h.restorations, fun i hi => h.idle i (h'.idle i hi)⟩

theorem drained_close (p : Pool) : Drained p p.close := ⟨rfl, rfl, rfl, fun _ hi => hi⟩

theorem drained_pollDrain (w : World σ) (p : Pool) (deadline : Option Nat) :
    Drained p (p.pollDrain w deadline).2.1 := by
  unfold pollDrain
  split
  · exact ⟨rfl, rfl, rfl, fun _ hi => nomatch hi⟩
  · exact .refl p

theorem Clear.drained (h : p.Clear) (hd : Drained p q) : q.Clear := by
  intro x hx
  have hname : q.name = p.name := congrArg Blueprint.name hd.blueprint
  rw [hname]
  cases x with
  | idle i => exact h _ (mem_holdings_idle.mpr (hd.idle i (mem_holdings_idle.mp hx)))
  | leased l => exact h _ (mem_holdings_leased.mpr (hd.leases ▸ mem_holdings_leased.mp hx))
  | returning r =>
    exact h _ (mem_holdings_returning.mpr (hd.restorations ▸ mem_holdings_returning.mp hx))

/-! ## Turns -/

/-- **What becomes of a pool in a turn of somebody** who begins calls under new numbers only: it keeps
requests apart, and leases that were given out before stay reserved. -/
structure Keeps (base : Nat) (p q : Pool) : Prop where
  clear : q.Clear
  name : q.name = p.name
  reserved : ∀ lease < base, ∀ context entrypoint,
    p.Reserved lease context entrypoint → q.Reserved lease context entrypoint

namespace Keeps

variable {base : Nat}

theorem refl (base : Nat) (h : p.Clear) : Keeps base p p := ⟨h, rfl, fun _ _ _ _ hr => hr⟩

theorem perform (h : Keeps base p q) (hn : q.WellNumbered) (w : World σ) {a : PoolAct}
    (ha : a.LetsFinish q)
    (hbegin : ∀ lease c e payload, a = .beginCall lease c e payload → base ≤ lease) :
    Keeps base p (a.perform w q) := by
  have hmoves := perform_moves w q a
  refine ⟨h.clear.perform hn w ha, (congrArg Blueprint.name hmoves.fixed.1).trans h.name, ?_⟩
  intro lease hlt context entrypoint hr
  refine (h.reserved lease hlt context entrypoint hr).perform h.clear w ?_
  rintro c e payload rfl
  exact Nat.not_lt_of_le (hbegin lease c e payload rfl) hlt

theorem drained (h : Keeps base p q) {r : Pool} (hd : Drained q r) : Keeps base p r := by
  refine ⟨h.clear.drained hd, (congrArg Blueprint.name hd.blueprint).trans h.name, ?_⟩
  intro lease hlt context entrypoint hr
  exact (h.reserved lease hlt context entrypoint hr).of_leases fun l hl => .inl (hd.leases ▸ hl)

end Keeps

end Pool
end FunctionHost

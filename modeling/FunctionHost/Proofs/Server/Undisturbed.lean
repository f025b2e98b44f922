import FunctionHost.Proofs.Server.Provision

/-!
# Requests that nothing disturbs

A request for a module that a server provides, while nothing else goes on, gets an instance at once:
the pool has all its instances and permits, and the request has no deadline of its own.  From then
on it has its instance until the answer, and nobody touches another pool (`Server.Undisturbed`).
-/
namespace FunctionHost

variable {σ : Type}

/-- A wait that begins in a context without a deadline or a token is not over at once. -/
theorem Pool.interruption_bounded_of_free {p : Pool} {c : Context} (hdeadline : c.deadline = none)
    (htoken : c.token = none) (htimeout : p.checkoutTimeout ≠ some 0) (clock : Clock) :
    (p.bounded clock c).interruption clock = none := by
  have hopen : c.interruption clock = none := by
    simp [Context.interruption, Context.isCancelled, Context.isExpired, hdeadline, htoken]
  rw [Pool.bounded, hdeadline]
  cases ht : p.checkoutTimeout with
  | none => exact hopen
  | some ms =>
    have hms : 0 < ms :=
      Nat.pos_of_ne_zero fun hzero => htimeout (ht.trans (congrArg some hzero))
    by_cases hlast : clock.now + ms ≤ Clock.lastInstant
    · simp [Context.withTimeout, Context.interruption, Context.isCancelled, Context.isExpired,
        htoken, hlast]
      omega
    · simp [Context.withTimeout, Context.interruption, Context.isCancelled, Context.isExpired,
        htoken, hlast]

theorem PoolSettings.checkoutTimeout_ne_zero (s : PoolSettings) : s.checkoutTimeout ≠ some 0 := by
  rw [checkoutTimeout]
  split
  · simp
  · rename_i hne
    simpa [← UInt64.toNat_inj] using hne

namespace Server

variable {s s₀ : Server σ} {q : Request} {served : Served} {st : Standing ServerWork ServerReply}

/-- Work for a request that has its instance is about the pool of that. -/
theorem act?_of_engaged {n : Nat} {ws : List (World σ)} {y : ServerWork}
    (h : q.Engaged n s ws st) (hy : st.work? = some y) :
    y.At n ∧ ∃ a, y.act? = some (n, a) := by
  cases h with
  | calling hst hl hown hcall hon =>
    obtain rfl := Option.some.inj (hst.symm.trans hy)
    exact ⟨rfl, _, rfl⟩
  | restoring hst hown hcomes =>
    obtain rfl := Option.some.inj (hst.symm.trans hy)
    exact ⟨rfl, _, rfl⟩
  | answered hown hgone => cases hy

/-- **A request that has an instance** of a server that was in some state and does nothing else:
its first turn was in the world of that state, and nobody touches another pool. -/
structure Undisturbed (s₀ : Server σ) (q : Request) (served : Served) (s : Server σ)
    (st : Standing ServerWork ServerReply) : Prop where
  alone : Alone s₀.world.engine s st
  keeps : Traffic.Keeps ⟨s, st.work?.toList⟩ q.name served
  engaged : ∃ ws, q.Engaged served.pool s (s₀.world :: ws) st
  blueprint : (s.pool served.pool).blueprint = (s₀.pool served.pool).blueprint
  others : ∀ n, n ≠ served.pool → s.pool n = s₀.pool n

/-- **A turn of such a request.** -/
theorem Undisturbed.proceed (h : Undisturbed s₀ q served s st) {y : ServerWork}
    (hy : st.work? = some y) : Undisturbed s₀ q served (s.proceed y).1 (s.proceed y).2 := by
  obtain ⟨ws, hengaged⟩ := h.engaged
  obtain ⟨hat, a, ha⟩ := act?_of_engaged hengaged hy
  have hthere : served.pool < s.pools.size := h.keeps.there
  have hnumbered := (h.alone.whole.lawful.proper.kindred served.pool).numbered
  have hfollows := follows_proceed ha hthere hnumbered
  have hacts : Acts (some y) (fun _ => False) s (s.proceed y).1 := acts_proceed hat hthere
  have hgoes := Traffic.goes_step h.alone.whole.lawful (.act (.proceed 0))
  rw [step_proceed_alone hy] at hgoes
  exact {
    alone := h.alone.proceed hy
    keeps := hgoes.keeps h.keeps rfl
    engaged := ⟨_, engaged_proceed (h.keeps.serves h.alone.whole) hengaged hy⟩
    blueprint := (hacts.fixed _).1.trans h.blueprint
    others := fun n hn => by
      rw [hfollows.pool_ne hn, act, pool_after_ne hn, h.others n hn] }

/-- **A pool that is full** lends an instance to whoever asks first and may wait. -/
theorem obtained_of_filled {b : Blueprint} {size : Nat} {timeout : Option Nat} {p : Pool}
    {c : Context} (hp : Filled σ b size timeout p) {w : World σ}
    (hopen : (p.bounded w.clock c).interruption w.clock = none) :
    ∃ ps, p.permits.take? = some ps ∧ ps.closed = false ∧ p.idle ≠ [] ∧ p.checkout w c =
      ((Pool.lend w { p with permits := ps }).1, (Pool.lend w { p with permits := ps }).2.1,
        .ended (Pool.lend w { p with permits := ps }).2.2) := by
  obtain ⟨made, i, rfl, rfl⟩ := hp.eq
  refine ⟨{ free := made.length }, rfl, rfl, nofun, ?_⟩
  have hasks := Pool.checkout_asks w
    { blueprint := b, size := made.length + 1, checkoutTimeout := timeout, made := made.length + 1
      idle := i :: made, permits := { free := made.length + 1 }, capacity := made.length + 1 } c
  generalize Pool.checkout w _ c = turn at hasks ⊢
  cases hasks with
  | refused hc => cases hc
  | interrupted ho hi => cases hopen.symm.trans hi
  | obtained ho hps =>
    cases hps
    rfl
  | blocked ho hf => cases hf

/-- **A request that begins** when the pool of its module is full gets an instance at once. -/
theorem undisturbed_begin {plan : LoadPlan} {c : Compiled} {n : Nat} (h : Traffic.Whole ⟨s, []⟩)
    (hp : s.Provides plan c n) (hname : q.name = plan.name) (hdeadline : q.context.deadline = none)
    (htoken : q.context.token = none) :
    Undisturbed s q ⟨c.contentHash, n⟩ (s.begin q.context q.command).1
      (s.begin q.context q.command).2 := by
  have hget : s.registry.get q.name = .ok ⟨c.contentHash, n⟩ := hname ▸ hp.named
  obtain ⟨hserving, hlisted⟩ := Registry.mem_of_get hget
  have ho : s.closed = false := h.lawful.proper.flags.symm.trans hserving
  have hkeeps : Traffic.Keeps ⟨s, []⟩ q.name ⟨c.contentHash, n⟩ := ⟨hp.there, .inr hlisted⟩
  have hkindred := h.lawful.proper.kindred n
  have htimeout : (s.pool n).checkoutTimeout ≠ some 0 := by
    obtain ⟨made, i, -, hpool⟩ := hp.filled.eq
    rw [hpool]
    exact s.settings.pool.checkoutTimeout_ne_zero
  -- A pool that was filled and not used yet has a permit and an idle instance.
  obtain ⟨ps, hps, hclosed, hidle, hcheckout⟩ := obtained_of_filled hp.filled
    (Pool.interruption_bounded_of_free (c := q.served) hdeadline htoken htimeout s.world.clock)
  have hgoes := Traffic.goes_step h.lawful (.act (.begin q.context q.command))
  rw [step_begin_alone] at hgoes
  have hbegin := begin_request ho hget
  have hfollows : Follows n (s.pool n).nextNumber (some (q.served, q.entrypoint, q.payload))
      (s.act n (.checkout q.served)) (s.begin q.context q.command).1 := by
    rw [hbegin]
    exact follows_checkout hp.there hkindred.numbered
  have hacts : Acts none (fun _ => False) s (s.begin q.context q.command).1 :=
    acts_execute h.lawful.proper q.name q.entrypoint q.payload q.context
  have hmoves : Pool.Moves s.world (s.pool n) (.checkout q.served) _ :=
    Pool.perform_moves s.world (s.pool n) (.checkout q.served)
  rw [PoolAct.perform, hcheckout] at hmoves
  exact {
    alone := alone_begin h q.context q.command
    keeps := hgoes.keeps hkeeps rfl
    engaged := by
      refine ⟨[], ?_⟩
      rw [hbegin, hcheckout]
      exact engaged_obtained [] hp.there hkindred hclosed hidle hmoves
    blueprint := (hacts.fixed n).1
    others := fun m hm => by rw [hfollows.pool_ne hm, act, pool_after_ne hm] }

/-- Time passes while a request has its instance. -/
theorem engaged_withWorld {n : Nat} {ws : List (World σ)} (h : q.Engaged n s ws st) (w : World σ) :
    q.Engaged n { s with world := w } ws st := by
  cases h with
  | calling hst hl hown hcall hon => exact .calling hst hl hown hcall hon
  | restoring hst hown hcomes => exact .restoring hst hown hcomes
  | answered hown hgone => exact .answered hown hgone

/-- **A request that nothing disturbs** has its instance until the answer. -/
theorem persists_undisturbed (s₀ : Server σ) (q : Request) (served : Served) :
    Persists (Undisturbed s₀ q served) where
  left _ _ h := h.alone.whole.nothing
  proceed _ _ _ h hy := h.proceed hy
  elapse _ _ w he hslots h := {
    alone := h.alone.withWorld he hslots
    keeps := ⟨h.keeps.there, h.keeps.listed⟩
    engaged := h.engaged.imp fun _ hengaged => engaged_withWorld hengaged w
    blueprint := h.blueprint
    others := h.others }

end Server
end FunctionHost

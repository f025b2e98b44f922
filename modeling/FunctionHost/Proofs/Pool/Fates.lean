import FunctionHost.Proofs.Pool.Faults
import FunctionHost.Proofs.Pool.Lives

/-!
# How instances end

A faulted instance serves no more: a call on it is refused where it stands, and so is a reset.  It
stays leased or coming back until it is **destroyed** (`Destroys`), and that happens once: it is
counted then, it never comes back, and one attempt is made to replace it unless the pool is closed
or its holder left nobody to restore it.

Which instances a turn of a restoration destroys depends on what tidying up makes of them
(`Situation.after`): those of which nothing is left, and in a closed pool those that are well, too.
All others keep all counts as they are.  A replacement that is ready only when the pool is closed is
destroyed itself, under its own number.
-/
namespace FunctionHost

variable {σ : Type}

/-! ## Calls and faults -/

/-- An instance that has no fault after it was put in a state is in that state. -/
theorem Instance.state_setState {i : Instance} {s : InstanceState}
    (h : (i.setState s).isFaulted = false) : (i.setState s).state = s := by
  unfold setState at h ⊢
  split
  · rename_i hi
    rw [if_pos hi, hi] at h
    cases h
  · rfl

namespace Call

/-- **A call that is not over has made no fault.** -/
theorem begin_faultless {w v : World σ} {i j : Instance} {c : Context} {entrypoint : String}
    {payload : Bytes} {s : Standing Call Result} {x : Call}
    (h : begin w i c entrypoint payload = (v, j, s)) (hx : s.work? = some x) :
    j.isFaulted = false := by
  have hturn := begins w i c entrypoint payload
  generalize begin w i c entrypoint payload = turn at h hturn
  cases hturn with
  | refused | missing | hindered =>
    cases h
    cases hx
  | entered hfit | allocating hfit =>
    cases h
    exact hfit

theorem proceed_isFaulted {rounds : Nat} {w v : World σ} {i j : Instance} {c x : Call}
    {s : Standing Call Result} (h : proceed rounds w i c = (v, j, s)) (hx : s.work? = some x) :
    j.isFaulted = i.isFaulted := by
  have hturn := proceeds rounds w i c
  generalize proceed rounds w i c = turn at h hturn
  generalize Activity.proceed i.body rounds w i.guest c.activity = run at hturn
  cases hturn with
  | busy | waiting | entered =>
    cases h
    rfl
  | concluded =>
    cases h
    cases hx

end Call

/-- Whether no call is in progress on an instance with a fault. -/
def Holding.Resting : Holding → Prop
  | .leased l => l.held.isFaulted = true → l.call = none
  | _ => True

/-- **Whether an act lets returns run to completion.** -/
def PoolAct.Completes : PoolAct → Prop
  | .dropRestoration _ => False
  | _ => True

/-- What never lasts: a call on an instance with a fault. -/
theorem Calls.resting {w : World σ} {l l' : Lease} {a : PoolAct} (h : Calls w l a l')
    (hl : (Holding.leased l).Resting) : (Holding.leased l').Resting := by
  intro hf
  cases h with
  | @begun c e payload v i s h =>
    refine Option.eq_none_iff_forall_ne_some.mpr fun x hx => ?_
    exact Bool.eq_false_iff.mp (Call.begin_faultless h hx) hf
  | @further rounds c v i s hc h =>
    refine Option.eq_none_iff_forall_ne_some.mpr fun x hx => ?_
    have hheld : l.held.isFaulted = true := (Call.proceed_isFaulted h hx).symm.trans hf
    exact nomatch hc.symm.trans (hl hheld)
  | dropped => rfl

namespace Pool

variable {w : World σ} {p q : Pool} {a : PoolAct}

theorem Becomes.resting {x y : Holding} {n : Nat} (h : Becomes w p a x y n) (hx : x.Resting) :
    y.Resting := by
  cases h with
  | lent ha => exact fun _ => rfl
  | called hl h => exact h.resting hx
  | _ => trivial

/-- **What holds of all instances of a pool**: each is known by its number and fit for where it is,
and no call is in progress on one with a fault. -/
structure Sound (p : Pool) : Prop where
  kindred : Kindred p
  fit : ∀ x ∈ p.holdings, x.Fit
  resting : ∀ x ∈ p.holdings, x.Resting

theorem Sound.perform (h : Sound p) (w : World σ) (a : PoolAct) : Sound (a.perform w p) := by
  have hm := perform_moves w p a
  have hshifts := hm.shifts h.kindred.numbered
  exact ⟨h.kindred.moves hm, fit_moves h.kindred.numbered h.fit hm,
    hshifts.all h.resting fun x hx _ _ hb => hb.resting (h.resting x hx)⟩

theorem Sound.run (h : Sound p) (ms : List (Moment σ)) : Sound (p.run ms) :=
  run_induction h (fun _ m hq => hq.perform m.world m.act) ms

theorem sound_of_filled {b : Blueprint} {size : Nat} {timeout : Option Nat}
    (hp : Filled σ b size timeout p) : Sound p := by
  refine ⟨kindred_of_filled hp, fit_of_filled hp, fun x hx => ?_⟩
  obtain ⟨i, -, rfl⟩ := eq_idle_of_filled hp hx
  trivial

/-! ## Faulted instances -/

theorem WellNumbered.lease? (hn : WellNumbered p) {l : Lease} (hl : l ∈ p.leases) :
    p.lease? l.number = some l :=
  Numbered.find?_of_mem hn.leases.1 hl

theorem WellNumbered.restoration? (hn : WellNumbered p) {r : Restoration}
    (hr : r ∈ p.restorations) : p.restoration? r.number = some r :=
  Numbered.find?_of_mem hn.restorations.1 hr

/-- **No call begins on a faulted instance**: nothing changes, neither the pool nor the world. -/
theorem Sound.beginCall_faulted (h : Sound p) (w : World σ) {l : Lease} (hl : l ∈ p.leases)
    (hf : l.held.isFaulted = true) (c : Context) (entrypoint : String) (payload : Bytes) :
    p.beginCall w l.number c entrypoint payload =
      (w, p, .ended (.error Instance.faultedError)) := by
  have hcall : l.call = none := h.resting _ (mem_holdings_leased.mpr hl) hf
  have hself : p.setLease { l with held := l.held, call := none } = p := by
    rw [← hcall, setLease, Numbered.map_set_self h.kindred.numbered.leases.1 hl]
  simp only [beginCall, h.kindred.numbered.lease? hl, Call.begin_faulted w hf, afterCall, hself]

/-- **No call goes on** on a faulted instance, either. -/
theorem Sound.proceedCall_faulted (h : Sound p) (rounds : Nat) (w : World σ) {l : Lease}
    (hl : l ∈ p.leases) (hf : l.held.isFaulted = true) :
    p.proceedCall rounds w l.number = (w, p, .ended (.error releasedError)) := by
  have hcall : l.call = none := h.resting _ (mem_holdings_leased.mpr hl) hf
  simp only [proceedCall, h.kindred.numbered.lease? hl, hcall]

/-- **A fault stays**, whatever is done to whom. -/
theorem Sound.isFaulted_run (h : Sound p) (ms : List (Moment σ)) {x y : Holding}
    (hx : x ∈ p.holdings) (hf : x.isFaulted = true) (hy : y ∈ (p.run ms).holdings)
    (hid : y.id = x.id) : y.isFaulted = true := by
  have hall : Kindred (p.run ms) ∧ x.id ≤ (p.run ms).made ∧
      ∀ y ∈ (p.run ms).holdings, y.id = x.id → y.isFaulted = true := by
    refine run_induction
      (I := fun q => Kindred q ∧ x.id ≤ q.made ∧ ∀ y ∈ q.holdings, y.id = x.id → y.isFaulted = true)
      ⟨h.kindred, h.kindred.id_le hx, fun y hy hid => h.kindred.eq_of_id hx hy hid ▸ hf⟩
      (fun q m ⟨hk, hle, hfaulted⟩ => ?_) ms
    have hm := perform_moves m.world q m.act
    have hshifts := hm.shifts hk.numbered
    refine ⟨hk.moves hm, Nat.le_trans hle hshifts.made_le,
      hshifts.all hfaulted fun z hz y n hb hid => ?_⟩
    rcases (hb.of (hk.bodies z hz)).2 with ⟨hn, hyz⟩ | ⟨-, hnew⟩
    · exact hb.isFaulted hn (hfaulted z hz (hyz.symm.trans hid))
    -- What is begun has a number that no instance had before.
    · omega
  exact hall.2.2 y hy hid

/-- A faulted instance is leased or comes back. -/
theorem Sound.not_idle (h : Sound p) {x : Holding} (hx : x ∈ p.holdings)
    (hf : x.isFaulted = true) (i : Instance) : x ≠ .idle i := by
  rintro rfl
  exact Bool.eq_false_iff.mp (h.fit _ hx) hf

/-! ## Destroying -/

/-- Whether two pools have the same counts of instances that were destroyed, that were put in the
place of others, and that were numbered. -/
structure Uncounted (p q : Pool) : Prop where
  destroyed : q.destroyed = p.destroyed
  replaced : q.replaced = p.replaced
  made : q.made = p.made

/-- **An instance with a number is destroyed** at a moment: it is counted, another one is begun if
the pool is open and somebody is left to do so, and it never comes back. -/
structure Destroys (p : Pool) (m : Moment σ) (n : Nat) : Prop where
  present : ∃ x ∈ p.holdings, x.id = n
  counted : (m.act.perform m.world p).destroyed = p.destroyed + 1
  attempts : (m.act.perform m.world p).made =
    p.made + (!p.closed && !m.act.forsakes p).toNat
  gone : ∀ ms : List (Moment σ), ∀ x ∈ ((m.act.perform m.world p).run ms).holdings, x.id ≠ n

/-- What is gone once is gone for good. -/
theorem Kindred.destroys (hk : Kindred p) {m : Moment σ} {x : Holding} (hx : x ∈ p.holdings)
    (hcounted : (m.act.perform m.world p).destroyed = p.destroyed + 1)
    (hattempts : (m.act.perform m.world p).made =
      p.made + (!p.closed && !m.act.forsakes p).toNat)
    (hgone : ∀ y ∈ (m.act.perform m.world p).holdings, y.id ≠ x.id) : Destroys p m x.id := by
  have hm := perform_moves m.world p m.act
  have hle : x.id ≤ (m.act.perform m.world p).made :=
    Nat.le_trans (hk.id_le hx) (hm.shifts hk.numbered).made_le
  exact ⟨⟨x, hx, rfl⟩, hcounted, hattempts, (hk.moves hm).gone_run hle hgone⟩

/-- An instance that is given up for good is destroyed. -/
theorem Kindred.destroys_forsaken (hk : Kindred p) (w : World σ) {l : Lease} (hl : l ∈ p.leases) :
    Destroys p ⟨w, .abandonForGood l.number⟩ l.held.id := by
  have hfound := hk.numbered.lease? hl
  have hp := holdings_leased (leases_perm hk.numbered hfound)
  refine hk.destroys (mem_holdings_leased.mpr hl) ?_ ?_ fun y hy => ?_
  · simp only [PoolAct.perform, abandonForGood, hfound]
    rfl
  · simp only [PoolAct.perform, abandonForGood, PoolAct.forsakes, hfound]
    simp [shrink, finishReturn, removeLease]
  · simp only [PoolAct.perform, abandonForGood, hfound] at hy
    exact hk.id_ne_head hp hy

variable {rounds : Nat} {v : World σ} {r : Restoration}

/-- What follows a step of making a replacement counts none that was destroyed, in an open pool. -/
theorem afterBirth_counts (ho : p.closed = false) (s : Standing Birth Birth.Result) :
    (afterBirth v p r s).2.1.destroyed = p.destroyed ∧ (afterBirth v p r s).2.1.made = p.made := by
  match s with
  | .busy b | .blocked b => exact ⟨rfl, rfl⟩
  | .ended (.error e) => exact ⟨rfl, rfl⟩
  | .ended (.ok i) => rw [afterBirth, ho]; exact ⟨rfl, rfl⟩

theorem replace_counts (v : World σ) (p : Pool) (r : Restoration) :
    (replace v p r).2.1.destroyed = p.destroyed + 1 ∧
      (replace v p r).2.1.made = p.made + (!p.closed).toNat := by
  unfold replace
  dsimp only
  split
  · rename_i hc
    have hc : p.closed = true := hc
    rw [hc]
    exact ⟨rfl, rfl⟩
  · rename_i ho
    have ho : p.closed = false := Bool.eq_false_iff.mpr ho
    rw [ho]
    exact afterBirth_counts (p := { p with destroyed := p.destroyed + 1, made := p.made + 1 }) ho _

/-- **A turn that counts the instance as destroyed leaves none with its number.** -/
theorem Restores.gone (hk : Kindred p) {o : Option Restored} (hr : r ∈ p.restorations)
    (h : Restores rounds w p r q o) (hd : q.destroyed = p.destroyed + 1) :
    ∀ y ∈ q.holdings, y.id ≠ r.stage.id := by
  have hfound := hk.numbered.restoration? hr
  have hp := holdings_returning (restorations_perm hk.numbered hfound)
  have hrest (y : Holding) (hy : y ∈ p.idle.map .idle ++ p.leases.map .leased ++
      (p.removeRestoration r.number).restorations.map .returning) : y.id ≠ r.stage.id :=
    hk.id_ne_head hp hy
  have hle : r.stage.id ≤ p.made := hk.id_le (mem_holdings_returning.mpr hr)
  -- What is begun instead has the next number.
  have hbirth {s : Standing Birth Birth.Result} (h : Bears rounds w p r.stage s)
      (hd : p.destroyed + r.stage.holds.toNat = p.destroyed + 1) :
      Birth.Of p.blueprint (p.made + 1) s := by
    have hs : r.stage.holds = true := Bool.toNat_eq_one.mp (Nat.add_left_cancel hd)
    have hof := h.of (hk.bodies _ (mem_holdings_returning.mpr hr))
    rwa [hs, if_pos rfl] at hof
  intro y hy
  cases h with
  | tidying h hx => exact absurd hd (Nat.succ_ne_self _).symm
  | kept h ho => exact absurd hd (Nat.succ_ne_self _).symm
  | discarded hc => exact hrest y hy
  | @replacing s x h hx =>
    have hq := holdings_returning (setRestoration_perm (p := p) hk.numbered hfound (.replacing x))
    rcases List.mem_cons.mp (hq.mem_iff.mp hy) with rfl | hy
    · have hid := (Birth.of_work? (hbirth h hd) hx).1
      exact fun he => by rw [Holding.id, RestorationStage.id] at he; omega
    · exact hrest y hy
  | replaced h ho =>
    rcases List.mem_cons.mp hy with rfl | hy
    · have hid := (hbirth h hd).1
      exact fun he => by rw [Holding.id] at he; omega
    · exact hrest y hy
  | lost h => exact hrest y hy

/-- **A turn of a restoration that counts an instance as destroyed** has destroyed its own. -/
theorem Kindred.destroys_turn (hk : Kindred p) (hr : r ∈ p.restorations)
    (hcounted : (p.proceedRestoration rounds w r.number).2.1.destroyed = p.destroyed + 1)
    (hattempts : (p.proceedRestoration rounds w r.number).2.1.made =
      p.made + (!p.closed).toNat) :
    Destroys p ⟨w, .proceedRestoration rounds r.number⟩ r.stage.id := by
  have hturn : Restores rounds w p r (p.proceedRestoration rounds w r.number).2.1
      (p.proceedRestoration rounds w r.number).2.2.result? :=
    proceedRestoration_restores (hk.numbered.restoration? hr)
  refine hk.destroys (mem_holdings_returning.mpr hr) hcounted ?_ (hturn.gone hk hr hcounted)
  show _ = p.made + (!p.closed && true).toNat
  rw [Bool.and_true]
  exact hattempts

theorem Kindred.destroys_replaced (hk : Kindred p) (hr : r ∈ p.restorations)
    (h : (p.proceedRestoration rounds w r.number).2.1 = (replace v p r).2.1) :
    Destroys p ⟨w, .proceedRestoration rounds r.number⟩ r.stage.id := by
  have hcounts := replace_counts v p r
  rw [← h] at hcounts
  exact hk.destroys_turn hr hcounts.1 hcounts.2

/-! ## Restorations -/

/-- **What a turn of a restoration makes of a pool**, given what it made of the instance: one that
is not done yet goes on, one that is well becomes idle, and all others are replaced or discarded. -/
inductive Verdict (σ : Type) (p : Pool) (r : Restoration) : Option Situation → Pool → Prop
  | tidying {i : Instance} (hid : i.id = r.stage.id) (x : Reset) :
      Verdict σ p r (some (.resetting i x)) (p.setRestoration { r with stage := .resetting i x })
  | kept {i : Instance} (hid : i.id = r.stage.id) (ho : p.closed = false) :
      Verdict σ p r (some (.idle (i.setState .idle))) (p.keep r (i.setState .idle))
  | late (i : Instance) (v : World σ) (hc : p.closed = true) :
      Verdict σ p r (some (.idle i)) (replace v p r).2.1
  | ended (v : World σ) : Verdict σ p r none (replace v p r).2.1

theorem verdict_afterReset (v : World σ) {i : Instance} (hid : i.id = r.stage.id)
    (s : Standing Reset Reset.Result) :
    Verdict σ p r (Situation.tidied i s) (afterReset v p r i s).2.1 := by
  match s with
  | .busy x | .blocked x => exact .tidying hid x
  | .ended (.error e) => exact .ended _
  | .ended (.ok ()) =>
    cases hc : p.closed with
    | true => rw [afterReset, hc]; exact .late _ v hc
    | false => rw [afterReset, hc]; exact .kept hid hc

/-- **Every turn of a restoration** of an instance that is still there goes one of these ways. -/
theorem proceedRestoration_verdict (rounds : Nat) (w : World σ)
    (hr : p.restoration? r.number = some r) (hs : r.stage.holds = true) :
    Verdict σ p r ((Holding.returning r).situation.after (.restored rounds w))
      (p.proceedRestoration rounds w r.number).2.1 := by
  unfold proceedRestoration
  rw [hr]
  obtain ⟨number, id, stage⟩ := r
  cases stage with
  | pending i =>
    simp only [Holding.situation, Situation.after, startRestoration]
    cases hi : i.isFaulted with
    | true => exact .ended w
    | false => exact verdict_afterReset _ (Reset.begin_same w i).id _
  | resetting i x => exact verdict_afterReset _ (Reset.proceed_same rounds w i x).id _
  | replacing x => cases hs

/-- **A turn of a restoration destroys the instance or counts nothing.** -/
theorem Verdict.counted {s : Option Situation} (h : Verdict σ p r s q) :
    Uncounted p q ∨ ∃ v : World σ, q = (replace v p r).2.1 := by
  cases h with
  | tidying hid x => exact .inl ⟨rfl, rfl, rfl⟩
  | kept hid ho => exact .inl ⟨rfl, rfl, rfl⟩
  | late i v hc => exact .inr ⟨v, rfl⟩
  | ended v => exact .inr ⟨v, rfl⟩

theorem Verdict.replaces {s : Option Situation} (h : Verdict σ p r s q)
    (hs : s = none ∨ p.closed = true ∧ ∃ i, s = some (.idle i)) :
    ∃ v : World σ, q = (replace v p r).2.1 := by
  cases h with
  | tidying hid x => simp at hs
  | kept hid ho => simp [ho] at hs
  | late i v hc => exact ⟨v, rfl⟩
  | ended v => exact ⟨v, rfl⟩

theorem Kindred.verdict (hk : Kindred p) (hr : r ∈ p.restorations) (hs : r.stage.holds = true)
    {s : Option Situation} (h : (Holding.returning r).situation.after (.restored rounds w) = s) :
    Verdict σ p r s ((PoolAct.proceedRestoration rounds r.number).perform w p) :=
  h ▸ proceedRestoration_verdict rounds w (hk.numbered.restoration? hr) hs

/-- While a replacement is made, it is counted as destroyed if it comes too late, and nothing else
is. -/
theorem Restores.counted_of_not_holds {o : Option Restored} (h : Restores rounds w p r q o)
    (hs : r.stage.holds = false) :
    q.made = p.made ∧ (q.destroyed = p.destroyed ∨
      p.closed = true ∧ q.destroyed = p.destroyed + 1) := by
  have hparted : p.parted r.stage = p := by rw [parted, hs]; rfl
  have hmade : (p.parted r.stage).made = p.made := by rw [hparted]
  have hdestroyed : (p.parted r.stage).destroyed = p.destroyed := by rw [hparted]
  cases h with
  | tidying h hx => exact ⟨rfl, .inl rfl⟩
  | kept h ho => exact ⟨rfl, .inl rfl⟩
  | discarded hc => exact ⟨rfl, .inr ⟨hc, rfl⟩⟩
  | replacing h hx => exact ⟨hmade, .inl hdestroyed⟩
  | replaced h ho => exact ⟨hmade, .inl hdestroyed⟩
  | lost h => exact ⟨hmade, .inl hdestroyed⟩

/-- **An attempt to make a replacement is begun only for an instance that is destroyed**, by the
restoration in which that instance was till then. -/
theorem Kindred.destroys_of_made_ne (hk : Kindred p) (m : Moment σ)
    (hm : (m.act.perform m.world p).made ≠ p.made) :
    ∃ r ∈ p.restorations, r.stage.holds = true ∧
      (∃ rounds, m.act = .proceedRestoration rounds r.number) ∧ Destroys p m r.stage.id := by
  obtain ⟨w, a⟩ := m
  have hmoves := perform_moves w p a
  generalize hq : a.perform w p = q at hmoves hm
  cases hmoves with
  | @restored rounds r q o hr h ho =>
    cases hs : r.stage.holds with
    | true =>
      subst hq
      rcases (proceedRestoration_verdict rounds w hr hs).counted with hsame | ⟨v, hv⟩
      · exact absurd hsame.made hm
      · have hmem := mem_of_restoration? hr
        exact ⟨r, hmem, hs, ⟨rounds, rfl⟩, hk.destroys_replaced hmem hv⟩
    | false => exact absurd (h.counted_of_not_holds hs).1 hm
  | _ => exact absurd rfl hm

/-- **What is counted as destroyed** was idle in a pool that is drained, or is destroyed alone. -/
theorem Kindred.destroys_of_destroyed_ne (hk : Kindred p) (m : Moment σ)
    (hm : (m.act.perform m.world p).destroyed ≠ p.destroyed) :
    (∃ deadline, m.act = .drain deadline) ∨ ∃ n, Destroys p m n := by
  obtain ⟨w, a⟩ := m
  have hmoves := perform_moves w p a
  generalize hq : a.perform w p = q at hmoves hm
  cases hmoves with
  | closed deadline => exact .inl ⟨deadline, rfl⟩
  | emptied deadline => exact .inl ⟨deadline, rfl⟩
  | @forsaken l hl => exact .inr ⟨l.held.id, hk.destroys_forsaken w (mem_of_lease? hl)⟩
  | @restored rounds r q o hr h ho =>
    refine .inr ⟨r.stage.id, ?_⟩
    subst hq
    have hmem := mem_of_restoration? hr
    cases hs : r.stage.holds with
    | true =>
      rcases (proceedRestoration_verdict rounds w hr hs).counted with hsame | ⟨v, hv⟩
      · exact absurd hsame.destroyed hm
      · exact hk.destroys_replaced hmem hv
    | false =>
      obtain ⟨hmade, hsame | ⟨hc, hcounted⟩⟩ := h.counted_of_not_holds hs
      · exact absurd hsame hm
      · have hattempts : p.made + (!p.closed).toNat = p.made := by rw [hc]; rfl
        exact hk.destroys_turn hmem hcounted (hmade.trans hattempts.symm)
  | _ => exact absurd rfl hm

/-- **A turn of a restoration destroys the instance** if nothing is left of it, or if it is well and
the pool is closed. -/
theorem Kindred.destroys_of_after (hk : Kindred p) (hr : r ∈ p.restorations) {rounds : Nat}
    {w : World σ} (hs : r.stage.holds = true) {s : Option Situation}
    (h : (Holding.returning r).situation.after (.restored rounds w) = s)
    (hend : s = none ∨ p.closed = true ∧ ∃ i, s = some (.idle i)) :
    Destroys p ⟨w, .proceedRestoration rounds r.number⟩ r.stage.id := by
  obtain ⟨v, hv⟩ := (hk.verdict hr hs h).replaces hend
  exact hk.destroys_replaced hr hv

/-- **An instance that is well becomes idle in an open pool**, and nothing is counted. -/
theorem Sound.kept (h : Sound p) (hr : r ∈ p.restorations) (hs : r.stage.holds = true)
    (ho : p.closed = false) {i : Instance}
    (hi : (Holding.returning r).situation.after (.restored rounds w) = some (.idle i)) :
    let q := (PoolAct.proceedRestoration rounds r.number).perform w p
    i ∈ q.idle ∧ i.id = r.stage.id ∧ i.state = .idle ∧ Uncounted p q := by
  intro q
  have hfit : ∀ x ∈ q.holdings, x.Fit := (h.perform w _).fit
  have hverdict : Verdict σ p r (some (.idle i)) q := h.kindred.verdict hr hs hi
  generalize q = q at hfit hverdict ⊢
  cases hverdict with
  | late i v hc => exact nomatch hc.symm.trans ho
  | @kept i hid ho =>
    have hmem : i.setState .idle ∈ (p.keep r (i.setState .idle)).idle := List.mem_cons_self
    have hwell : (i.setState .idle).isFaulted = false := hfit _ (mem_holdings_idle.mpr hmem)
    exact ⟨hmem, (i.id_setState .idle).trans hid, Instance.state_setState hwell, rfl, rfl, rfl⟩

/-- **An instance that is not done yet** stays where it is, and nothing is counted. -/
theorem Kindred.tidying (hk : Kindred p) (hr : r ∈ p.restorations) (hs : r.stage.holds = true)
    {s : Situation} (h : (Holding.returning r).situation.after (.restored rounds w) = some s)
    (hnot : ∀ i, s ≠ .idle i) :
    let q := (PoolAct.proceedRestoration rounds r.number).perform w p
    (∃ y ∈ q.holdings, y.id = r.stage.id) ∧ Uncounted p q := by
  intro q
  have hverdict : Verdict σ p r (some s) q := hk.verdict hr hs h
  generalize q = q at hverdict ⊢
  cases hverdict with
  | @tidying i hid x =>
    have hq := holdings_returning
      (setRestoration_perm hk.numbered (hk.numbered.restoration? hr) (.resetting i x))
    exact ⟨⟨_, hq.mem_iff.mpr List.mem_cons_self, hid⟩, rfl, rfl, rfl⟩
  | kept hid ho => exact absurd rfl (hnot _)
  | late i v hc => exact absurd rfl (hnot _)

/-- **A faulted instance that comes back is destroyed at once**, without a reset. -/
theorem Sound.destroys_faulted (h : Sound p) (hr : r ∈ p.restorations)
    (hf : (Holding.returning r).isFaulted = true) (rounds : Nat) (w : World σ) :
    Destroys p ⟨w, .proceedRestoration rounds r.number⟩ r.stage.id := by
  have hfit := h.fit _ (mem_holdings_returning.mpr hr)
  have hend : r.stage.holds = true ∧
      (Holding.returning r).situation.after (.restored rounds w) = none := by
    obtain ⟨number, id, stage⟩ := r
    cases stage with
    | pending i => exact ⟨rfl, if_pos hf⟩
    | resetting i x => exact absurd hf (Bool.eq_false_iff.mp hfit)
    | replacing x => cases hf
  exact h.kindred.destroys_of_after hr hend.1 hend.2 (.inl rfl)

/-- A lease that is dropped leaves its instance faulted. -/
theorem Kindred.abandoned_isFaulted (hk : Kindred p) (w : World σ) {l : Lease}
    (hl : l ∈ p.leases) :
    ∃ y ∈ ((PoolAct.abandon l.number).perform w p).holdings,
      y.id = l.held.id ∧ y.isFaulted = true := by
  let r : Restoration :=
    ⟨p.nextNumber, (l.held.setState .faulted).id, .pending (l.held.setState .faulted)⟩
  have hr : r ∈ ((PoolAct.abandon l.number).perform w p).restorations := by
    simp only [PoolAct.perform, abandon, hk.numbered.lease? hl]
    exact List.mem_append_right _ (List.mem_singleton_self r)
  exact ⟨.returning r, mem_holdings_returning.mpr hr, l.held.id_setState .faulted,
    l.held.isFaulted_setState_faulted⟩

/-! ## Fates -/

/-- **A faulted instance is there after an act**, or the act destroys it. -/
theorem Sound.step_fate (h : Sound p) {m : Moment σ} (hm : m.act.Completes) {x : Holding}
    (hx : x ∈ p.holdings) (hf : x.isFaulted = true) :
    (∃ y ∈ (m.act.perform m.world p).holdings, y.id = x.id) ∨ Destroys p m x.id := by
  obtain ⟨w, a⟩ := m
  have hk := h.kindred
  cases hs : a.subject? p with
  | none =>
    refine .inl ?_
    cases (perform_moves w p a).spares hs with
    | still hq hl => exact ⟨x, hq ▸ hx, rfl⟩
    | @lent i l rest hp hq hl hheld hcall =>
      have hrest := (List.mem_cons.mp (hp.mem_iff.mp hx)).resolve_left (h.not_idle hx hf i)
      exact ⟨x, hq.mem_iff.mpr (List.mem_cons_of_mem _ hrest), rfl⟩
    | drained hq hl =>
      refine ⟨x, (List.mem_append.mp (hq ▸ hx)).resolve_left fun hidle => ?_, rfl⟩
      obtain ⟨i, -, rfl⟩ := List.mem_map.mp hidle
      exact h.not_idle hx hf i rfl
  | some z =>
    -- The act is about one instance; any other stays.
    by_cases hid : x.id = z.id
    · obtain rfl := hk.eq_of_id hx (hk.mem_of_subject w hs) hid.symm
      -- An act that ends its instance destroys it; any other leaves it under its number.
      cases hends : a.ends with
      | false =>
        cases perform_alters hk w hs with
        | gone ha h => exact nomatch hends.symm.trans ha
        | changed hp hq hid hd h => exact .inl ⟨_, hq.mem_iff.mpr List.mem_cons_self, hid⟩
        | begun ha hp hq hid v h => exact nomatch hends.symm.trans ha
      | true =>
        cases a with
        | abandonForGood lease =>
          obtain ⟨l, hl, rfl⟩ := Option.map_eq_some_iff.mp hs
          obtain rfl := lease?_number hl
          exact .inr (hk.destroys_forsaken w (mem_of_lease? hl))
        | proceedRestoration rounds number =>
          obtain ⟨r, hr, rfl⟩ := Option.map_eq_some_iff.mp hs
          obtain rfl := restoration?_number hr
          exact .inr (h.destroys_faulted (mem_of_restoration? hr) hf rounds w)
        | dropRestoration number => exact hm.elim
        | _ => cases hends
    · exact .inl ⟨x, mem_perform_of_subject hk w hs hx hid, rfl⟩

/-- **The fate of a faulted instance**: in a run that lets returns complete it is leased or comes
back at the end, or there was a moment that destroyed it. -/
theorem Sound.fate (h : Sound p) (ms : List (Moment σ)) (hms : ∀ m ∈ ms, m.act.Completes)
    {x : Holding} (hx : x ∈ p.holdings) (hf : x.isFaulted = true) :
    (∃ y ∈ (p.run ms).holdings, y.id = x.id ∧ y.isFaulted = true ∧ ∀ i, y ≠ .idle i) ∨
      ∃ before m behind, ms = before ++ m :: behind ∧ Destroys (p.run before) m x.id := by
  induction ms generalizing p x with
  | nil => exact .inl ⟨x, hx, rfl, hf, h.not_idle hx hf⟩
  | cons m ms ih =>
    have hfirst := hms m List.mem_cons_self
    rcases h.step_fate hfirst hx hf with ⟨y, hy, hid⟩ | hdestroys
    · have hfaulted : y.isFaulted = true := h.isFaulted_run [m] hx hf hy hid
      have hrest := fun m hm => hms m (List.mem_cons_of_mem _ hm)
      rcases ih (h.perform m.world m.act) hrest hy hfaulted with
        ⟨z, hz, hzid, hz'⟩ | ⟨before, m', behind, rfl, hdestroys⟩
      · exact .inl ⟨z, hz, hzid.trans hid, hz'⟩
      · exact .inr ⟨m :: before, m', behind, rfl, hid ▸ hdestroys⟩
    · exact .inr ⟨[], m, ms, rfl, hdestroys⟩

/-- **Faulted instances are destroyed once and never come back.**  At every moment of a run of a
filled pool, whatever its tasks do in whatever order:

* a fault stays; a call on a faulted instance is refused and so is a reset, and neither changes
  anything.  A lease that is dropped leaves its instance faulted;
* if returns run to completion, a faulted instance stays leased or comes back until one moment
  destroys it;
* a turn of a restoration destroys the instance if nothing is left of that, and in a closed pool if
  it is well, too.  In an open one an instance that is well becomes idle, and nothing is counted;
  nor is anything counted while it tidies up.  One that comes back faulted is destroyed at once;
* an attempt to make a replacement is begun only by a restoration that destroys its instance;
* nothing is counted as destroyed but one instance that is destroyed, or those that are idle when
  the pool is drained. -/
theorem faulted_never_returns {b : Blueprint} {size : Nat} {timeout : Option Nat}
    (hp : Filled σ b size timeout p) (ms : List (Moment σ)) :
    let q := p.run ms
    (∀ x ∈ q.holdings, x.isFaulted = true → ∀ ms' : List (Moment σ),
      ∀ y ∈ (q.run ms').holdings, y.id = x.id → y.isFaulted = true) ∧
    (∀ l ∈ q.leases, l.held.isFaulted = true → ∀ (w : World σ),
      (∀ c entrypoint payload, q.beginCall w l.number c entrypoint payload =
        (w, q, .ended (.error Instance.faultedError))) ∧
      ∀ rounds, q.proceedCall rounds w l.number = (w, q, .ended (.error releasedError))) ∧
    (∀ (i : Instance) (w : World σ), i.isFaulted = true →
      Reset.begin w i = (w, i, .ended (.error Instance.faultedError))) ∧
    (∀ l ∈ q.leases, ∀ w : World σ,
      ∃ y ∈ ((PoolAct.abandon l.number).perform w q).holdings,
        y.id = l.held.id ∧ y.isFaulted = true) ∧
    (∀ x ∈ q.holdings, x.isFaulted = true → ∀ ms' : List (Moment σ),
      (∀ m ∈ ms', m.act.Completes) →
        (∃ y ∈ (q.run ms').holdings, y.id = x.id ∧ y.isFaulted = true ∧ ∀ i, y ≠ .idle i) ∨
        ∃ before m behind, ms' = before ++ m :: behind ∧ (q.run before).Destroys m x.id) ∧
    (∀ r ∈ q.restorations, r.stage.holds = true → ∀ rounds (w : World σ),
      let m : Moment σ := ⟨w, .proceedRestoration rounds r.number⟩
      let next := m.act.perform w q
      match (Holding.returning r).situation.after (.restored rounds w) with
      | none => q.Destroys m r.stage.id
      | some (.idle i) =>
        if q.closed then q.Destroys m r.stage.id
        else i ∈ next.idle ∧ i.id = r.stage.id ∧ i.state = .idle ∧ q.Uncounted next
      | some _ => (∃ y ∈ next.holdings, y.id = r.stage.id) ∧ q.Uncounted next) ∧
    (∀ r ∈ q.restorations, (Holding.returning r).isFaulted = true → ∀ rounds (w : World σ),
      q.Destroys ⟨w, .proceedRestoration rounds r.number⟩ r.stage.id) ∧
    (∀ m : Moment σ, (m.act.perform m.world q).made ≠ q.made →
      ∃ r ∈ q.restorations, r.stage.holds = true ∧
        (∃ rounds, m.act = .proceedRestoration rounds r.number) ∧ q.Destroys m r.stage.id) ∧
    (∀ m : Moment σ, (m.act.perform m.world q).destroyed ≠ q.destroyed →
      (∃ deadline, m.act = .drain deadline) ∨ ∃ n, q.Destroys m n) := by
  intro q
  have h : Sound q := (sound_of_filled hp).run ms
  have hk := h.kindred
  refine ⟨fun x hx hf ms' y => h.isFaulted_run ms' hx hf,
    fun l hl hf w =>
      ⟨h.beginCall_faulted w hl hf, fun rounds => h.proceedCall_faulted rounds w hl hf⟩,
    fun i w hi => Reset.begin_faulted w hi, fun l hl w => hk.abandoned_isFaulted w hl,
    fun x hx hf ms' hms => h.fate ms' hms hx hf, fun r hr hs rounds w => ?_,
    fun r hr hf => h.destroys_faulted hr hf, hk.destroys_of_made_ne, hk.destroys_of_destroyed_ne⟩
  dsimp only
  split
  · rename_i hi
    exact hk.destroys_of_after hr hs hi (.inl rfl)
  · rename_i i hi
    cases hc : q.closed with
    | true => exact hk.destroys_of_after hr hs hi (.inr ⟨hc, i, rfl⟩)
    | false => exact h.kept hr hs hc hi
  · rename_i s hnot hs'
    exact hk.tidying hr hs hs' hnot

/-- A lease that is dropped: the first turn of the restoration destroys the instance. -/
theorem filled_plain_abandoned :
    let q := (filled .silent .plain []).run
      [(⟨.silent, .tryCheckout⟩ : Moment Unit), ⟨.silent, .abandon 0⟩]
    ∃ r ∈ q.restorations, (Holding.returning r).isFaulted = true ∧
      q.Destroys (⟨.silent, .proceedRestoration 1 r.number⟩ : Moment Unit) r.stage.id := by
  intro q
  let r := q.restorations.get ⟨0, by decide +kernel⟩
  have hr : r ∈ q.restorations := List.get_mem _ _
  have hf : (Holding.returning r).isFaulted = true := by decide +kernel
  exact ⟨r, hr, hf, (faulted_never_returns filled_plain _).2.2.2.2.2.2.1 r hr hf 1 .silent⟩

end Pool
end FunctionHost

import FunctionHost.Proofs.Guest.Frame
import FunctionHost.Proofs.Pool.Accounts

/-!
# What becomes of instances

The instances of a pool, with what each is in, are its **holdings**.  An act changes at most one of
them into another (`Becomes`) or lets some go (`Shifts`); all others stay as they are.  So a law of
instances is a law of every run if it is kept by the few changes of `Becomes`.
-/
namespace FunctionHost

variable {σ : Type}

namespace Pool

/-- **The instances of a pool.** -/
def holdings (p : Pool) : List Holding :=
  p.idle.map .idle ++ p.leases.map .leased ++ p.restorations.map .returning

/-- **What an act makes of an instance**, and how many others are begun for that. -/
inductive Becomes (w : World σ) (p : Pool) : PoolAct → Holding → Holding → Nat → Prop
  | lent {a : PoolAct} {i : Instance} (ha : a.Silent w p) :
      Becomes w p a (.idle i) (.leased { number := p.nextNumber, held := i.setState .leased }) 0
  | called {a : PoolAct} {l l' : Lease} (hl : p.lease? l.number = some l) (h : Calls w l a l') :
      Becomes w p a (.leased l) (.leased l') 0
  | returned {l : Lease} :
      Becomes w p (.release l.number) (.leased l)
        (.returning ⟨p.nextNumber, l.held.id, .pending l.held⟩) 0
  | abandoned {l : Lease} :
      Becomes w p (.abandon l.number) (.leased l)
        (.returning ⟨p.nextNumber, (l.held.setState .faulted).id,
          .pending (l.held.setState .faulted)⟩) 0
  | tidying {rounds : Nat} {r : Restoration} {i : Instance} {s : Standing Reset Reset.Result}
      {x : Reset} (hr : p.restoration? r.number = some r) (h : Tidies rounds w r.stage i s)
      (hx : s.work? = some x) :
      Becomes w p (.proceedRestoration rounds r.number) (.returning r)
        (.returning { r with stage := .resetting i x }) 0
  | replacing {rounds : Nat} {r : Restoration} {s : Standing Birth Birth.Result} {x : Birth}
      (hr : p.restoration? r.number = some r) (h : Bears rounds w p r.stage s)
      (hx : s.work? = some x) :
      Becomes w p (.proceedRestoration rounds r.number) (.returning r)
        (.returning { r with stage := .replacing x }) r.stage.holds.toNat
  | kept {rounds : Nat} {r : Restoration} {i : Instance}
      (hr : p.restoration? r.number = some r)
      (h : Tidies rounds w r.stage i (.ended (.ok ())))
      (ho : (PoolAct.proceedRestoration rounds r.number).restored? w p =
        some (.kept (i.setState .idle))) :
      Becomes w p (.proceedRestoration rounds r.number) (.returning r) (.idle (i.setState .idle)) 0
  | replaced {rounds : Nat} {r : Restoration} {i : Instance}
      (hr : p.restoration? r.number = some r) (h : Bears rounds w p r.stage (.ended (.ok i)))
      (ho : (PoolAct.proceedRestoration rounds r.number).restored? w p = some (.replaced i)) :
      Becomes w p (.proceedRestoration rounds r.number) (.returning r) (.idle i)
        r.stage.holds.toNat

/-- **What an act makes of the instances of a pool**: some are gone, or one has changed.  If the act
runs guest code, it is that of such a one. -/
inductive Shifts (w : World σ) (p : Pool) (a : PoolAct) (q : Pool) : Prop
  | left (gone : List Holding) (h : p.holdings.Perm (gone ++ q.holdings))
      (hm : p.made ≤ q.made) (hr : ∀ x, a.runs? p = some x → x ∈ gone)
  | changed {x y : Holding} {n : Nat} {rest : List Holding} (hp : p.holdings.Perm (x :: rest))
      (hq : q.holdings.Perm (y :: rest)) (h : Becomes w p a x y n) (hm : q.made = p.made + n)

variable {w : World σ} {p q : Pool} {a : PoolAct}

/-- **A law of instances** holds after an act if it holds of those that there were and of what the
act makes of one. -/
theorem Shifts.all {X : Holding → Prop} (h : Shifts w p a q) (hstay : ∀ x ∈ p.holdings, X x)
    (hchange : ∀ x ∈ p.holdings, ∀ y n, Becomes w p a x y n → X y) : ∀ y ∈ q.holdings, X y := by
  intro y hy
  cases h with
  | left gone hp hmade hr => exact hstay y (hp.mem_iff.mpr (List.mem_append_right gone hy))
  | changed hp hq hb hmade =>
    rcases List.mem_cons.mp (hq.mem_iff.mp hy) with rfl | hy
    · exact hchange _ (hp.mem_iff.mpr List.mem_cons_self) _ _ hb
    · exact hstay y (hp.mem_iff.mpr (List.mem_cons_of_mem _ hy))

theorem mem_holdings_idle {i : Instance} : .idle i ∈ p.holdings ↔ i ∈ p.idle := by
  simp [holdings]

theorem mem_holdings_leased {l : Lease} : .leased l ∈ p.holdings ↔ l ∈ p.leases := by
  simp [holdings]

theorem mem_holdings_returning {r : Restoration} :
    .returning r ∈ p.holdings ↔ r ∈ p.restorations := by
  simp [holdings]

/-! ## Taking one instance out -/

section

variable {is : List Instance} {ls : List Lease} {rs : List Restoration}

theorem holdings_idle {i : Instance} (h : p.idle = i :: is) :
    p.holdings =
      .idle i :: (is.map .idle ++ p.leases.map .leased ++ p.restorations.map .returning) := by
  rw [holdings, h]; rfl

theorem holdings_leased {l : Lease} (h : p.leases.Perm (l :: ls)) :
    p.holdings.Perm
      (.leased l :: (p.idle.map .idle ++ ls.map .leased ++ p.restorations.map .returning)) := by
  rw [holdings, ← List.cons_append]
  refine List.Perm.append_right _ ?_
  exact ((h.map Holding.leased).append_left _).trans List.perm_middle

theorem holdings_returning {r : Restoration} (h : p.restorations.Perm (r :: rs)) :
    p.holdings.Perm
      (.returning r :: (p.idle.map .idle ++ p.leases.map .leased ++ rs.map .returning)) :=
  ((h.map Holding.returning).append_left _).trans List.perm_middle

end

theorem leases_perm (hn : WellNumbered p) {l : Lease} (h : p.lease? l.number = some l) :
    p.leases.Perm (l :: (p.removeLease l.number).leases) :=
  Numbered.perm_cons_filter hn.leases.1 (mem_of_lease? h)

theorem restorations_perm (hn : WellNumbered p) {r : Restoration}
    (h : p.restoration? r.number = some r) :
    p.restorations.Perm (r :: (p.removeRestoration r.number).restorations) :=
  Numbered.perm_cons_filter hn.restorations.1 (mem_of_restoration? h)

theorem setLease_perm (hn : WellNumbered p) {l l' : Lease} (h : p.lease? l.number = some l)
    (hl : l'.number = l.number) :
    (p.setLease l').leases.Perm (l' :: (p.removeLease l.number).leases) :=
  Numbered.perm_set hn.leases.1 (mem_of_lease? h) hl

theorem setRestoration_perm (hn : WellNumbered p) {r : Restoration}
    (h : p.restoration? r.number = some r) (stage : RestorationStage) :
    (p.setRestoration { r with stage := stage }).restorations.Perm
      ({ r with stage := stage } :: (p.removeRestoration r.number).restorations) := by
  have hr : ({ r with stage := stage } : Restoration).number = r.number := rfl
  exact Numbered.perm_set hn.restorations.1 (mem_of_restoration? h) hr

/-! ## All acts -/

theorem runs?_proceedRestoration {rounds : Nat} {r : Restoration}
    (hr : p.restoration? r.number = some r) :
    (PoolAct.proceedRestoration rounds r.number).runs? p = some (.returning r) := by
  rw [PoolAct.runs?, hr]; rfl

theorem runs?_proceedCall {rounds : Nat} {l : Lease} {c : Call}
    (hl : p.lease? l.number = some l) (hc : l.call = some c) :
    (PoolAct.proceedCall rounds l.number).runs? p = some (.leased l) := by
  rw [PoolAct.runs?, hl, Option.bind_some, hc]; rfl

/-- **An act runs the code of the instance that it changes**, if it runs any. -/
theorem Becomes.runs {x y z : Holding} {n : Nat} (h : Becomes w p a x y n)
    (hz : a.runs? p = some z) : z = x := by
  have restoration {rounds : Nat} {r : Restoration} (hr : p.restoration? r.number = some r)
      (hz : (PoolAct.proceedRestoration rounds r.number).runs? p = some z) : z = .returning r := by
    rw [runs?_proceedRestoration hr] at hz
    exact (Option.some.inj hz).symm
  cases h with
  | lent ha =>
    rw [ha.runs] at hz
    cases hz
  | called hl h =>
    cases h with
    | begun h => cases hz
    | further hc h =>
      rw [runs?_proceedCall hl hc] at hz
      exact (Option.some.inj hz).symm
    | dropped => cases hz
  | returned => cases hz
  | abandoned => cases hz
  | tidying hr h hx => exact restoration hr hz
  | replacing hr h hx => exact restoration hr hz
  | kept hr h ho => exact restoration hr hz
  | replaced hr h ho => exact restoration hr hz

/-- **What a turn of a restoration makes of the instances of a pool.** -/
theorem Restores.shifts (hn : WellNumbered p) {rounds : Nat} {r : Restoration} {o : Option Restored}
    (hr : p.restoration? r.number = some r) (h : Restores rounds w p r q o)
    (ho : (PoolAct.proceedRestoration rounds r.number).restored? w p = o) :
    Shifts w p (.proceedRestoration rounds r.number) q := by
  have hp := holdings_returning (restorations_perm hn hr)
  have hgone (x : Holding)
      (hx : (PoolAct.proceedRestoration rounds r.number).runs? p = some x) :
      x ∈ [Holding.returning r] := by
    rw [runs?_proceedRestoration hr] at hx
    exact List.mem_singleton.mpr (Option.some.inj hx).symm
  cases h with
  | tidying ht hx =>
    exact .changed hp (holdings_returning (setRestoration_perm hn hr _)) (.tidying hr ht hx) rfl
  | kept ht _ => exact .changed hp (.refl _) (.kept hr ht ho) rfl
  | discarded hc => exact .left [.returning r] hp (Nat.le_refl _) hgone
  | replacing hb hx =>
    exact .changed hp (holdings_returning (setRestoration_perm hn hr _)) (.replacing hr hb hx) rfl
  | replaced hb _ => exact .changed hp (.refl _) (.replaced hr hb ho) rfl
  | lost hb => exact .left [.returning r] hp (Nat.le_add_right _ _) hgone

/-- **What an act makes of the instances of a pool.** -/
theorem Moves.shifts (hn : WellNumbered p) (h : Moves w p a q) : Shifts w p a q := by
  -- Acts on permits alone leave every instance where it is.
  have silent {q : Pool} (hq : a.Silent w p) (h : q.holdings = p.holdings)
      (hm : q.made = p.made) : Shifts w p a q :=
    .left [] (.of_eq h.symm) (Nat.le_of_eq hm.symm) fun x hx => by rw [hq.runs] at hx; cases hx
  cases h with
  | still hq => exact silent hq rfl rfl
  | queued hq hx hg => exact silent hq rfl rfl
  | unqueued hq hx => exact silent hq rfl rfl
  | starved hq h hi => exact silent hq rfl rfl
  | @lent _ hq ps h ho i rest hi =>
    let l : Lease := { number := p.nextNumber, held := i.setState .leased }
    have hsnoc : (p.leases ++ [l]).Perm (l :: p.leases) := List.perm_append_singleton _ _
    exact .changed (.of_eq (holdings_idle hi)) (holdings_leased hsnoc) (.lent hq) rfl
  | @called _ hq l l' hl hc =>
    exact .changed (holdings_leased (leases_perm hn hl))
      (holdings_leased (setLease_perm hn hl hc.number)) (.called hl hc) rfl
  | @returned l hl =>
    exact .changed (holdings_leased (leases_perm hn hl))
      (holdings_returning (List.perm_append_singleton _ _)) .returned rfl
  | @abandoned l hl =>
    exact .changed (holdings_leased (leases_perm hn hl))
      (holdings_returning (List.perm_append_singleton _ _)) .abandoned rfl
  | @forsaken l hl =>
    exact .left [.leased l] (holdings_leased (leases_perm hn hl)) (Nat.le_refl _)
      fun _ h => nomatch h
  | restored hr h ho => exact h.shifts hn hr ho
  | @interrupted r hr =>
    exact .left [.returning r] (holdings_returning (restorations_perm hn hr)) (Nat.le_refl _)
      fun _ h => nomatch h
  | closed deadline => exact .left [] (.refl _) (Nat.le_refl _) fun _ h => nomatch h
  | emptied deadline =>
    exact .left (p.idle.map .idle) (.of_eq (List.append_assoc _ _ _)) (Nat.le_refl _)
      fun _ h => nomatch h

end Pool

/-! ## Bodies and numbers -/

/-- The number of the instance that a restoration is about, be it of one being made. -/
def RestorationStage.id : RestorationStage → Nat
  | .pending i | .resetting i _ => i.id
  | .replacing x => x.id

/-- The body of the same. -/
def RestorationStage.body : RestorationStage → Body
  | .pending i | .resetting i _ => i.body
  | .replacing x => x.body

namespace Holding

/-- The number of the instance. -/
def id : Holding → Nat
  | .idle i => i.id
  | .leased l => l.held.id
  | .returning r => r.stage.id

/-- The body of the instance. -/
def body : Holding → Body
  | .idle i => i.body
  | .leased l => l.held.body
  | .returning r => r.stage.body

end Holding

variable {w : World σ} {p q : Pool} {a : PoolAct}

theorem Calls.same {l l' : Lease} (h : Calls w l a l') : l'.held.SameAs l.held := by
  cases h with
  | @begun c e pl _ _ _ h =>
    have := Call.begin_same w l.held c e pl
    rw [h] at this
    exact this
  | @further rounds c _ _ _ hc h =>
    have := Call.proceed_same rounds w l.held c
    rw [h] at this
    exact this
  | dropped => exact .refl _

theorem Tidies.same {rounds : Nat} {stage : RestorationStage} {j : Instance}
    {s : Standing Reset Reset.Result} (h : Tidies rounds w stage j s) :
    j.id = stage.id ∧ j.body = stage.body := by
  cases h with
  | @begun i _ _ _ hi h =>
    have := Reset.begin_same w i
    rw [h] at this
    exact ⟨this.id, this.body⟩
  | @further i _ x _ _ h =>
    have := Reset.proceed_same rounds w i x
    rw [h] at this
    exact ⟨this.id, this.body⟩

/-- A replacement is made from the blueprint, under the next number or the one it has. -/
theorem Bears.of {rounds : Nat} {stage : RestorationStage} {s : Standing Birth Birth.Result}
    (h : Bears rounds w p stage s) (hb : stage.body.Of p.blueprint) :
    Birth.Of p.blueprint (if stage.holds then p.made + 1 else stage.id) s := by
  cases h with
  | begun hs v =>
    rw [if_pos hs]
    exact Birth.of_begin v
  | further x => exact Birth.of_proceed rounds w rfl hb

namespace Pool

/-- **What an act makes of an instance** has a body of the same blueprint, and the number of the
instance or the next one. -/
theorem Becomes.of {x y : Holding} {n : Nat} (h : Becomes w p a x y n)
    (hb : x.body.Of p.blueprint) :
    y.body.Of p.blueprint ∧ (n = 0 ∧ y.id = x.id ∨ n = 1 ∧ y.id = p.made + 1) := by
  cases h with
  | lent ha => exact ⟨by simpa [Holding.body] using hb, .inl ⟨rfl, by simp [Holding.id]⟩⟩
  | called hl h =>
    have hs := h.same
    exact ⟨(congrArg (Body.Of _) hs.body).mpr hb, .inl ⟨rfl, hs.id⟩⟩
  | returned => exact ⟨hb, .inl ⟨rfl, rfl⟩⟩
  | abandoned =>
    exact ⟨by simpa [Holding.body, RestorationStage.body] using hb,
      .inl ⟨rfl, by simp [Holding.id, RestorationStage.id]⟩⟩
  | tidying hr h hx =>
    have hs := h.same
    exact ⟨(congrArg (Body.Of _) hs.2).mpr hb, .inl ⟨rfl, hs.1⟩⟩
  | @replacing _ r _ _ hr h hx =>
    obtain ⟨hid, hbody⟩ := Birth.of_work? (h.of hb) hx
    refine ⟨hbody, ?_⟩
    -- While the old instance is held, the one that is begun gets the next number.
    cases hs : r.stage.holds with
    | true => exact .inr ⟨rfl, hid.trans (if_pos hs)⟩
    | false => exact .inl ⟨rfl, hid.trans (if_neg (by simp [hs]))⟩
  | kept hr h ho =>
    have hs := h.same
    refine ⟨?_, .inl ⟨rfl, ?_⟩⟩
    · rw [Holding.body, Instance.body_setState, hs.2]
      exact hb
    · rw [Holding.id, Instance.id_setState, hs.1]
      rfl
  | @replaced _ r _ hr h ho =>
    obtain ⟨hid, hbody⟩ := h.of hb
    refine ⟨hbody, ?_⟩
    cases hs : r.stage.holds with
    | true => exact .inr ⟨rfl, hid.trans (if_pos hs)⟩
    | false => exact .inl ⟨rfl, hid.trans (if_neg (by simp [hs]))⟩

/-- **The instances of a pool are its own**: they have bodies of its blueprint, and numbers that it
gave out, each to one. -/
structure Kindred (p : Pool) : Prop where
  numbered : WellNumbered p
  bodies : ∀ x ∈ p.holdings, x.body.Of p.blueprint
  ids : Numbered.GivenOut (p.holdings.map Holding.id) (p.made + 1)

/-- **No act makes an instance of another kind**, or one with a number that was given out. -/
theorem Kindred.moves (h : Kindred p) (hm : Moves w p a q) : Kindred q := by
  have hblueprint := hm.fixed.1
  refine ⟨h.numbered.moves hm, ?_, ?_⟩
  · rw [hblueprint]
    exact (hm.shifts h.numbered).all h.bodies fun x hx y n hb => (hb.of (h.bodies x hx)).1
  · cases hm.shifts h.numbered with
    | left gone hp hmade hr =>
      have hids := h.ids.perm (hp.map Holding.id)
      rw [List.map_append] at hids
      exact hids.of_append.mono (Nat.succ_le_succ hmade)
    | @changed x y n rest hp hq hb hmade =>
      have hids := h.ids.perm (hp.map Holding.id)
      -- It keeps its number, or has the next one when another is begun.
      have hnew : Numbered.GivenOut ((y :: rest).map Holding.id) (q.made + 1) := by
        rw [hmade]
        rcases (hb.of (h.bodies x (hp.mem_iff.mpr List.mem_cons_self))).2 with
          ⟨rfl, hid⟩ | ⟨rfl, hid⟩
        · rw [List.map_cons, hid]
          exact hids
        · rw [List.map_cons, hid]
          exact (hids.of_append (k := [x.id])).cons
      exact hnew.perm (hq.map Holding.id).symm

theorem Kindred.run (h : Kindred p) (ms : List (Moment σ)) : Kindred (p.run ms) :=
  run_induction h (fun q m hq => hq.moves (perform_moves m.world q m.act)) ms

/-- Different instances have different numbers. -/
theorem Kindred.id_ne (h : Kindred p) {xs ys : List Holding} (hp : p.holdings.Perm (xs ++ ys))
    {x y : Holding} (hx : x ∈ xs) (hy : y ∈ ys) : y.id ≠ x.id := by
  have hids := (h.ids.perm (hp.map Holding.id)).1
  rw [List.map_append] at hids
  exact ((List.nodup_append.mp hids).2.2 _ (List.mem_map_of_mem hx) _ (List.mem_map_of_mem hy)).symm

theorem Kindred.id_le (h : Kindred p) {x : Holding} (hx : x ∈ p.holdings) : x.id ≤ p.made :=
  Nat.le_of_lt_succ (h.ids.2 _ (List.mem_map_of_mem hx))

/-- All instances of a filled pool are idle. -/
theorem eq_idle_of_filled {b : Blueprint} {size : Nat} {timeout : Option Nat}
    (hp : Filled σ b size timeout p) {x : Holding} (hx : x ∈ p.holdings) :
    ∃ i ∈ p.idle, x = .idle i := by
  obtain ⟨made, i, -, rfl⟩ := hp.eq
  simp only [holdings, List.map_nil, List.append_nil, List.mem_map] at hx
  obtain ⟨j, hj, rfl⟩ := hx
  exact ⟨j, hj, rfl⟩

/-- **The instances of a filled pool** have the numbers from one on. -/
theorem kindred_of_filled {b : Blueprint} {size : Nat} {timeout : Option Nat}
    (hp : Filled σ b size timeout p) : Kindred p := by
  have hlaw : Filling.Law σ b fun made s =>
      Birth.Of b (made.length + 1) s ∧ (∀ i ∈ made, i.body.Of b) ∧
        Numbered.GivenOut (made.map Instance.id) (made.length + 1) :=
    { begun := fun w => ⟨Birth.of_begin w, (fun _ h => nomatch h), .nil 1⟩
      further := fun made s x rounds w h hx =>
        have hof := Birth.of_work? h.1 hx
        ⟨Birth.of_proceed rounds w hof.1 hof.2, h.2⟩
      next := fun made i w h => by
        refine ⟨Birth.of_begin w, fun j hj => ?_, ?_⟩
        · rcases List.mem_cons.mp hj with rfl | hj
          · exact h.1.2
          · exact h.2.1 j hj
        · rw [List.map_cons, h.1.1]
          exact h.2.2.cons }
  have hn := (accounts_of_filled hp).1
  have hidle := fun x => eq_idle_of_filled (x := x) hp
  obtain ⟨made, i, ⟨hi, hmade, hids⟩, hm, rfl⟩ := hp.obeys hlaw
  have hall : ((i :: made).map Holding.idle ++ [] ++ []).map Holding.id =
      i.id :: made.map Instance.id := by
    simp only [List.append_nil, List.map_map, List.map_cons]
    rfl
  refine ⟨hn, fun x hx => ?_, ?_⟩
  · obtain ⟨j, hj, rfl⟩ := hidle x hx
    rcases List.mem_cons.mp hj with rfl | hj
    · exact hi.2
    · exact hmade j hj
  · show Numbered.GivenOut (((i :: made).map Holding.idle ++ [] ++ []).map Holding.id) (size + 1)
    rw [hall, hi.1, ← hm]
    exact hids.cons

end Pool
end FunctionHost

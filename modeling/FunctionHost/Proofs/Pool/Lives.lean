import FunctionHost.Proofs.Pool.Holdings

/-!
# The life of one instance

Each instance of a pool is in one place only, and an act is about one instance at most.  So what
becomes of an instance depends on nothing but the acts that are about it, in the worlds that these
find: its **deeds**.  `Situation.live` runs an instance through its deeds alone, without any pool,
and `Pool.live_run` says that this is what becomes of it in every run of a pool, whatever is
done to the other instances in between.

An instance that is gone never comes back: every other one that is begun has a number of its own,
and one that could not be made takes its number with it.
-/
namespace FunctionHost

variable {σ : Type}

/-! ## Situations and deeds -/

/-- **What an instance is in**, whatever numbers its pool gave out for that. -/
inductive Situation where
  /-- Nobody uses it. -/
  | idle (i : Instance)
  /-- Somebody holds it, and perhaps a call is in progress. -/
  | leased (i : Instance) (call : Option Call)
  /-- It came back. -/
  | pending (i : Instance)
  /-- It tidies up. -/
  | resetting (i : Instance) (r : Reset)
  /-- It is being made. -/
  | making (b : Birth)

/-- What an instance of a pool is in. -/
def Holding.situation : Holding → Situation
  | .idle i => .idle i
  | .leased l => .leased l.held l.call
  | .returning ⟨_, _, .pending i⟩ => .pending i
  | .returning ⟨_, _, .resetting i r⟩ => .resetting i r
  | .returning ⟨_, _, .replacing b⟩ => .making b

/-- **What is done to one instance**, and the world in which it is. -/
inductive Deed (σ : Type) where
  /-- It is leased. -/
  | lent
  /-- A call begins. -/
  | begun (w : World σ) (context : Context) (entrypoint : String) (payload : Bytes)
  /-- A call goes on. -/
  | called (rounds : Nat) (w : World σ)
  /-- A call is given up. -/
  | dropped
  /-- It is given back. -/
  | returned
  /-- Its lease is dropped. -/
  | abandoned
  /-- Its restoration, or the making of it, begins or goes on. -/
  | restored (rounds : Nat) (w : World σ)

namespace Situation

/-- What an instance is in that was made, or is being made. -/
def born : Standing Birth Birth.Result → Option Situation
  | .busy b | .blocked b => some (.making b)
  | .ended (.ok i) => some (.idle i)
  | .ended (.error _) => none

/-- What an instance is in that tidied up, or does so still. -/
def tidied (i : Instance) : Standing Reset Reset.Result → Option Situation
  | .busy r | .blocked r => some (.resetting i r)
  | .ended (.ok _) => some (.idle (i.setState .idle))
  | .ended (.error _) => none

/-- **What a deed makes of an instance**, unless that is the end of it.  A deed for which the
instance is not in place does nothing. -/
def after : Situation → Deed σ → Option Situation
  | .idle i, .lent => some (.leased (i.setState .leased) none)
  | .leased i _, .begun w c entrypoint payload =>
    let (_, i, s) := Call.begin w i c entrypoint payload
    some (.leased i s.work?)
  | .leased i (some c), .called rounds w =>
    let (_, i, s) := Call.proceed rounds w i c
    some (.leased i s.work?)
  | .leased i _, .dropped => some (.leased i none)
  | .leased i _, .returned => some (.pending i)
  | .leased i _, .abandoned => some (.pending (i.setState .faulted))
  | .pending i, .restored _ w =>
    if i.isFaulted then none
    else
      let (_, i, s) := Reset.begin w i
      tidied i s
  | .resetting i r, .restored rounds w =>
    let (_, i, s) := Reset.proceed rounds w i r
    tidied i s
  | .making b, .restored rounds w => born (Birth.proceed rounds w b).2
  | s, _ => some s

/-- **The life of an instance** through its deeds, one after another. -/
def live (s : Situation) (deeds : List (Deed σ)) : Option Situation := deeds.foldlM after s

end Situation

theorem Tidies.after {rounds : Nat} {w : World σ} {r : Restoration} {j : Instance}
    {s : Standing Reset Reset.Result} (h : Tidies rounds w r.stage j s) :
    (Holding.returning r).situation.after (.restored rounds w) = Situation.tidied j s := by
  obtain ⟨number, id, stage⟩ := r
  cases h with
  | begun hi h =>
    simp only [Holding.situation, Situation.after, hi, h, Bool.false_eq_true, if_false]
  | further h => simp only [Holding.situation, Situation.after, h]

namespace Situation

theorem tidied_of_work? {i : Instance} {s : Standing Reset Reset.Result} {x : Reset}
    (hx : s.work? = some x) : tidied i s = some (.resetting i x) := by
  cases s <;> cases hx <;> rfl

theorem born_of_work? {s : Standing Birth Birth.Result} {x : Birth} (hx : s.work? = some x) :
    born s = some (.making x) := by
  cases s <;> cases hx <;> rfl

end Situation

/-! ## Which instance an act is about -/

namespace PoolAct

/-- The instance that an act is about, but for one that is leased and those that are drained. -/
def subject? (p : Pool) : PoolAct → Option Holding
  | .beginCall lease _ _ _ | .proceedCall _ lease | .dropCall lease | .release lease
  | .abandon lease | .abandonForGood lease => (p.lease? lease).map .leased
  | .proceedRestoration _ number | .dropRestoration number => (p.restoration? number).map .returning
  | _ => none

/-- What an act does to the instance that it is about, unless it gives it up. -/
def deed (w : World σ) : PoolAct → Option (Deed σ)
  | .beginCall _ c entrypoint payload => some (.begun w c entrypoint payload)
  | .proceedCall rounds _ => some (.called rounds w)
  | .dropCall _ => some .dropped
  | .release _ => some .returned
  | .abandon _ => some .abandoned
  | .proceedRestoration rounds _ => some (.restored rounds w)
  | _ => none

/-- Whether an act may be the end of the instance that it is about. -/
def ends : PoolAct → Bool
  | .abandonForGood _ | .proceedRestoration _ _ | .dropRestoration _ => true
  | _ => false

/-- Whether an act leases the instance with a number. -/
def lends (w : World σ) (p : Pool) (id : Nat) (a : PoolAct) : Bool :=
  p.idle.any (·.id = id) && (a.perform w p).leases.any (·.held.id = id)

/-- **What an act does to the instance with a number**, if anything. -/
def deed? (w : World σ) (p : Pool) (id : Nat) (a : PoolAct) : Option (Deed σ) :=
  match a.subject? p with
  | some x => if x.id = id then a.deed w else none
  | none => if a.lends w p id then some .lent else none

end PoolAct

namespace Pool

/-- **The deeds of the instance with a number** in a run. -/
def deeds (p : Pool) (id : Nat) : List (Moment σ) → List (Deed σ)
  | [] => []
  | m :: ms => (m.act.deed? m.world p id).toList ++ (m.act.perform m.world p).deeds id ms

/-- **What an act makes of the instance that it is about**: it is gone, or it is what the deed makes
of it, or another one was begun in its place.  All others stay as they are. -/
inductive Alters (w : World σ) (p : Pool) (a : PoolAct) (x : Holding) (q : Pool) : Prop
  | gone (ha : a.ends = true) (h : p.holdings.Perm (x :: q.holdings))
  | changed {y : Holding} {rest : List Holding} (hp : p.holdings.Perm (x :: rest))
      (hq : q.holdings.Perm (y :: rest)) (hid : y.id = x.id) {d : Deed σ} (hd : a.deed w = some d)
      (h : x.situation.after d = some y.situation)
  | begun {y : Holding} {rest : List Holding} (ha : a.ends = true)
      (hp : p.holdings.Perm (x :: rest)) (hq : q.holdings.Perm (y :: rest))
      (hid : y.id = p.made + 1) (v : World σ)
      (h : Situation.born (Birth.begin v p.blueprint y.id).2 = some y.situation)

variable {w : World σ} {p q : Pool} {a : PoolAct}

/-! ## Acts that are about an instance -/

/-- A turn of a call changes its lease and nothing else. -/
theorem alters_setLease (hn : WellNumbered p) {l : Lease} (hl : p.lease? l.number = some l)
    {i : Instance} {c : Option Call} (hid : i.id = l.held.id) {d : Deed σ} (hd : a.deed w = some d)
    (h : (Holding.leased l).situation.after d = some (.leased i c)) :
    Alters w p a (.leased l) (p.setLease { l with held := i, call := c }) :=
  .changed (holdings_leased (leases_perm hn hl)) (holdings_leased (setLease_perm hn hl rfl)) hid
    hd h

/-- An instance that comes back leaves the others where they are. -/
theorem alters_giveBack (hn : WellNumbered p) {l : Lease} (hl : p.lease? l.number = some l)
    {i : Instance} (hid : i.id = l.held.id) {d : Deed σ} (hd : a.deed w = some d)
    (h : (Holding.leased l).situation.after d = some (.pending i)) :
    Alters w p a (.leased l) (p.giveBack { l with held := i, call := none }).1 :=
  .changed (holdings_leased (leases_perm hn hl))
    (holdings_returning (List.perm_append_singleton _ _)) hid hd h

/-- What is made in the place of an instance, or goes on being made. -/
theorem alters_of_bears {rounds : Nat} {r : Restoration} {s : Standing Birth Birth.Result}
    (h : Bears rounds w p r.stage s) {y : Holding} {rest : List Holding}
    (hp : p.holdings.Perm (.returning r :: rest)) (hq : q.holdings.Perm (y :: rest))
    (hid : y.id = if r.stage.holds then p.made + 1 else r.stage.id)
    (hs : Situation.born s = some y.situation) :
    Alters w p (.proceedRestoration rounds r.number) (.returning r) q := by
  obtain ⟨number, id, stage⟩ := r
  cases h with
  | begun hstage v =>
    have hid : y.id = p.made + 1 := hid.trans (if_pos hstage)
    exact .begun rfl hp hq hid v (hid ▸ hs)
  | further x => exact .changed hp hq hid rfl hs

/-- **An act changes the instance that it is about, and nothing else.** -/
theorem perform_alters (hk : Kindred p) (w : World σ) {x : Holding} (hx : a.subject? p = some x) :
    Alters w p a x (a.perform w p) := by
  have hn := hk.numbered
  -- Every act is performed on the lease or the restoration whose number it has.
  cases a with
  | checkout c => cases hx
  | tryCheckout => cases hx
  | pollCheckout ticket => cases hx
  | leaveQueue ticket => cases hx
  | drain deadline => cases hx
  | beginCall lease c entrypoint payload =>
    obtain ⟨l, hl, rfl⟩ := Option.map_eq_some_iff.mp hx
    obtain rfl := lease?_number hl
    simp only [PoolAct.perform, beginCall, hl, afterCall_eq]
    exact alters_setLease hn hl (Call.begin_same ..).id rfl rfl
  | proceedCall rounds lease =>
    obtain ⟨l, hl, rfl⟩ := Option.map_eq_some_iff.mp hx
    obtain rfl := lease?_number hl
    cases hc : l.call with
    | none =>
      have hp := holdings_leased (leases_perm hn hl)
      simp only [PoolAct.perform, proceedCall, hl, hc]
      refine .changed hp hp rfl rfl ?_
      simp only [Holding.situation, hc, Situation.after]
    | some c =>
      simp only [PoolAct.perform, proceedCall, hl, hc, afterCall_eq]
      refine alters_setLease hn hl (Call.proceed_same ..).id rfl ?_
      simp only [Holding.situation, hc, Situation.after]
  | dropCall lease =>
    obtain ⟨l, hl, rfl⟩ := Option.map_eq_some_iff.mp hx
    obtain rfl := lease?_number hl
    simp only [PoolAct.perform, dropCall, hl]
    exact alters_setLease hn hl rfl rfl rfl
  | release lease =>
    obtain ⟨l, hl, rfl⟩ := Option.map_eq_some_iff.mp hx
    obtain rfl := lease?_number hl
    simp only [PoolAct.perform, release, hl]
    exact alters_giveBack hn hl rfl rfl rfl
  | abandon lease =>
    obtain ⟨l, hl, rfl⟩ := Option.map_eq_some_iff.mp hx
    obtain rfl := lease?_number hl
    simp only [PoolAct.perform, abandon, hl]
    exact alters_giveBack hn hl (l.held.id_setState _) rfl rfl
  | abandonForGood lease =>
    obtain ⟨l, hl, rfl⟩ := Option.map_eq_some_iff.mp hx
    obtain rfl := lease?_number hl
    simp only [PoolAct.perform, abandonForGood, hl]
    exact .gone rfl (holdings_leased (leases_perm hn hl))
  | dropRestoration number =>
    obtain ⟨r, hr, rfl⟩ := Option.map_eq_some_iff.mp hx
    obtain rfl := restoration?_number hr
    simp only [PoolAct.perform, dropRestoration, hr]
    exact .gone rfl (holdings_returning (restorations_perm hn hr))
  | proceedRestoration rounds number =>
    obtain ⟨r, hr, rfl⟩ := Option.map_eq_some_iff.mp hx
    obtain rfl := restoration?_number hr
    have hp := holdings_returning (restorations_perm hn hr)
    have hb : r.stage.body.Of p.blueprint := hk.bodies _ (hp.mem_iff.mpr List.mem_cons_self)
    have hturn : Restores rounds w p r (p.proceedRestoration rounds w r.number).2.1
        (p.proceedRestoration rounds w r.number).2.2.result? := proceedRestoration_restores hr
    show Alters w p _ _ (p.proceedRestoration rounds w r.number).2.1
    generalize (p.proceedRestoration rounds w r.number).2.1 = q at hturn
    generalize (p.proceedRestoration rounds w r.number).2.2.result? = o at hturn
    cases hturn with
    | tidying h hs =>
      exact .changed hp (holdings_returning (setRestoration_perm hn hr _)) h.same.1 rfl
        (h.after.trans (Situation.tidied_of_work? hs))
    | @kept i h ho =>
      have hid : (i.setState .idle).id = r.stage.id := (i.id_setState .idle).trans h.same.1
      exact .changed hp (.refl _) hid rfl h.after
    | discarded hc => exact .gone rfl hp
    | replacing h hs =>
      exact alters_of_bears h hp (holdings_returning (setRestoration_perm hn hr _))
        (Birth.of_work? (h.of hb) hs).1 (Situation.born_of_work? hs)
    | replaced h ho => exact alters_of_bears h hp (.refl _) (h.of hb).1 rfl
    | lost h => exact .gone rfl hp

/-! ## Acts that are about none -/

/-- **What an act does that is about no instance**: nothing, or one that was idle is leased, or all
that are idle are drained. -/
inductive Spares (p q : Pool) : Prop
  | still (h : q.holdings = p.holdings) (hl : q.leases = p.leases)
  | lent {i : Instance} {l : Lease} {rest : List Holding} (hp : p.holdings.Perm (.idle i :: rest))
      (hq : q.holdings.Perm (.leased l :: rest)) (hl : q.leases = p.leases ++ [l])
      (hheld : l.held = i.setState .leased) (hcall : l.call = none)
  | drained (h : p.holdings = p.idle.map .idle ++ q.holdings) (hl : q.leases = p.leases)

theorem Moves.spares (hm : Moves w p a q) (h : a.subject? p = none) : Spares p q := by
  cases hm with
  | still hq => exact .still rfl rfl
  | queued hq hx hg => exact .still rfl rfl
  | unqueued hq hx => exact .still rfl rfl
  | starved hq hp hi => exact .still rfl rfl
  | @lent a hq ps hps ho i rest hi =>
    exact .lent (.of_eq (holdings_idle hi)) (holdings_leased (List.perm_append_singleton _ _)) rfl
      rfl rfl
  | called hq hl hc => cases hc <;> simp [PoolAct.subject?, hl] at h
  | returned hl => simp [PoolAct.subject?, hl] at h
  | abandoned hl => simp [PoolAct.subject?, hl] at h
  | forsaken hl => simp [PoolAct.subject?, hl] at h
  | restored hr hR ho => simp [PoolAct.subject?, hr] at h
  | interrupted hr => simp [PoolAct.subject?, hr] at h
  | closed deadline => exact .still rfl rfl
  | emptied deadline => exact .drained (List.append_assoc _ _ _) rfl

/-! ## Numbers -/

theorem Kindred.id_ne_head (hk : Kindred p) {x y : Holding} {rest : List Holding}
    (hp : p.holdings.Perm (x :: rest)) (hy : y ∈ rest) : y.id ≠ x.id :=
  have hp : p.holdings.Perm ([x] ++ rest) := hp
  hk.id_ne hp (List.mem_singleton_self x) hy

theorem Kindred.eq_of_id (hk : Kindred p) {x y : Holding} (hx : x ∈ p.holdings)
    (hy : y ∈ p.holdings) (h : y.id = x.id) : y = x :=
  Numbered.eq_of_number hk.ids.1 hx hy h

/-- No number is taken back. -/
theorem Shifts.made_le (h : Shifts w p a q) : p.made ≤ q.made := by
  cases h with
  | left gone hp hmade hr => exact hmade
  | changed hp hq hb hmade => omega

/-- **An instance that is gone never comes back**, and neither does one that could not be made. -/
theorem Kindred.gone_run (hk : Kindred p) {n : Nat} (hn : n ≤ p.made)
    (hgone : ∀ x ∈ p.holdings, x.id ≠ n) (ms : List (Moment σ)) :
    ∀ x ∈ (p.run ms).holdings, x.id ≠ n := by
  have hall : Kindred (p.run ms) ∧ n ≤ (p.run ms).made ∧ ∀ x ∈ (p.run ms).holdings, x.id ≠ n := by
    refine run_induction (I := fun q => Kindred q ∧ n ≤ q.made ∧ ∀ x ∈ q.holdings, x.id ≠ n)
      ⟨hk, hn, hgone⟩ (fun q m ⟨hk, hn, hgone⟩ => ?_) ms
    have hm := perform_moves m.world q m.act
    have hshifts := hm.shifts hk.numbered
    refine ⟨hk.moves hm, Nat.le_trans hn hshifts.made_le, hshifts.all hgone fun x hx y k hb => ?_⟩
    -- It keeps its number, or has the next one, which nobody had.
    rcases (hb.of (hk.bodies x hx)).2 with ⟨-, hid⟩ | ⟨-, hid⟩
    · exact hid ▸ hgone x hx
    · omega
  exact hall.2.2

/-! ## Lives -/

theorem Kindred.mem_of_subject (hk : Kindred p) (w : World σ) {x : Holding}
    (hx : a.subject? p = some x) : x ∈ p.holdings := by
  cases perform_alters hk w hx with
  | gone ha h => exact h.mem_iff.mpr List.mem_cons_self
  | changed hp hq hid hd h => exact hp.mem_iff.mpr List.mem_cons_self
  | begun ha hp hq hid v h => exact hp.mem_iff.mpr List.mem_cons_self

/-- **An act changes no instance but the one that it is about.** -/
theorem mem_perform_of_subject (hk : Kindred p) (w : World σ) {x y : Holding}
    (hx : a.subject? p = some x) (hy : y ∈ p.holdings) (hid : y.id ≠ x.id) :
    y ∈ (a.perform w p).holdings := by
  have hne : y ≠ x := fun h => hid (congrArg Holding.id h)
  cases perform_alters hk w hx with
  | gone ha h => exact (List.mem_cons.mp (h.mem_iff.mp hy)).resolve_left hne
  | changed hp hq hid hd h =>
    exact hq.mem_iff.mpr
      (List.mem_cons_of_mem _ ((List.mem_cons.mp (hp.mem_iff.mp hy)).resolve_left hne))
  | begun ha hp hq hid v h =>
    exact hq.mem_iff.mpr
      (List.mem_cons_of_mem _ ((List.mem_cons.mp (hp.mem_iff.mp hy)).resolve_left hne))

/-- An instance that is idle and one that is leased are two. -/
theorem Kindred.lends_eq_false (hk : Kindred p) {n : Nat}
    (h : ∀ l ∈ (a.perform w p).leases, l.held.id = n → l ∈ p.leases) : a.lends w p n = false := by
  refine Bool.eq_false_iff.mpr fun hlends => ?_
  obtain ⟨hidle, hleased⟩ := Bool.and_eq_true_iff.mp hlends
  obtain ⟨i, hi, hin⟩ := List.any_eq_true.mp hidle
  obtain ⟨l, hl, hln⟩ := List.any_eq_true.mp hleased
  have hin : i.id = n := by simpa using hin
  have hln : l.held.id = n := by simpa using hln
  cases hk.eq_of_id (mem_holdings_idle.mpr hi) (mem_holdings_leased.mpr (h l hl hln))
    (hln.trans hin.symm)

/-- An instance that no deed is done to stays as it is. -/
theorem live_of_deed?_eq_none (hk : Kindred p) {x y : Holding} (hx : x ∈ p.holdings)
    (hy : y ∈ p.holdings) (hid : y.id = x.id) (hd : a.deed? w p x.id = none) :
    x.situation.live (a.deed? w p x.id).toList = some y.situation := by
  rw [hd, hk.eq_of_id hx hy hid]
  rfl

theorem live_of_subject (hk : Kindred p) (w : World σ) {x y z : Holding}
    (hs : a.subject? p = some z) (hx : x ∈ p.holdings) (hy : y ∈ (a.perform w p).holdings)
    (hid : y.id = x.id) : x.situation.live (a.deed? w p x.id).toList = some y.situation := by
  have hdeed : a.deed? w p x.id = if z.id = x.id then a.deed w else none := by
    rw [PoolAct.deed?, hs]
  have hother {rest : List Holding} (hp : p.holdings.Perm (z :: rest)) (hy : y ∈ rest) :
      x.situation.live (a.deed? w p x.id).toList = some y.situation := by
    have hne : y.id ≠ z.id := hk.id_ne_head hp hy
    refine live_of_deed?_eq_none hk hx (hp.mem_iff.mpr (List.mem_cons_of_mem z hy)) hid ?_
    rw [hdeed, if_neg fun h => hne (hid.trans h.symm)]
  cases perform_alters hk w hs with
  | gone ha h => exact hother h hy
  | @changed y' rest hp hq hid' d hd h =>
    rcases List.mem_cons.mp (hq.mem_iff.mp hy) with rfl | hy
    · obtain rfl : x = z := hk.eq_of_id (hp.mem_iff.mpr List.mem_cons_self) hx (hid.symm.trans hid')
      rw [hdeed, if_pos rfl, hd]
      show (x.situation.after d).bind some = _
      rw [h]
      rfl
    · exact hother hp hy
  | @begun y' rest ha hp hq hid' v h =>
    rcases List.mem_cons.mp (hq.mem_iff.mp hy) with rfl | hy
    -- What is begun has a number that no instance had before.
    · have hle := hk.id_le hx
      omega
    · exact hother hp hy

theorem live_of_no_subject (hk : Kindred p) (w : World σ) {x y : Holding}
    (hs : a.subject? p = none) (hx : x ∈ p.holdings) (hy : y ∈ (a.perform w p).holdings)
    (hid : y.id = x.id) : x.situation.live (a.deed? w p x.id).toList = some y.situation := by
  have hdeed : a.deed? w p x.id = if a.lends w p x.id then some .lent else none := by
    rw [PoolAct.deed?, hs]
  -- Unless it is lent, the instance is where it was.
  have hother (hl : ∀ l ∈ (a.perform w p).leases, l.held.id = x.id → l ∈ p.leases)
      (hy : y ∈ p.holdings) : x.situation.live (a.deed? w p x.id).toList = some y.situation := by
    refine live_of_deed?_eq_none hk hx hy hid ?_
    rw [hdeed, hk.lends_eq_false hl]
    rfl
  cases (perform_moves w p a).spares hs with
  | still h hl => exact hother (fun l h _ => hl ▸ h) (h ▸ hy)
  | drained h hl => exact hother (fun l h _ => hl ▸ h) (h ▸ List.mem_append_right _ hy)
  | @lent i l rest hp hq hl hheld hcall =>
    have hlid : l.held.id = i.id := hheld ▸ i.id_setState .leased
    rcases List.mem_cons.mp (hq.mem_iff.mp hy) with rfl | hy
    · have hi : .idle i ∈ p.holdings := hp.mem_iff.mpr List.mem_cons_self
      obtain rfl : x = .idle i := hk.eq_of_id hi hx (hid.symm.trans hlid)
      have hlends : a.lends w p i.id = true := by
        have hmem : l ∈ (a.perform w p).leases := hl ▸ List.mem_append_right _ List.mem_cons_self
        exact Bool.and_eq_true_iff.mpr
          ⟨List.any_eq_true.mpr ⟨i, mem_holdings_idle.mp hi, decide_eq_true rfl⟩,
            List.any_eq_true.mpr ⟨l, hmem, decide_eq_true hlid⟩⟩
      have hleased : (Holding.leased l).situation = .leased (i.setState .leased) none := by
        rw [Holding.situation, hheld, hcall]
      rw [hdeed, Holding.id, hlends, hleased]
      rfl
    · have hne : y.id ≠ i.id := hk.id_ne_head hp hy
      -- The only new lease holds another instance.
      refine hother (fun l' hl' hid' => ?_) (hp.mem_iff.mpr (List.mem_cons_of_mem _ hy))
      rcases List.mem_append.mp (hl ▸ hl') with h | h
      · exact h
      · obtain rfl := List.mem_singleton.mp h
        exact absurd (hid.trans (hid'.symm.trans hlid)) hne

/-- **What an act makes of an instance** is what its deed makes of it. -/
theorem live_perform (hk : Kindred p) (w : World σ) (a : PoolAct) {x y : Holding}
    (hx : x ∈ p.holdings) (hy : y ∈ (a.perform w p).holdings) (hid : y.id = x.id) :
    x.situation.live (a.deed? w p x.id).toList = some y.situation := by
  cases hs : a.subject? p with
  | some z => exact live_of_subject hk w hs hx hy hid
  | none => exact live_of_no_subject hk w hs hx hy hid

/-- **What a run makes of an instance** is what its deeds make of it. -/
theorem live_run (hk : Kindred p) (ms : List (Moment σ)) {x y : Holding} (hx : x ∈ p.holdings)
    (hy : y ∈ (p.run ms).holdings) (hid : y.id = x.id) :
    x.situation.live (p.deeds x.id ms) = some y.situation := by
  induction ms generalizing p x with
  | nil =>
    obtain rfl := hk.eq_of_id hx hy hid
    rfl
  | cons m ms ih =>
    have hm := perform_moves m.world p m.act
    -- The instance is there after the first act, too: else it would not be there in the end.
    have hle : x.id ≤ (m.act.perform m.world p).made :=
      Nat.le_trans (hk.id_le hx) (hm.shifts hk.numbered).made_le
    obtain ⟨z, hz, hzid⟩ : ∃ z ∈ (m.act.perform m.world p).holdings, z.id = x.id :=
      Classical.byContradiction fun hgone =>
        (hk.moves hm).gone_run hle (fun z hz he => hgone ⟨z, hz, he⟩) ms y hy hid
    have hfirst := live_perform hk m.world m.act hx hz hzid
    have hrest := ih (hk.moves hm) hz hy (hid.trans hzid.symm)
    rw [deeds, Situation.live, List.foldlM_append]
    show (x.situation.live (m.act.deed? m.world p x.id).toList).bind _ = _
    rw [hfirst, ← hzid]
    exact hrest

/-- **What an act begins** is as it is begun from the blueprint of the pool, under the next
number. -/
theorem born_perform (hk : Kindred p) (w : World σ) (a : PoolAct) {y : Holding}
    (hy : y ∈ (a.perform w p).holdings) (hnew : ∀ x ∈ p.holdings, x.id ≠ y.id) :
    y.id = p.made + 1 ∧
      ∃ v : World σ, Situation.born (Birth.begin v p.blueprint y.id).2 = some y.situation := by
  have hold {rest : List Holding} {x : Holding} (hp : p.holdings.Perm (x :: rest)) (hy : y ∈ rest) :
      y.id = p.made + 1 ∧
        ∃ v : World σ, Situation.born (Birth.begin v p.blueprint y.id).2 = some y.situation :=
    absurd rfl (hnew y (hp.mem_iff.mpr (List.mem_cons_of_mem x hy)))
  cases hs : a.subject? p with
  | some z =>
    cases perform_alters hk w hs with
    | gone ha h => exact hold h hy
    | changed hp hq hid hd h =>
      rcases List.mem_cons.mp (hq.mem_iff.mp hy) with rfl | hy
      · exact absurd hid.symm (hnew z (hp.mem_iff.mpr List.mem_cons_self))
      · exact hold hp hy
    | begun ha hp hq hid v h =>
      rcases List.mem_cons.mp (hq.mem_iff.mp hy) with rfl | hy
      · exact ⟨hid, v, h⟩
      · exact hold hp hy
  | none =>
    cases (perform_moves w p a).spares hs with
    | still h hl => exact absurd rfl (hnew y (h ▸ hy))
    | drained h hl => exact absurd rfl (hnew y (h ▸ List.mem_append_right _ hy))
    | @lent i l rest hp hq hl hheld hcall =>
      rcases List.mem_cons.mp (hq.mem_iff.mp hy) with rfl | hy
      · have hi := hnew _ (hp.mem_iff.mpr List.mem_cons_self)
        exact absurd (hheld ▸ i.id_setState .leased).symm hi
      · exact hold hp hy

/-- **Each instance lives for itself.**  At every moment of a run of a filled pool, whatever its
tasks do in whatever order, its instances have different numbers, and the number of one that is gone
or could not be made never comes up again.  An act that is about one instance leaves every other one
exactly as it is.  What is begun is begun from the blueprint with a number of its own; and from then
on, or from the filling of the pool on, what becomes of an instance is what its own deeds make of
it, one after another. -/
theorem each_lives_for_itself {b : Blueprint} {size : Nat} {timeout : Option Nat}
    (hp : Filled σ b size timeout p) (ms : List (Moment σ)) :
    let q := p.run ms
    ((q.holdings.map Holding.id).Nodup ∧ ∀ x ∈ q.holdings, x.id ≤ q.made) ∧
    (∀ n ≤ q.made, (∀ x ∈ q.holdings, x.id ≠ n) →
      ∀ ms' : List (Moment σ), ∀ x ∈ (q.run ms').holdings, x.id ≠ n) ∧
    (∀ (m : Moment σ) x, m.act.subject? q = some x →
      ∀ y ∈ q.holdings, y.id ≠ x.id → y ∈ (m.act.perform m.world q).holdings) ∧
    (∀ m : Moment σ, ∀ y ∈ (m.act.perform m.world q).holdings, (∀ x ∈ q.holdings, x.id ≠ y.id) →
      y.id = q.made + 1 ∧
        ∃ v : World σ, Situation.born (Birth.begin v q.blueprint y.id).2 = some y.situation) ∧
    (∀ (ms' : List (Moment σ)), ∀ x ∈ q.holdings, ∀ y ∈ (q.run ms').holdings, y.id = x.id →
      x.situation.live (q.deeds x.id ms') = some y.situation) := by
  intro q
  have hk : Kindred q := (kindred_of_filled hp).run ms
  exact ⟨⟨hk.ids.1, fun x => hk.id_le⟩, fun n => hk.gone_run,
    fun m x hx y => mem_perform_of_subject hk m.world hx,
    fun m y => born_perform hk m.world m.act, fun ms' x hx y => live_run hk ms' hx⟩

/-- A pool of two whose guests have nothing to do. -/
def pair : Pool :=
  match Filling.turns .plain 2 none World.silent [] with
  | .ended (.ok p) => p
  | _ => default

/-- Both instances of a pool are leased and one is given back: the other one was only leased. -/
theorem pair_lives :
    let ms : List (Moment Unit) :=
      [⟨.silent, .tryCheckout⟩, ⟨.silent, .tryCheckout⟩, ⟨.silent, .release 0⟩]
    ∃ x ∈ pair.holdings, ∃ y ∈ (pair.run ms).holdings, y.id = x.id ∧
      (pair.deeds x.id ms).length = 1 ∧
        x.situation.live (pair.deeds x.id ms) = some y.situation := by
  intro ms
  have hp : Filled Unit .plain 2 none pair := ⟨.silent, [], rfl⟩
  let x := pair.holdings.get ⟨1, by decide +kernel⟩
  let y := (pair.run ms).holdings.get ⟨0, by decide +kernel⟩
  have hx : x ∈ pair.holdings := List.get_mem _ _
  have hy : y ∈ (pair.run ms).holdings := List.get_mem _ _
  have hid : y.id = x.id := by decide +kernel
  exact ⟨x, hx, y, hy, hid, by decide +kernel,
    (each_lives_for_itself hp []).2.2.2.2 ms x hx y hy hid⟩

end Pool
end FunctionHost

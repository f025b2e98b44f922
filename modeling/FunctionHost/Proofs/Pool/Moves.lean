import FunctionHost.Proofs.Pool.Permits
import FunctionHost.Proofs.Pool.Run

/-!
# What an act can do to a pool

`Moves w p a q` lists the ways in which an act `a` takes a pool `p` to `q`, and `perform_moves` says
that there are no others.  A turn of a restoration has ways of its own (`Restores`), which depend on
how far tidying up (`Tidies`) or the making of a replacement (`Bears`) came in that turn.

Whatever is to be shown of every run is shown of these cases.
-/
namespace FunctionHost

variable {σ : Type}

/-- Somebody comes by a permit: one that nobody has, or one that was granted to them. -/
inductive Permits.Obtained (p : Permits) : Permits → Prop
  | free {q : Permits} (h : p.take? = some q) : Obtained p q
  | granted {w : Waiter} (hw : w ∈ p.waiters) (hg : w.granted = true) :
      Obtained p (p.remove w.ticket)

/-! ## Restorations -/

/-- **A turn of tidying up**: the instance afterwards, and how tidying up stands. -/
inductive Tidies (rounds : Nat) (w : World σ) :
    RestorationStage → Instance → Standing Reset Reset.Result → Prop
  | begun {i j : Instance} {v : World σ} {s : Standing Reset Reset.Result}
      (hi : i.isFaulted = false) (h : Reset.begin w i = (v, j, s)) :
      Tidies rounds w (.pending i) j s
  | further {i j : Instance} {x : Reset} {v : World σ} {s : Standing Reset Reset.Result}
      (h : Reset.proceed rounds w i x = (v, j, s)) : Tidies rounds w (.resetting i x) j s

theorem Tidies.holds {rounds : Nat} {stage : RestorationStage} {i : Instance}
    {s : Standing Reset Reset.Result} (h : Tidies rounds w stage i s) : stage.holds = true := by
  cases h <;> rfl

/-- **A turn of making a replacement**, which begins when the instance that came back is gone. -/
inductive Bears (rounds : Nat) (w : World σ) (p : Pool) :
    RestorationStage → Standing Birth Birth.Result → Prop
  | begun {stage : RestorationStage} (hs : stage.holds = true) (v : World σ) :
      Bears rounds w p stage (Birth.begin v p.blueprint (p.made + 1)).2
  | further (x : Birth) : Bears rounds w p (.replacing x) (Birth.proceed rounds w x).2

namespace Pool

/-- The pool without an instance that came back and is to be replaced. -/
def parted (p : Pool) (stage : RestorationStage) : Pool :=
  { p with
    destroyed := p.destroyed + stage.holds.toNat
    made := p.made + stage.holds.toNat }

/-- **A turn of a restoration**: the pool afterwards, and what became of the instance if that is
decided. -/
inductive Restores (rounds : Nat) (w : World σ) (p : Pool) (r : Restoration) :
    Pool → Option Restored → Prop
  | tidying {i : Instance} {s : Standing Reset Reset.Result} {x : Reset}
      (h : Tidies rounds w r.stage i s) (hx : s.work? = some x) :
      Restores rounds w p r (p.setRestoration { r with stage := .resetting i x }) none
  | kept {i : Instance} (h : Tidies rounds w r.stage i (.ended (.ok ()))) (ho : p.closed = false) :
      Restores rounds w p r (p.keep r (i.setState .idle)) (some (.kept (i.setState .idle)))
  | discarded (hc : p.closed = true) :
      Restores rounds w p r ({ p with destroyed := p.destroyed + 1 }.settled r) (some .discarded)
  | replacing {s : Standing Birth Birth.Result} {x : Birth}
      (h : Bears rounds w p r.stage s) (hx : s.work? = some x) :
      Restores rounds w p r
        ((p.parted r.stage).setRestoration { r with stage := .replacing x }) none
  | replaced {i : Instance} (h : Bears rounds w p r.stage (.ended (.ok i)))
      (ho : p.closed = false) :
      Restores rounds w p r
        ({ p.parted r.stage with replaced := (p.parted r.stage).replaced + 1 }.keep r i)
        (some (.replaced i))
  | lost {e : HostError} (h : Bears rounds w p r.stage (.ended (.error e))) :
      Restores rounds w p r
        (({ p.parted r.stage with
            capacity := (p.parted r.stage).capacity - 1 }.removeRestoration r.number).finishReturn)
        (some (.lost e))

variable {rounds : Nat} {w v : World σ} {p : Pool} {r : Restoration}

/-- What follows a turn of making a replacement. -/
theorem restores_of_bears {s : Standing Birth Birth.Result}
    (h : Bears rounds w p r.stage s) (hc : r.stage.holds = true → p.closed = false) :
    Restores rounds w p r (afterBirth v (p.parted r.stage) r s).2.1
      (afterBirth v (p.parted r.stage) r s).2.2.result? := by
  match s with
  | .busy x | .blocked x => exact .replacing h rfl
  | .ended (.error e) => exact .lost h
  | .ended (.ok i) =>
    cases ho : p.closed with
    | false =>
      have hq : (p.parted r.stage).closed = false := ho
      rw [afterBirth, hq]
      exact .replaced h ho
    | true =>
      -- Only a replacement begun before the pool was closed comes too late.
      have hs : r.stage.holds = false :=
        Bool.eq_false_iff.mpr fun hs => by rw [hc hs] at ho; cases ho
      have hq : p.parted r.stage = p := by rw [parted, hs]; rfl
      rw [hq, afterBirth, ho]
      exact .discarded ho

/-- What follows once the instance is to be destroyed. -/
theorem restores_replace (hs : r.stage.holds = true) :
    Restores rounds w p r (replace v p r).2.1 (replace v p r).2.2.result? := by
  have hq : p.parted r.stage =
      { p with destroyed := p.destroyed + 1, made := p.made + 1 } := by rw [parted, hs]; rfl
  cases ho : p.closed with
  | true =>
    have hc : ({ p with destroyed := p.destroyed + 1 } : Pool).closed = true := ho
    simp only [replace, hc, if_true]
    exact .discarded ho
  | false =>
    have hc : ({ p with destroyed := p.destroyed + 1 } : Pool).closed = false := ho
    simp only [replace, hc, Bool.false_eq_true, if_false]
    rw [← hq]
    exact restores_of_bears (.begun hs _) fun _ => ho

/-- What follows a turn of tidying up. -/
theorem restores_of_tidies {i : Instance} {s : Standing Reset Reset.Result}
    (hs : r.stage.holds = true) (h : Tidies rounds w r.stage i s) :
    Restores rounds w p r (afterReset v p r i s).2.1 (afterReset v p r i s).2.2.result? := by
  match s with
  | .busy x | .blocked x => exact .tidying h rfl
  | .ended (.error e) => exact restores_replace hs
  | .ended (.ok ()) =>
    cases ho : p.closed with
    | true => rw [afterReset, ho]; exact restores_replace hs
    | false => rw [afterReset, ho]; exact .kept h ho

/-- **A turn of a restoration goes one of the ways of `Restores`.** -/
theorem proceedRestoration_restores {number : Nat} (hr : p.restoration? number = some r) :
    Restores rounds w p r (p.proceedRestoration rounds w number).2.1
      (p.proceedRestoration rounds w number).2.2.result? := by
  unfold proceedRestoration
  rw [hr]
  obtain ⟨n, id, stage⟩ := r
  cases stage with
  | pending i =>
    simp only [startRestoration]
    cases hi : i.isFaulted with
    | true => exact restores_replace rfl
    | false => exact restores_of_tidies rfl (.begun hi rfl)
  | resetting i x => exact restores_of_tidies rfl (.further rfl)
  | replacing x =>
    have h : Bears rounds w p (.replacing x) (Birth.proceed rounds w x).2 := .further x
    exact restores_of_bears (r := ⟨n, id, .replacing x⟩) h fun hs => by cases hs

end Pool

/-! ## Calls -/

/-- **A turn of a call**: the lease afterwards. -/
inductive Calls (w : World σ) (l : Lease) : PoolAct → Lease → Prop
  | begun {context : Context} {entrypoint : String} {payload : Bytes} {v : World σ} {i : Instance}
      {s : Standing Call Call.Result}
      (h : Call.begin w l.held context entrypoint payload = (v, i, s)) :
      Calls w l (.beginCall l.number context entrypoint payload)
        { l with held := i, call := s.work? }
  | further {rounds : Nat} {c : Call} {v : World σ} {i : Instance} {s : Standing Call Call.Result}
      (hc : l.call = some c) (h : Call.proceed rounds w l.held c = (v, i, s)) :
      Calls w l (.proceedCall rounds l.number) { l with held := i, call := s.work? }
  | dropped : Calls w l (.dropCall l.number) { l with call := none }

theorem Calls.number {w : World σ} {l l' : Lease} {a : PoolAct} (h : Calls w l a l') :
    l'.number = l.number := by
  cases h <;> rfl

/-! ## All acts -/

/-- A quiet act ends no restoration, breaks none off and gives no instance up for good. -/
structure PoolAct.Quiet (w : World σ) (p : Pool) (a : PoolAct) : Prop where
  restored : a.restored? w p = none
  interrupts : a.interrupts p = false
  forsakes : a.forsakes p = false

namespace PoolAct.Quiet

variable {w : World σ} {p : Pool} {a : PoolAct}

theorem fails (h : a.Quiet w p) : a.fails w p = false := by
  rw [PoolAct.fails, h.restored]; rfl

theorem vanishes (h : a.Quiet w p) : a.vanishes p = false := by
  have hi := h.interrupts
  cases a with
  | dropRestoration number =>
    simp only [PoolAct.interrupts, Option.isSome_eq_false_iff, Option.isNone_iff_eq_none] at hi
    rw [PoolAct.vanishes, hi]; rfl
  | _ => rfl

end PoolAct.Quiet

/-- A silent act runs no guest code, either. -/
structure PoolAct.Silent (w : World σ) (p : Pool) (a : PoolAct) : Prop extends a.Quiet w p where
  runs : a.runs? p = none

namespace Pool

/-- **What an act can do to a pool.** -/
inductive Moves (w : World σ) (p : Pool) : PoolAct → Pool → Prop
  | still {a : PoolAct} (hq : a.Silent w p) : Moves w p a p
  | queued {c : Context} (hq : (PoolAct.checkout c).Silent w p) {x : Waiter}
      (hx : x.ticket = p.nextNumber) (hg : x.granted = false) (hf : p.permits.take? = none)
      (hb : (p.checkout w c).2.2 = .blocked p.nextNumber) :
      Moves w p (.checkout c) { p with permits := p.permits.enqueue x, nextNumber := p.nextNumber + 1 }
  | unqueued {a : PoolAct} (hq : a.Silent w p) {x : Waiter} (hx : x ∈ p.permits.waiters) :
      Moves w p a { p with permits := p.permits.withdraw x }
  | starved {a : PoolAct} (hq : a.Silent w p) {q : Permits} (h : p.permits.Obtained q)
      (hi : p.idle = []) : Moves w p a { p with permits := q.release }
  | lent {a : PoolAct} (hq : a.Silent w p) {q : Permits} (h : p.permits.Obtained q)
      (ho : p.closed = false) {i : Instance} {rest : List Instance} (hi : p.idle = i :: rest) :
      Moves w p a { p with
        permits := q
        idle := rest
        leases := p.leases ++ [{ number := p.nextNumber, held := i.setState .leased }]
        nextNumber := p.nextNumber + 1
        leased := p.leased + 1 }
  | called {a : PoolAct} (hq : a.Quiet w p) {l l' : Lease} (hl : p.lease? l.number = some l)
      (h : Calls w l a l') : Moves w p a (p.setLease l')
  | returned {l : Lease} (hl : p.lease? l.number = some l) :
      Moves w p (.release l.number) (p.giveBack { l with call := none }).1
  | abandoned {l : Lease} (hl : p.lease? l.number = some l) :
      Moves w p (.abandon l.number)
        (p.giveBack { l with held := l.held.setState .faulted, call := none }).1
  | forsaken {l : Lease} (hl : p.lease? l.number = some l) :
      Moves w p (.abandonForGood l.number)
        { p.removeLease l.number with
          destroyed := p.destroyed + 1
          capacity := p.capacity - 1
          leased := p.leased - 1
          returned := p.returned + 1 }
  | restored {rounds : Nat} {r : Restoration} {q : Pool} {o : Option Restored}
      (hr : p.restoration? r.number = some r) (h : Restores rounds w p r q o)
      (ho : (PoolAct.proceedRestoration rounds r.number).restored? w p = o) :
      Moves w p (.proceedRestoration rounds r.number) q
  | interrupted {r : Restoration} (hr : p.restoration? r.number = some r) :
      Moves w p (.dropRestoration r.number) (p.removeRestoration r.number).releasePermit
  | closed (deadline : Option Nat) : Moves w p (.drain deadline) p.close
  | emptied (deadline : Option Nat) :
      Moves w p (.drain deadline)
        { p.close with idle := [], destroyed := p.destroyed + p.idle.length }

variable {w v : World σ} {p : Pool} {a : PoolAct}

/-- Whoever has come by a permit gets an instance if one is idle. -/
theorem lend_moves (hq : a.Silent w p) {q : Permits} (h : p.permits.Obtained q)
    (ho : p.closed = false) (hc : q.closed = false) :
    Moves w p a (lend v { p with permits := q }).2.1 := by
  have hc : ({ p with permits := q } : Pool).closed = false := hc
  simp only [lend, hc, Bool.false_eq_true, if_false]
  split
  · rename_i hi
    exact .starved hq h hi
  · rename_i i rest hi
    exact .lent hq h ho hi

/-- **What comes of asking for an instance**: a refusal, a permit that nobody has, or a number. -/
inductive Asks (w : World σ) (p : Pool) (c : Context) :
    World σ × Pool × Standing Nat (Except HostError Nat) → Prop
  | refused (hc : p.closed = true) : Asks w p c (w, p, .ended (.error p.closedError))
  | interrupted {why : Interruption} (ho : p.closed = false)
      (hi : (p.bounded w.clock c).interruption w.clock = some why) :
      Asks w p c ((interrupted w p w.clock.now why).1, p,
        .ended (.error (interrupted w p w.clock.now why).2))
  | obtained {q : Permits} (ho : p.closed = false) (hq : p.permits.take? = some q) :
      Asks w p c ((lend w { p with permits := q }).1, (lend w { p with permits := q }).2.1,
        .ended (lend w { p with permits := q }).2.2)
  | blocked (ho : p.closed = false) (hf : p.permits.take? = none) :
      Asks w p c (w, { p with
        permits := p.permits.enqueue
          { ticket := p.nextNumber, context := p.bounded w.clock c, since := w.clock.now }
        nextNumber := p.nextNumber + 1 }, .blocked p.nextNumber)

theorem checkout_asks (w : World σ) (p : Pool) (c : Context) : Asks w p c (p.checkout w c) := by
  unfold checkout
  cases ho : p.closed with
  | true => exact .refused ho
  | false =>
    simp only [Bool.false_eq_true, if_false]
    split
    · rename_i why hi
      exact .interrupted ho hi
    · split
      · rename_i q hq
        exact .obtained ho hq
      · rename_i hf
        exact .blocked ho hf

theorem checkout_moves (c : Context) : Moves w p (.checkout c) (p.checkout w c).2.1 := by
  have hq : (PoolAct.checkout c).Silent w p := ⟨⟨rfl, rfl, rfl⟩, rfl⟩
  have hasks := checkout_asks w p c
  generalize hr : p.checkout w c = r at hasks
  cases hasks with
  | refused hc => exact .still hq
  | interrupted ho hi => exact .still hq
  | obtained ho hp =>
    obtain ⟨hc, -, -, hqc⟩ := Permits.take?_eq_some hp
    exact lend_moves hq (.free hp) ho (hqc.trans hc)
  | blocked ho hf => exact .queued hq rfl rfl hf (congrArg (·.2.2) hr)

theorem tryCheckout_moves : Moves w p .tryCheckout (p.tryCheckout w).2.1 := by
  have hq : PoolAct.tryCheckout.Silent w p := ⟨⟨rfl, rfl, rfl⟩, rfl⟩
  unfold tryCheckout
  cases ho : p.closed with
  | true => exact .still hq
  | false =>
    simp only [Bool.false_eq_true, if_false]
    split
    · rename_i q hp
      obtain ⟨hc, -, -, hqc⟩ := Permits.take?_eq_some hp
      exact lend_moves hq (.free hp) ho (hqc.trans hc)
    · exact .still hq

/-- **What comes of looking whether a wait is over.** -/
inductive Looks (w : World σ) (p : Pool) (ticket : Nat) :
    World σ × Pool × Standing Nat (Except HostError Nat) → Prop
  | gone (hx : p.permits.waiter? ticket = none) :
      Looks w p ticket (w, p, .ended (.error p.closedError))
  | refused {x : Waiter} (hx : p.permits.waiter? ticket = some x) (hc : p.closed = true) :
      Looks w p ticket
        (w, { p with permits := p.permits.withdraw x }, .ended (.error p.closedError))
  | obtained {x : Waiter} (hx : p.permits.waiter? ticket = some x) (ho : p.closed = false)
      (hg : x.granted = true) :
      Looks w p ticket
        ((lend w { p with permits := p.permits.remove ticket }).1,
          (lend w { p with permits := p.permits.remove ticket }).2.1,
          .ended (lend w { p with permits := p.permits.remove ticket }).2.2)
  | interrupted {x : Waiter} {why : Interruption} (hx : p.permits.waiter? ticket = some x)
      (ho : p.closed = false) (hg : x.granted = false)
      (hi : x.context.interruption w.clock = some why) :
      Looks w p ticket
        ((interrupted w p x.since why).1, { p with permits := p.permits.withdraw x },
          .ended (.error (interrupted w p x.since why).2))
  | blocked {x : Waiter} (hx : p.permits.waiter? ticket = some x) (ho : p.closed = false)
      (hg : x.granted = false) (hi : x.context.interruption w.clock = none) :
      Looks w p ticket (w, p, .blocked ticket)

theorem pollCheckout_looks (w : World σ) (p : Pool) (ticket : Nat) :
    Looks w p ticket (p.pollCheckout w ticket) := by
  unfold pollCheckout
  split
  · rename_i hx
    exact .gone hx
  · rename_i x hx
    cases ho : p.closed with
    | true => exact .refused hx ho
    | false =>
      simp only [Bool.false_eq_true, if_false]
      split
      · rename_i hg
        exact .obtained hx ho hg
      · rename_i hg
        have hg : x.granted = false := Bool.eq_false_iff.mpr hg
        split
        · rename_i why hi
          exact .interrupted hx ho hg hi
        · rename_i hi
          exact .blocked hx ho hg hi

theorem pollCheckout_moves (ticket : Nat) :
    Moves w p (.pollCheckout ticket) (p.pollCheckout w ticket).2.1 := by
  have hq : (PoolAct.pollCheckout ticket).Silent w p := ⟨⟨rfl, rfl, rfl⟩, rfl⟩
  have hlooks := pollCheckout_looks w p ticket
  generalize p.pollCheckout w ticket = r at hlooks
  cases hlooks with
  | gone hx => exact .still hq
  | refused hx hc => exact .unqueued hq (Permits.mem_of_waiter? hx).1
  | obtained hx ho hg =>
    obtain ⟨hmem, rfl⟩ := Permits.mem_of_waiter? hx
    exact lend_moves hq (.granted hmem hg) ho ho
  | interrupted hx ho hg hi => exact .unqueued hq (Permits.mem_of_waiter? hx).1
  | blocked hx ho hg hi => exact .still hq

theorem leaveQueue_moves (ticket : Nat) :
    Moves w p (.leaveQueue ticket) (p.leaveQueue ticket) := by
  have hq : (PoolAct.leaveQueue ticket).Silent w p := ⟨⟨rfl, rfl, rfl⟩, rfl⟩
  unfold leaveQueue
  split
  · exact .still hq
  · rename_i x hx
    exact .unqueued hq (Permits.mem_of_waiter? hx).1

theorem lease?_number {n : Nat} {l : Lease} (h : p.lease? n = some l) : l.number = n :=
  (Numbered.mem_of_find? h).2

theorem restoration?_number {n : Nat} {r : Restoration} (h : p.restoration? n = some r) :
    r.number = n :=
  (Numbered.mem_of_find? h).2

theorem afterCall_eq (l : Lease) (i : Instance) (s : Standing Call Call.Result) :
    (p.afterCall l i s).1 = p.setLease { l with held := i, call := s.work? } := by
  cases s <;> rfl

theorem beginCall_moves (lease : Nat) (c : Context) (entrypoint : String) (payload : Bytes) :
    Moves w p (.beginCall lease c entrypoint payload)
      (p.beginCall w lease c entrypoint payload).2.1 := by
  have hq : (PoolAct.beginCall lease c entrypoint payload).Quiet w p := ⟨rfl, rfl, rfl⟩
  unfold beginCall
  split
  · exact .still ⟨hq, rfl⟩
  · rename_i l hl
    obtain rfl := lease?_number hl
    show Moves w p _ (p.afterCall l _ _).1
    rw [afterCall_eq]
    exact .called hq hl (.begun rfl)

theorem proceedCall_moves (rounds lease : Nat) :
    Moves w p (.proceedCall rounds lease) (p.proceedCall rounds w lease).2.1 := by
  have hq : (PoolAct.proceedCall rounds lease).Quiet w p := ⟨rfl, rfl, rfl⟩
  unfold proceedCall
  split
  · rename_i hl
    exact .still ⟨hq, by rw [PoolAct.runs?, hl]; rfl⟩
  · rename_i l hl
    obtain rfl := lease?_number hl
    split
    · rename_i hc
      exact .still ⟨hq, by rw [PoolAct.runs?, hl, Option.bind_some, hc]; rfl⟩
    · rename_i c hc
      show Moves w p _ (p.afterCall l _ _).1
      rw [afterCall_eq]
      exact .called hq hl (.further hc rfl)

theorem dropCall_moves (lease : Nat) : Moves w p (.dropCall lease) (p.dropCall lease) := by
  have hq : (PoolAct.dropCall lease).Quiet w p := ⟨rfl, rfl, rfl⟩
  unfold dropCall
  split
  · exact .still ⟨hq, rfl⟩
  · rename_i l hl
    obtain rfl := lease?_number hl
    exact .called hq hl .dropped

/-- **Every act goes one of the ways of `Moves`.** -/
theorem perform_moves (w : World σ) (p : Pool) (a : PoolAct) : Moves w p a (a.perform w p) := by
  cases a with
  | checkout c => exact checkout_moves c
  | tryCheckout => exact tryCheckout_moves
  | pollCheckout ticket => exact pollCheckout_moves ticket
  | leaveQueue ticket => exact leaveQueue_moves ticket
  | beginCall lease c entrypoint payload => exact beginCall_moves lease c entrypoint payload
  | proceedCall rounds lease => exact proceedCall_moves rounds lease
  | dropCall lease => exact dropCall_moves lease
  | release lease =>
    simp only [PoolAct.perform, release]
    split
    · exact .still ⟨⟨rfl, rfl, rfl⟩, rfl⟩
    · rename_i l hl
      obtain rfl := lease?_number hl
      exact .returned hl
  | abandon lease =>
    simp only [PoolAct.perform, abandon]
    split
    · exact .still ⟨⟨rfl, rfl, rfl⟩, rfl⟩
    · rename_i l hl
      obtain rfl := lease?_number hl
      exact .abandoned hl
  | abandonForGood lease =>
    simp only [PoolAct.perform, abandonForGood]
    split
    · rename_i hl
      exact .still ⟨⟨rfl, rfl, by rw [PoolAct.forsakes, hl]; rfl⟩, rfl⟩
    · rename_i l hl
      obtain rfl := lease?_number hl
      exact .forsaken hl
  | proceedRestoration rounds number =>
    cases hr : p.restoration? number with
    | none =>
      have hstill : (PoolAct.proceedRestoration rounds number).perform w p = p := by
        simp only [PoolAct.perform, proceedRestoration, hr]
      rw [hstill]
      exact .still ⟨⟨by rw [PoolAct.restored?, hr]; rfl, rfl, rfl⟩, by rw [PoolAct.runs?, hr]; rfl⟩
    | some r =>
      obtain rfl := restoration?_number hr
      have ho : (PoolAct.proceedRestoration rounds r.number).restored? w p =
          (p.proceedRestoration rounds w r.number).2.2.result? := by
        rw [PoolAct.restored?, hr]; rfl
      exact .restored hr (proceedRestoration_restores hr) ho
  | dropRestoration number =>
    simp only [PoolAct.perform, dropRestoration]
    split
    · rename_i hr
      exact .still ⟨⟨rfl, by rw [PoolAct.interrupts, hr]; rfl, rfl⟩, rfl⟩
    · rename_i r hr
      obtain rfl := restoration?_number hr
      exact .interrupted hr
  | drain deadline =>
    simp only [PoolAct.perform, pollDrain]
    split
    · exact .emptied deadline
    · exact .closed deadline

end Pool
end FunctionHost

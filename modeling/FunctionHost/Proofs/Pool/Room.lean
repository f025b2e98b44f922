import FunctionHost.Proofs.Guest.Room
import FunctionHost.Proofs.Pool.Custody

/-!
# The places that a pool takes

Every instance of a pool takes one place, whether it is idle, leased or being restored.  An act on
the pool changes how many places are taken by as much as it changes the instances of the pool
(`trades_perform`): an instance that is destroyed gives its place back before another one takes one,
and nothing is left behind where the other one cannot be made.
-/
namespace FunctionHost

variable {σ : Type}

/-- The world after an act on a pool. -/
def PoolAct.world (w : World σ) (p : Pool) : PoolAct → World σ
  | .checkout c => (p.checkout w c).1
  | .tryCheckout => (p.tryCheckout w).1
  | .pollCheckout ticket => (p.pollCheckout w ticket).1
  | .leaveQueue _ | .dropCall _ | .release _ => w
  | .beginCall lease c entrypoint payload => (p.beginCall w lease c entrypoint payload).1
  | .proceedCall rounds lease => (p.proceedCall rounds w lease).1
  | .abandon lease => (p.abandon w lease).1
  | .abandonForGood lease => (p.abandonForGood w lease).1
  | .proceedRestoration rounds number => (p.proceedRestoration rounds w number).1
  | .dropRestoration number => (p.dropRestoration w number).1
  | .drain deadline => (p.close.pollDrain w deadline).1

namespace Pool

variable {w : World σ} {p : Pool}

/-- **How many instances there are**: the idle ones, the leased ones and those being restored. -/
@[simp] theorem length_holdings (p : Pool) :
    p.holdings.length = p.idle.length + p.leases.length + p.restorations.length := by
  simp [holdings, Nat.add_assoc]

/-! ## Lending and calling -/

theorem trades_lend (w : World σ) (p : Pool) :
    w.Trades p.holdings.length (lend w p).1 (lend w p).2.1.holdings.length := by
  unfold lend
  split
  · exact .of_slots rfl
  · split
    · exact .of_slots rfl
    · rename_i i rest hi
      refine .of_eq rfl ?_
      simp only [length_holdings, hi, List.length_append, List.length_cons, List.length_nil]
      omega

theorem slots_interrupted (since : Nat) (why : Interruption) :
    (interrupted w p since why).1.slots = w.slots := by
  cases why <;> rfl

theorem trades_checkout (w : World σ) (p : Pool) (c : Context) :
    w.Trades p.holdings.length (p.checkout w c).1 (p.checkout w c).2.1.holdings.length := by
  have hasks := checkout_asks w p c
  generalize p.checkout w c = r at hasks
  cases hasks with
  | refused hc => exact .of_slots rfl
  | interrupted ho hi => exact .of_slots (slots_interrupted _ _)
  | @obtained q ho hq => exact trades_lend w { p with permits := q }
  | blocked ho hf => exact .of_slots rfl

theorem trades_tryCheckout (w : World σ) (p : Pool) :
    w.Trades p.holdings.length (p.tryCheckout w).1 (p.tryCheckout w).2.1.holdings.length := by
  unfold tryCheckout
  split
  · exact .of_slots rfl
  · split
    · rename_i q hq
      exact trades_lend w { p with permits := q }
    · exact .of_slots rfl

theorem trades_pollCheckout (w : World σ) (p : Pool) (ticket : Nat) :
    w.Trades p.holdings.length (p.pollCheckout w ticket).1
      (p.pollCheckout w ticket).2.1.holdings.length := by
  have hlooks := pollCheckout_looks w p ticket
  generalize p.pollCheckout w ticket = r at hlooks
  cases hlooks with
  | gone hx => exact .of_slots rfl
  | refused hx hc => exact .of_slots rfl
  | obtained hx ho hg => exact trades_lend w { p with permits := p.permits.remove ticket }
  | interrupted hx ho hg hi => exact .of_slots (slots_interrupted _ _)
  | blocked hx ho hg hi => exact .of_slots rfl

theorem length_setLease (l : Lease) : (p.setLease l).holdings.length = p.holdings.length := by
  simp [setLease]

theorem trades_beginCall (w : World σ) (p : Pool) (lease : Nat) (c : Context) (entrypoint : String)
    (payload : Bytes) :
    w.Trades p.holdings.length (p.beginCall w lease c entrypoint payload).1
      (p.beginCall w lease c entrypoint payload).2.1.holdings.length := by
  unfold beginCall
  split
  · exact .of_slots rfl
  · dsimp only
    rw [afterCall_eq]
    exact .of_eq (Call.begin_slots ..) (length_setLease _)

theorem trades_proceedCall (rounds : Nat) (w : World σ) (p : Pool) (lease : Nat) :
    w.Trades p.holdings.length (p.proceedCall rounds w lease).1
      (p.proceedCall rounds w lease).2.1.holdings.length := by
  unfold proceedCall
  split
  · exact .of_slots rfl
  · split
    · exact .of_slots rfl
    · dsimp only
      rw [afterCall_eq]
      exact .of_eq (Call.proceed_slots ..) (length_setLease _)

/-! ## Giving back -/

theorem length_removeLease (hn : WellNumbered p) {l : Lease} (hl : p.lease? l.number = some l) :
    p.holdings.length = (p.removeLease l.number).holdings.length + 1 := by
  have hlength := (leases_perm hn hl).length_eq
  have hrest : (p.removeLease l.number).restorations = p.restorations ∧
      (p.removeLease l.number).idle = p.idle := ⟨rfl, rfl⟩
  simp only [length_holdings, hrest, hlength, List.length_cons]
  omega

/-- A lease that becomes a restoration is the same instance. -/
theorem length_giveBack (hn : WellNumbered p) {l l' : Lease} (hl : p.lease? l.number = some l)
    (hnumber : l'.number = l.number) :
    (p.giveBack l').1.holdings.length = p.holdings.length := by
  rw [length_removeLease hn hl]
  simp only [giveBack, hnumber, length_holdings, removeLease, List.length_append,
    List.length_singleton]
  omega

theorem length_release (hn : WellNumbered p) (lease : Nat) :
    (p.release lease).1.holdings.length = p.holdings.length := by
  unfold release
  split
  · rfl
  · rename_i l hl
    obtain rfl := lease?_number hl
    exact length_giveBack hn hl rfl

theorem trades_abandon (hn : WellNumbered p) (w : World σ) (lease : Nat) :
    w.Trades p.holdings.length (p.abandon w lease).1 (p.abandon w lease).2.1.holdings.length := by
  unfold abandon
  split
  · exact .of_slots rfl
  · rename_i l hl
    obtain rfl := lease?_number hl
    exact .of_eq rfl (length_giveBack hn hl rfl)

theorem trades_abandonForGood (hn : WellNumbered p) (w : World σ) (lease : Nat) :
    w.Trades p.holdings.length (p.abandonForGood w lease).1
      (p.abandonForGood w lease).2.holdings.length := by
  unfold abandonForGood
  split
  · exact .of_slots rfl
  · rename_i l hl
    obtain rfl := lease?_number hl
    rw [length_removeLease hn hl]
    exact World.Trades.freeSlot.more _

/-! ## Restoring -/

theorem length_removeRestoration (hn : WellNumbered p) {r : Restoration}
    (hr : p.restoration? r.number = some r) :
    p.holdings.length = (p.removeRestoration r.number).holdings.length + 1 := by
  have hlength := (restorations_perm hn hr).length_eq
  have hrest : (p.removeRestoration r.number).leases = p.leases ∧
      (p.removeRestoration r.number).idle = p.idle := ⟨rfl, rfl⟩
  simp only [length_holdings, hrest, hlength, List.length_cons]
  omega

section

variable {r : Restoration}

theorem length_setRestoration (r : Restoration) :
    (p.setRestoration r).holdings.length = p.holdings.length := by
  simp [setRestoration]

theorem length_keep (i : Instance) :
    (p.keep r i).holdings.length = (p.removeRestoration r.number).holdings.length + 1 := by
  simp only [keep, settled, finishReturn, releasePermit, removeRestoration, length_holdings,
    List.length_cons]
  omega

/-- What follows a turn of making a replacement: all that it takes is the place of the
replacement. -/
theorem trades_afterBirth (h : p.holdings.length =
      (p.removeRestoration r.number).holdings.length + 1) (w : World σ)
    (s : Standing Birth Birth.Result) :
    w.Trades ((p.removeRestoration r.number).holdings.length + Birth.lives s)
      (afterBirth w p r s).1 (afterBirth w p r s).2.1.holdings.length := by
  match s with
  | .busy b | .blocked b => exact .of_eq rfl ((length_setRestoration _).trans h)
  | .ended (.error e) => exact .of_slots rfl
  | .ended (.ok i) =>
    rw [afterBirth]
    split
    · exact World.Trades.freeSlot.more _
    · exact .of_eq rfl (length_keep i)

/-- **An instance that is destroyed** gives its place back before another one takes one. -/
theorem trades_replace (h : p.holdings.length =
      (p.removeRestoration r.number).holdings.length + 1) (w : World σ) :
    w.Trades p.holdings.length (replace w p r).1 (replace w p r).2.1.holdings.length := by
  have hfree : w.Trades p.holdings.length w.freeSlot
      ((p.removeRestoration r.number).holdings.length + 0) := by
    rw [h]
    exact World.Trades.freeSlot.more _
  unfold replace
  dsimp only
  split
  · exact hfree
  · -- The count of those that were made does not matter for what there is.
    let q : Pool := { p with destroyed := p.destroyed + 1, made := p.made + 1 }
    have hborn := (Birth.trades_begin (w := w.freeSlot.report (namedEvent
      { p with destroyed := p.destroyed + 1 } .warn "Replacing faulted instance"
      [("instance_id", .number r.instanceId)])) p.blueprint (p.made + 1)).more
        (p.removeRestoration r.number).holdings.length
    exact (hfree.trans hborn).trans (trades_afterBirth (p := q) h _ _)

theorem trades_afterReset (h : p.holdings.length =
      (p.removeRestoration r.number).holdings.length + 1) (w : World σ) (i : Instance)
    (s : Standing Reset Reset.Result) :
    w.Trades p.holdings.length (afterReset w p r i s).1
      (afterReset w p r i s).2.1.holdings.length := by
  match s with
  | .busy x | .blocked x => exact .of_eq rfl (length_setRestoration _)
  | .ended (.error e) => exact trades_replace h (w.report _)
  | .ended (.ok ()) =>
    rw [afterReset]
    split
    · exact trades_replace h w
    · exact .of_eq rfl ((length_keep _).trans h.symm)

theorem trades_proceedRestoration (hn : WellNumbered p) (rounds : Nat) (w : World σ)
    (number : Nat) :
    w.Trades p.holdings.length (p.proceedRestoration rounds w number).1
      (p.proceedRestoration rounds w number).2.1.holdings.length := by
  unfold proceedRestoration
  split
  · exact .of_slots rfl
  · rename_i r hr
    obtain rfl := restoration?_number hr
    have h := length_removeRestoration hn hr
    obtain ⟨number, id, stage⟩ := r
    cases stage with
    | pending i =>
      simp only [startRestoration]
      split
      · exact trades_replace h w
      · have hbegun : w.Trades p.holdings.length (Reset.begin w i).1 p.holdings.length :=
          .of_slots (Reset.begin_slots w i)
        exact hbegun.trans (trades_afterReset h _ _ _)
    | resetting i x =>
      have hgoes : w.Trades p.holdings.length (Reset.proceed rounds w i x).1 p.holdings.length :=
        .of_slots (Reset.proceed_slots rounds w i x)
      exact hgoes.trans (trades_afterReset h _ _ _)
    | replacing b =>
      have hborn := (Birth.trades_proceed (w := w) rounds b).more
        (p.removeRestoration number).holdings.length
      rw [← h] at hborn
      exact hborn.trans (trades_afterBirth h _ _)

end

theorem trades_dropRestoration (hn : WellNumbered p) (w : World σ) (number : Nat) :
    w.Trades p.holdings.length (p.dropRestoration w number).1
      (p.dropRestoration w number).2.holdings.length := by
  unfold dropRestoration
  split
  · exact .of_slots rfl
  · rename_i r hr
    obtain rfl := restoration?_number hr
    rw [length_removeRestoration hn hr]
    exact World.Trades.freeSlot.more _

/-! ## Draining -/

theorem trades_emptied (w : World σ) (p : Pool) :
    w.Trades p.holdings.length (emptied w p).1 (emptied w p).2.1.holdings.length := by
  intro others hw
  have hslots : (emptied w p).1.slots = w.slots - p.idle.length := by
    unfold emptied
    dsimp only
    split <;> rfl
  have hlength : (emptied w p).2.1.holdings.length = p.leases.length + p.restorations.length := by
    simp [emptied]
  rw [length_holdings] at hw
  rw [hslots, hlength]
  omega

theorem trades_pollDrain (w : World σ) (p : Pool) (deadline : Option Nat) :
    w.Trades p.holdings.length (p.pollDrain w deadline).1
      (p.pollDrain w deadline).2.1.holdings.length := by
  unfold pollDrain
  split
  · exact trades_emptied w p
  · exact .of_slots rfl

/-- **An act takes and gives back as many places as it makes and destroys instances.** -/
theorem trades_perform (hn : WellNumbered p) (w : World σ) (a : PoolAct) :
    w.Trades p.holdings.length (a.world w p) (a.perform w p).holdings.length := by
  cases a with
  | checkout c => exact trades_checkout w p c
  | tryCheckout => exact trades_tryCheckout w p
  | pollCheckout ticket => exact trades_pollCheckout w p ticket
  | leaveQueue ticket =>
    refine .of_eq rfl ?_
    simp only [PoolAct.perform, leaveQueue]
    split <;> rfl
  | beginCall lease c entrypoint payload => exact trades_beginCall w p lease c entrypoint payload
  | proceedCall rounds lease => exact trades_proceedCall rounds w p lease
  | dropCall lease =>
    refine .of_eq rfl ?_
    simp only [PoolAct.perform, dropCall]
    split
    · rfl
    · exact length_setLease _
  | release lease => exact .of_eq rfl (length_release hn lease)
  | abandon lease => exact trades_abandon hn w lease
  | abandonForGood lease => exact trades_abandonForGood hn w lease
  | proceedRestoration rounds number => exact trades_proceedRestoration hn rounds w number
  | dropRestoration number => exact trades_dropRestoration hn w number
  | drain deadline => exact trades_pollDrain w p.close deadline

end Pool
end FunctionHost

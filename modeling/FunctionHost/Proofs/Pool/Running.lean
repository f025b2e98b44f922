import FunctionHost.Proofs.Guest.Running
import FunctionHost.Proofs.Pool.Room

/-!
# Guests of a pool that have a turn

In an act on a pool at most one guest has a turn: one that is called, one that tidies up or one that
is being made.  `PoolAct.running?` says which, and that all else that the act does in the world is
the host's own affair (`world_still`).
-/
namespace FunctionHost

variable {σ : Type}

namespace Running

/-- The world after a turn of some guest, if any has one. -/
def after? (o : Option Running) (rounds : Nat) (w : World σ) : World σ :=
  o.elim w fun r => r.after rounds w

/-- What the callback is asked in a turn of some guest, if any has one. -/
def asks? (o : Option Running) (rounds : Nat) (w : World σ) : List (Context × HostRequest) :=
  o.elim [] fun r => r.asks rounds w

variable (o : Option Running) (rounds : Nat) (w : World σ)

theorem after?_hears :
    w.Hears (after? o rounds w) (w.callback.after w.state (asks? o rounds w)) := by
  cases o with
  | none => exact ⟨rfl, rfl⟩
  | some r => exact r.after_hears rounds w

theorem after?_lasts : w.Lasts (after? o rounds w) := by
  cases o with
  | none => exact .refl w
  | some r => exact r.after_lasts rounds w

end Running

/-- The guest that runs for a restoration, if any does. -/
def RestorationStage.running? : RestorationStage → Option Running
  | .pending _ => none
  | .resetting i r => some (r.running i)
  | .replacing b => some b.running

namespace Pool

/-- The guest that runs for the call in progress on a lease. -/
def calling? (p : Pool) (lease : Nat) : Option Running :=
  (p.lease? lease).bind fun l => l.call.map (Call.running l.held)

/-- The guest that runs for a restoration. -/
def restoring? (p : Pool) (number : Nat) : Option Running :=
  (p.restoration? number).bind fun r => r.stage.running?

end Pool

namespace PoolAct

/-- **The guest that has its turn in an act**, if any has. -/
def running? (p : Pool) : PoolAct → Option Running
  | .proceedCall _ lease => p.calling? lease
  | .proceedRestoration _ number => p.restoring? number
  | _ => none

end PoolAct

namespace Pool

variable {p : Pool}

theorem lend_still (w : World σ) (p : Pool) : w.Still (lend w p).1 := by
  unfold lend
  split
  · exact .refl w
  · split
    · exact .report w _
    · exact .refl w

theorem interrupted_still (w : World σ) (p : Pool) (since : Nat) (why : Interruption) :
    w.Still (interrupted w p since why).1 := by
  cases why with
  | canceled => exact .refl w
  | deadlineExceeded => exact .report w _

theorem checkout_still (w : World σ) (p : Pool) (c : Context) : w.Still (p.checkout w c).1 := by
  have hasks := checkout_asks w p c
  generalize p.checkout w c = r at hasks
  cases hasks with
  | refused hc => exact .refl w
  | interrupted ho hi => exact interrupted_still ..
  | obtained ho hq => exact lend_still ..
  | blocked ho hf => exact .refl w

theorem tryCheckout_still (w : World σ) (p : Pool) : w.Still (p.tryCheckout w).1 := by
  unfold tryCheckout
  split
  · exact .refl w
  · split
    · exact lend_still ..
    · exact .refl w

theorem pollCheckout_still (w : World σ) (p : Pool) (ticket : Nat) :
    w.Still (p.pollCheckout w ticket).1 := by
  have hlooks := pollCheckout_looks w p ticket
  generalize p.pollCheckout w ticket = r at hlooks
  cases hlooks with
  | gone hx => exact .refl w
  | refused hx hc => exact .refl w
  | obtained hx ho hg => exact lend_still ..
  | interrupted hx ho hg hi => exact interrupted_still ..
  | blocked hx ho hg hi => exact .refl w

theorem beginCall_still (w : World σ) (p : Pool) (lease : Nat) (c : Context) (entrypoint : String)
    (payload : Bytes) : w.Still (p.beginCall w lease c entrypoint payload).1 := by
  unfold beginCall
  split
  · exact .refl w
  · exact Call.begin_still ..

theorem proceedCall_still (rounds : Nat) (w : World σ) (p : Pool) (lease : Nat) :
    (Running.after? (p.calling? lease) rounds w).Still (p.proceedCall rounds w lease).1 := by
  unfold proceedCall calling?
  cases p.lease? lease with
  | none => exact .refl w
  | some l =>
    cases hcall : l.call with
    | none =>
      simp only [Option.bind_some, hcall, Option.map_none]
      exact .refl w
    | some c =>
      simp only [Option.bind_some, hcall, Option.map_some]
      exact Call.proceed_still rounds w l.held c

theorem abandon_still (w : World σ) (p : Pool) (lease : Nat) : w.Still (p.abandon w lease).1 := by
  unfold abandon
  split
  · exact .refl w
  · exact .report w _

theorem shrink_still (w : World σ) (p : Pool) (cause : HostError) : w.Still (shrink w p cause).1 :=
  .report w _

theorem abandonForGood_still (w : World σ) (p : Pool) (lease : Nat) :
    w.Still (p.abandonForGood w lease).1 := by
  unfold abandonForGood
  split
  · exact .refl w
  · exact (World.Still.freeSlot w).trans (shrink_still ..)

/-! ## Restoring -/

theorem afterBirth_still (w : World σ) (p : Pool) (r : Restoration)
    (s : Standing Birth Birth.Result) : w.Still (afterBirth w p r s).1 := by
  match s with
  | .busy b | .blocked b => exact .refl w
  | .ended (.error e) => exact shrink_still ..
  | .ended (.ok i) =>
    rw [afterBirth]
    split
    · exact .freeSlot w
    · exact .refl w

theorem replace_still (w : World σ) (p : Pool) (r : Restoration) : w.Still (replace w p r).1 := by
  unfold replace
  dsimp only
  split
  · exact (World.Still.freeSlot w).trans (.report _ _)
  · exact (((World.Still.freeSlot w).trans (.report _ _)).trans (Birth.begin_still ..)).trans
      (afterBirth_still ..)

theorem afterReset_still (w : World σ) (p : Pool) (r : Restoration) (i : Instance)
    (s : Standing Reset Reset.Result) : w.Still (afterReset w p r i s).1 := by
  match s with
  | .busy x | .blocked x => exact .refl w
  | .ended (.error e) => exact (World.Still.report w _).trans (replace_still ..)
  | .ended (.ok ()) =>
    rw [afterReset]
    split
    · exact replace_still ..
    · exact .refl w

theorem proceedRestoration_still (rounds : Nat) (w : World σ) (p : Pool) (number : Nat) :
    (Running.after? (p.restoring? number) rounds w).Still
      (p.proceedRestoration rounds w number).1 := by
  unfold proceedRestoration restoring?
  cases p.restoration? number with
  | none => exact .refl w
  | some r =>
    obtain ⟨number, id, stage⟩ := r
    cases stage with
    | pending i =>
      simp only [startRestoration]
      split
      · exact replace_still ..
      · exact (Reset.begin_still w i).trans (afterReset_still ..)
    | resetting i x => exact (Reset.proceed_still rounds w i x).trans (afterReset_still ..)
    | replacing b => exact (Birth.proceed_still rounds w b).trans (afterBirth_still ..)

theorem dropRestoration_still (w : World σ) (p : Pool) (number : Nat) :
    w.Still (p.dropRestoration w number).1 := by
  unfold dropRestoration
  split
  · exact .refl w
  · exact .freeSlot w

theorem emptied_still (w : World σ) (p : Pool) : w.Still (emptied w p).1 := by
  have hless : w.Still { w with slots := w.slots - p.idle.length } :=
    .of_slots_le (Nat.sub_le _ _)
  unfold emptied
  dsimp only
  split
  · exact hless.trans (.report _ _)
  · exact (hless.trans (.report _ _)).trans (.report _ _)

theorem pollDrain_still (w : World σ) (p : Pool) (deadline : Option Nat) :
    w.Still (p.pollDrain w deadline).1 := by
  unfold pollDrain
  split
  · exact emptied_still w p
  · exact .refl w

/-- **What an act does in the world** is what the guest does that has its turn; the rest is the
host's own affair. -/
theorem world_still (w : World σ) (p : Pool) (a : PoolAct) :
    (Running.after? (a.running? p) a.rounds w).Still (a.world w p) := by
  cases a with
  | checkout c => exact checkout_still w p c
  | tryCheckout => exact tryCheckout_still w p
  | pollCheckout ticket => exact pollCheckout_still w p ticket
  | leaveQueue ticket => exact .refl w
  | beginCall lease c entrypoint payload => exact beginCall_still w p lease c entrypoint payload
  | proceedCall rounds lease => exact proceedCall_still rounds w p lease
  | dropCall lease => exact .refl w
  | release lease => exact .refl w
  | abandon lease => exact abandon_still w p lease
  | abandonForGood lease => exact abandonForGood_still w p lease
  | proceedRestoration rounds number => exact proceedRestoration_still rounds w p number
  | dropRestoration number => exact dropRestoration_still w p number
  | drain deadline => exact pollDrain_still w p.close deadline

end Pool
end FunctionHost

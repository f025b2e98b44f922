import FunctionHost.Proofs.Pool.Drained
import FunctionHost.Proofs.Pool.Running

/-!
# Places that are given back

Room for instances may be limited, and then it is never overdrawn (`World.Fits`).  An instance that
is destroyed gives its place back before another one is begun, in the same turn; so whatever others
do, there is a place for the other one (`Replaces`), even if every place was taken.

A pool that is drained (`Dry`) stays so, whatever happens to it, and has nothing but what is leased
or comes back.
-/
namespace FunctionHost

variable {σ : Type}

/-! ## Limits -/

/-- **Limited room is not overdrawn.** -/
def World.Fits (w : World σ) : Prop := ∀ limit, w.slotLimit = some limit → w.slots ≤ limit

/-- **A change that leaves the engine as it is** and does not overdraw its room. -/
structure World.Abides (w v : World σ) : Prop where
  engine : v.engine = w.engine
  fits : w.Fits → v.Fits

namespace World

variable {w v u : World σ}

theorem slotLimit_congr (h : v.engine = w.engine) : v.slotLimit = w.slotLimit := by
  rw [slotLimit, slotLimit, h]

theorem Fits.of_slots (h : w.Fits) (he : v.engine = w.engine) (hs : v.slots = w.slots) : v.Fits :=
  fun limit hlimit => hs ▸ h limit (slotLimit_congr he ▸ hlimit)

namespace Abides

theorem refl (w : World σ) : w.Abides w := ⟨rfl, id⟩

theorem trans (h : w.Abides v) (h' : v.Abides u) : w.Abides u :=
  ⟨h'.engine.trans h.engine, fun hw => h'.fits (h.fits hw)⟩

theorem of_slots (he : v.engine = w.engine) (hs : v.slots = w.slots) : w.Abides v :=
  ⟨he, fun hw => hw.of_slots he hs⟩

end Abides

theorem Still.abides (h : w.Still v) : w.Abides v :=
  ⟨h.engine, fun hw limit hlimit =>
    have hsame := (slotLimit_congr h.engine).symm.trans hlimit
    h.room limit hsame (hw limit hsame)⟩

theorem Lasts.abides (h : w.Lasts v) : w.Abides v := .of_slots h.engine h.slots

/-- **Where a place is given back there is one to be taken.** -/
theorem Fits.takeSlot (h : w.Fits) (he : v.engine = w.engine) (hs : v.slots + 1 = w.slots) :
    v.takeSlot = .ok { v with slots := w.slots } := by
  unfold World.takeSlot
  cases hlimit : v.slotLimit with
  | none => rw [hs]
  | some limit =>
    have hle := h limit ((slotLimit_congr he).symm.trans hlimit)
    have hlt : v.slots < limit := by omega
    simp only [if_pos hlt, hs]

end World

namespace Pool

variable {w v : World σ} {p q : Pool} {r : Restoration} {rounds number : Nat} {a : PoolAct}

/-! ## Replacing -/

/-- **A turn of a restoration** and the place of its instance.

* As long as the instance is there it keeps its place (`holds`).
* If it is destroyed in a closed pool, nothing is made in its place (`discarded`).
* If it is destroyed in an open pool, another one is begun in this turn, in a world in which there is
  a place for it (`begins`).
* What has been begun has its place (`further`). -/
inductive Replaces (rounds : Nat) (w : World σ) (p : Pool) (r : Restoration) :
    World σ × Pool × Standing Unit Restored → Prop
  | holds {turn : World σ × Pool × Standing Unit Restored}
      (h : turn.2.1.destroyed = p.destroyed) : Replaces rounds w p r turn
  | discarded {turn : World σ × Pool × Standing Unit Restored} (hc : p.closed = true)
      (h : turn.2.2 = .ended .discarded) : Replaces rounds w p r turn
  | begins {u : World σ} (hroom : u.takeSlot = .ok { u with slots := w.slots }) :
      Replaces rounds w p r (afterBirth (Birth.begin u p.blueprint (p.made + 1)).1
        { p with destroyed := p.destroyed + 1, made := p.made + 1 } r
        (Birth.begin u p.blueprint (p.made + 1)).2)
  | further {b : Birth} (hb : r.stage = .replacing b) :
      Replaces rounds w p r
        (afterBirth (Birth.proceed rounds w b).1 p r (Birth.proceed rounds w b).2)

/-- **An instance that is destroyed** leaves its place to another one. -/
theorem replaces_replace (hw : w.Fits) (hpos : 0 < w.slots) (he : v.engine = w.engine)
    (hs : v.slots = w.slots) : Replaces rounds w p r (replace v p r) := by
  unfold replace
  dsimp only
  split
  · rename_i hc
    exact .discarded hc rfl
  · refine .begins (hw.takeSlot he ?_)
    rw [World.report, World.freeSlot, hs]
    exact Nat.sub_add_cancel hpos

theorem replaces_afterReset (hw : w.Fits) (hpos : 0 < w.slots) (he : v.engine = w.engine)
    (hs : v.slots = w.slots) (i : Instance) (s : Standing Reset Reset.Result) :
    Replaces rounds w p r (afterReset v p r i s) := by
  match s with
  | .busy x | .blocked x => exact .holds rfl
  | .ended (.error e) => exact replaces_replace hw hpos he hs
  | .ended (.ok ()) =>
    rw [afterReset]
    split
    · exact replaces_replace hw hpos he hs
    · exact .holds rfl

/-- **Whatever is destroyed to be replaced leaves its place** to what is made instead. -/
theorem proceedRestoration_replaces (hr : p.restoration? number = some r) (hw : w.Fits)
    (hpos : 0 < w.slots) : Replaces rounds w p r (p.proceedRestoration rounds w number) := by
  obtain ⟨n, id, stage⟩ := r
  simp only [proceedRestoration, hr]
  cases stage with
  | pending i =>
    simp only [startRestoration]
    split
    · exact replaces_replace hw hpos rfl rfl
    · exact replaces_afterReset hw hpos (Reset.begin_still w i).engine (Reset.begin_slots w i) _ _
  | resetting i x =>
    have hlasts := (Reset.running i x).after_lasts rounds w
    have he := (Reset.proceed_still rounds w i x).engine.trans hlasts.engine
    exact replaces_afterReset hw hpos he (Reset.proceed_slots rounds w i x) _ _
  | replacing b => exact .further rfl

/-- What is being restored takes a place. -/
theorem holdings_pos_of_restoration? (hr : p.restoration? number = some r) :
    0 < p.holdings.length := by
  have hpos := List.length_pos_of_mem (List.mem_of_find?_eq_some hr)
  rw [length_holdings]
  omega

/-- **An act leaves the engine as it is** and does not overdraw its room. -/
theorem world_abides (w : World σ) (p : Pool) (a : PoolAct) : w.Abides (a.world w p) :=
  (Running.after?_lasts ..).abides.trans (world_still w p a).abides

/-! ## Drained pools -/

/-- **A pool that is drained**: it is closed and has no idle instances. -/
structure Dry (p : Pool) : Prop where
  closed : p.closed = true
  idle : p.idle = []

/-- **What is drained stays so.** -/
theorem Dry.moves (h : Dry p) (hm : Moves w p a q) : Dry q := by
  refine ⟨hm.closed_of_closed h.closed, ?_⟩
  cases hm with
  | lent hq hp ho hi => cases h.closed.symm.trans ho
  | restored hr hturn hresult =>
    cases hturn with
    | kept ht ho => cases h.closed.symm.trans ho
    | replaced hb ho => cases h.closed.symm.trans ho
    | _ => exact h.idle
  | emptied deadline => rfl
  | _ => exact h.idle

/-- **Once all its leases have come back it has nothing.** -/
theorem Dry.holdings_eq_nil (h : Dry p) (hl : p.leases = []) (hr : p.restorations = []) :
    p.holdings = [] := by
  have hlength := length_holdings p
  rw [h.idle, hl, hr] at hlength
  exact List.length_eq_zero_iff.mp hlength

/-- **Draining that is over leaves a pool drained.** -/
theorem dry_of_outcome {deadline : Option Nat} {o : DrainOutcome}
    (ho : (PoolAct.drain deadline).outcome? w p = some o) :
    Dry ((PoolAct.drain deadline).perform w p) := by
  refine ⟨closed_drain w p deadline, ?_⟩
  rcases outcome?_idle w p deadline with ⟨hnone, -⟩ | ⟨-, -, -, hidle⟩
  · cases hnone.symm.trans ho
  · exact hidle

end Pool

/-! ## Filled pools -/

/-- **A pool that has just been filled** has only idle instances, and nobody has a number of it. -/
theorem Filling.lives_afterBirth {w : World σ} {f : Filling} {missing : Nat}
    {s : Standing Birth Birth.Result} {p : Pool}
    (h : (afterBirth f missing w s).2 = .ended (.ok p)) :
    p.WellNumbered ∧ p.holdings.length = p.idle.length := by
  induction missing generalizing w f s with
  | zero =>
    match s with
    | .busy b | .blocked b => cases h
    | .ended (.error e) => cases h
    | .ended (.ok i) =>
      cases h
      exact ⟨⟨⟨List.nodup_nil, nofun⟩, ⟨List.nodup_nil, nofun⟩, ⟨List.nodup_nil, nofun⟩⟩,
        Pool.length_holdings _⟩
  | succ missing ih =>
    match s with
    | .busy b | .blocked b => cases h
    | .ended (.error e) => cases h
    | .ended (.ok i) => exact ih h

theorem Filling.lives_begin (w : World σ) (b : Blueprint) (size : Nat) (timeout : Option Nat)
    {p : Pool} (h : (begin w b size timeout).2 = .ended (.ok p)) :
    p.WellNumbered ∧ p.holdings.length = p.idle.length := by
  unfold begin at h
  split at h
  · cases h
  · exact lives_afterBirth h

theorem Filling.lives_proceed (rounds : Nat) (w : World σ) (f : Filling) {p : Pool}
    (h : (proceed rounds w f).2 = .ended (.ok p)) :
    p.WellNumbered ∧ p.holdings.length = p.idle.length := lives_afterBirth h

end FunctionHost

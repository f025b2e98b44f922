import FunctionHost.Wasm.Instantiation

/-!
# What running code costs

Guest code spends fuel and never gets any.  Entering a function costs something, so once code has
entered a function the account is **tapped**: what is left is less than what there was
(`Machine.run_tapped`).

A thread counts what it spends by itself and notes it in the account only now and then, and a trap
loses the count.  So code that began when the account was tapped leaves it tapped in any case
(`again`), and other code unless it is trapped.
-/
namespace FunctionHost
namespace Wasm

/-- **An account of a budget of which something was spent.** -/
structure Fuel.Tapped (total : Nat) (f : Fuel) : Prop where
  budget : f.budget = total
  remaining : f.remaining < total

@[simp] theorem Store.fuel_spend (s : Store) (n : Nat) :
    (s.spend n).fuel = { s.fuel with spent := n } := rfl

@[simp] theorem Store.fuel_withMemory (s : Store) (index : Nat) (change : Memory → Memory) :
    (s.withMemory index change).fuel = s.fuel := rfl

@[simp] theorem Store.fuel_withTable (s : Store) (index : Nat) (change : Table → Table) :
    (s.withTable index change).fuel = s.fuel := rfl

/-- An account stays tapped when more is spent. -/
theorem Fuel.Tapped.more {total n m : Nat} {s : Store} (h : (s.spend n).fuel.Tapped total)
    (hnm : n ≤ m) : (s.spend m).fuel.Tapped total := by
  have hlt := h.remaining
  simp only [Store.fuel_spend, Fuel.remaining] at hlt
  refine ⟨h.budget, ?_⟩
  simp only [Store.fuel_spend, Fuel.remaining]
  omega

/-! ## Operators -/

/-- The state after the effect of an operator. -/
def Effect.store : Effect → Store
  | .ok s _ _ => s
  | .trap s _ => s

namespace Machine

theorem bulkMemory_fuel {op : Operator} {s s' : Store} {dst src len : Nat}
    (h : bulkMemory op s dst src len = .ok s') : s'.fuel = s.fuel := by
  unfold bulkMemory at h
  split at h
  all_goals try dsimp only at h
  all_goals first | (split at h <;> cases h <;> rfl) | cases h

theorem growMemory_fuel (s : Store) (m more : Nat) : (growMemory s m more).1.fuel = s.fuel := by
  unfold growMemory
  split <;> rfl

theorem growTable_fuel (s : Store) (t more : Nat) (value : Word) :
    (growTable s t more value).1.fuel = s.fuel := by
  unfold growTable
  split <;> rfl

theorem tableEffect_fuel (op : Operator) (s : Store) (locals : Array Word) (stack : List Word) :
    (tableEffect op s locals stack).store.fuel = s.fuel := by
  unfold tableEffect
  split
  case h_2 m more rest => exact growMemory_fuel s m more.toNat
  case h_8 t more value rest => exact growTable_fuel s t more.toNat value
  case h_10 =>
    split
    · rename_i h
      exact bulkMemory_fuel h
    · rfl
  all_goals first | rfl | (split <;> rfl)

/-- **Operators cost nothing by themselves.** -/
theorem effect_fuel (op : Operator) (s : Store) (locals : Array Word) (stack : List Word) :
    (effect op s locals stack).store.fuel = s.fuel := by
  unfold effect
  split
  case h_3 =>
    split
    · split
      · split <;> rfl
      · rfl
    · split <;> rfl
  case h_16 => exact tableEffect_fuel ..
  all_goals first | rfl | (dsimp only; split <;> rfl)

end Machine

/-! ## Threads -/

/-- **Code of which the account is tapped**: as soon as its thread notes what it spent, and even
before that if the code began `again` when the account was. -/
def Progress.Tapped (total : Nat) (again : Prop) : Progress → Prop
  | .running s t => (s.spend t.spent).fuel.Tapped total ∧ (again → s.fuel.Tapped total)
  | .finished s _ | .calling s _ _ _ => s.fuel.Tapped total
  | .trapped s _ => again → s.fuel.Tapped total

namespace Machine

variable {total : Nat} {again : Prop} {p : Program} {epoch : Nat} {s : Store}

theorem checkLimits_tapped {t : Thread} (h : (s.spend t.spent).fuel.Tapped total)
    (ha : again → s.fuel.Tapped total) : (checkLimits epoch s t).Tapped total again := by
  unfold checkLimits
  split
  · exact fun _ => h
  · split
    · exact ha
    · exact ⟨h, ha⟩

theorem enter_tapped {func depth spent : Nat} {args : List Word} {callers : List Frame}
    (h : (s.spend spent).fuel.Tapped total) (ha : again → s.fuel.Tapped total) :
    (enter p epoch s func args callers depth spent).Tapped total again := by
  unfold enter
  split
  · exact ha
  · split
    · exact ha
    · exact checkLimits_tapped (h.more (Nat.le_succ spent)) ha

theorem invoke_tapped {func depth spent : Nat} {frame : Frame} {callers : List Frame}
    (h : (s.spend spent).fuel.Tapped total) :
    (invoke p epoch s func frame callers depth spent).Tapped total again := by
  unfold invoke
  dsimp only
  split
  · exact h
  · exact enter_tapped h fun _ => h

theorem leave_tapped {results : List Word} {callers : List Frame} {depth spent : Nat}
    (h : (s.spend spent).fuel.Tapped total) :
    (leave s results callers depth spent).Tapped total again := by
  unfold leave
  dsimp only
  split
  · exact h
  · exact ⟨h, fun _ => h⟩

/-- **An instruction leaves the account tapped.** -/
theorem step_tapped {t : Thread} (h : (s.spend t.spent).fuel.Tapped total)
    (ha : again → s.fuel.Tapped total) : (step p epoch s t).Tapped total again := by
  obtain ⟨⟨body, pc, locals, stack, arity⟩, callers, depth, spent⟩ := t
  have hnext : (s.spend (spent + 1)).fuel.Tapped total := h.more (Nat.le_succ spent)
  unfold step
  dsimp only
  split
  · exact ha
  · split
    -- An operator leaves the account as it is; all others cost what is written there.
    case h_1 op hop =>
      have hfuel := effect_fuel op s locals stack
      split
      · rename_i heffect
        rw [heffect, Effect.store] at hfuel
        rw [Progress.Tapped, Store.fuel_spend, hfuel]
        exact ⟨h.more (Nat.le_add_right spent op.cost), ha⟩
      · rename_i heffect
        rw [heffect, Effect.store] at hfuel
        rw [Progress.Tapped, hfuel]
        exact ha
    case h_3 => split <;> exact ⟨hnext, ha⟩
    case h_5 => exact ⟨h, ha⟩
    case h_6 => exact checkLimits_tapped h ha
    case h_8 => exact invoke_tapped hnext
    case h_9 =>
      split
      · exact fun _ => hnext
      · exact invoke_tapped hnext
    case h_10 => exact leave_tapped h
    case h_11 => exact fun _ => h
    all_goals exact ⟨hnext, ha⟩

/-- **A stretch of code leaves the account tapped.** -/
theorem run_tapped (steps : Nat) {t : Thread} (h : (s.spend t.spent).fuel.Tapped total)
    (ha : again → s.fuel.Tapped total) : (run p epoch steps s t).Tapped total again := by
  induction steps generalizing s t with
  | zero => exact ⟨h, ha⟩
  | succ steps ih =>
    have hstep : (step p epoch s t).Tapped total again := step_tapped h ha
    rw [run]
    split
    · rename_i hs
      rw [hs] at hstep
      exact ih hstep.1 hstep.2
    · exact hstep

/-- Code that begins when the account is tapped leaves it so in any case. -/
theorem start_tapped {func : Nat} {args : List Word} (h : s.fuel.Tapped total) :
    (start p epoch s func args).Tapped total True := by
  unfold start
  split
  · exact h
  · exact enter_tapped h fun _ => h

/-- **A function of the module taps the account** unless it is trapped. -/
theorem start_own_tapped {func : Nat} {args : List Word} (hown : p.importedFuncs ≤ func)
    (hs : s.fuel.budget = total) : (start p epoch s func args).Tapped total False := by
  rw [start, if_neg (Nat.not_lt.mpr hown), enter]
  split
  · exact False.elim
  · rw [if_neg (Nat.not_lt_zero _), checkLimits]
    split
    · exact False.elim
    · rename_i hlimit
      split
      · exact False.elim
      -- Entering has cost something, and no more than there was.
      · refine ⟨⟨hs, ?_⟩, False.elim⟩
        simp only [Store.fuel_spend, Fuel.remaining] at hlimit ⊢
        omega

end Machine

/-! ## The first state -/

namespace Setup

theorem placeElems_fuel {s s' : Store} {es : List (SegmentMode × List Word)}
    (h : placeElems s es = .ok s') : s'.fuel = s.fuel := by
  induction es generalizing s with
  | nil => cases h; rfl
  | cons e es ih =>
    unfold placeElems at h
    split at h
    · contradiction
    · rename_i heq
      obtain ⟨rfl, rfl⟩ := List.cons.inj heq
      dsimp only at h
      split at h
      · rw [ih h, Store.fuel_withTable]
      · cases h
    · rename_i heq
      obtain ⟨rfl, rfl⟩ := List.cons.inj heq
      exact ih h

theorem placeData_fuel {s s' : Store} {ds : List DataSegment}
    (h : placeData s ds = .ok s') : s'.fuel = s.fuel := by
  induction ds generalizing s with
  | nil => cases h; rfl
  | cons d ds ih =>
    unfold placeData at h
    split at h
    · dsimp only at h
      split at h
      · rw [ih h, Store.fuel_withMemory]
      · cases h
    · exact ih h

end Setup

/-- **An instance starts with a full account.** -/
theorem Program.setup_fuel {p : Program} {c : Ceilings} {s : Store} (h : p.setup c = .ok s) :
    s.fuel = Fuel.full c.fuel := by
  simp only [setup, bind, Except.bind] at h
  split at h
  · cases h
  · split at h
    · cases h
    · rename_i hs
      exact (Setup.placeData_fuel h).trans (Setup.placeElems_fuel hs)

end Wasm
end FunctionHost

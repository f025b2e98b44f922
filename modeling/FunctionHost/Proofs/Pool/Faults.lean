import FunctionHost.Proofs.Pool.Holdings

/-!
# Faulted instances of a pool

A fault stays: no act makes a faulted instance one without a fault (`Becomes.isFaulted`).  And a
faulted instance gets no further than the start of a restoration: what tidies up has no fault, and
neither has what is idle (`fit_run`).
-/
namespace FunctionHost

variable {σ : Type}

namespace Holding

/-- Whether an instance has a fault; one that is being made has none. -/
def isFaulted : Holding → Bool
  | .idle i => i.isFaulted
  | .leased l => l.held.isFaulted
  | .returning ⟨_, _, .pending i⟩ | .returning ⟨_, _, .resetting i _⟩ => i.isFaulted
  | .returning ⟨_, _, .replacing _⟩ => false

/-- **Whether an instance is fit for where it is**: nothing that is idle or tidies up has a fault.
-/
def Fit : Holding → Prop
  | .idle i | .returning ⟨_, _, .resetting i _⟩ => i.isFaulted = false
  | _ => True

end Holding

theorem Standing.ne_error_of_work? {α β ε : Type} {s : Standing α (Except ε β)} {x : α}
    (hx : s.work? = some x) (e : ε) : s ≠ .ended (.error e) := by
  rintro rfl
  cases hx

/-- What tidies up, or has done so, has no fault. -/
theorem Tidies.faultless {rounds : Nat} {w : World σ} {r : Restoration} {j : Instance}
    {s : Standing Reset Reset.Result} (h : Tidies rounds w r.stage j s)
    (hr : (Holding.returning r).Fit) (hs : ∀ e, s ≠ .ended (.error e)) : j.isFaulted = false := by
  obtain ⟨number, id, stage⟩ := r
  cases h with
  | begun hi h => exact (Reset.begin_isFaulted h hs).trans hi
  | further h => exact (Reset.proceed_isFaulted h hs).trans hr

namespace Pool

variable {w : World σ} {p q : Pool} {a : PoolAct}

/-- **A fault stays**, unless the instance is gone and another one begun. -/
theorem Becomes.isFaulted {x y : Holding} {n : Nat} (h : Becomes w p a x y n) (hn : n = 0)
    (hx : x.isFaulted = true) : y.isFaulted = true := by
  -- A restoration that no longer holds an instance is making one, and that has no fault.
  have replacing {r : Restoration} (hs : r.stage.holds.toNat = 0)
      (hr : (Holding.returning r).isFaulted = true) : False := by
    obtain ⟨number, id, stage⟩ := r
    cases stage with
    | pending i => cases hs
    | resetting i x => cases hs
    | replacing x => cases hr
  cases h with
  | lent ha => exact Instance.isFaulted_setState hx _
  | @called _ l l' hl h =>
    cases h with
    | @begun c e payload _ _ _ h =>
      rw [Call.begin_faulted w hx] at h
      cases h
      exact hx
    | @further rounds c _ _ _ hc h =>
      have hproceed := Call.proceed_faulted rounds w hx c
      rw [h] at hproceed
      exact hproceed
    | dropped => exact hx
  | returned => exact hx
  | abandoned => exact Instance.isFaulted_setState hx _
  | @tidying rounds r i s z hr h hw =>
    obtain ⟨number, id, stage⟩ := r
    cases h with
    | begun hi h => exact absurd hx (Bool.eq_false_iff.mp hi)
    | further h => exact (Reset.proceed_isFaulted h (Standing.ne_error_of_work? hw)).trans hx
  | replacing hr h hw => exact (replacing hn hx).elim
  | @kept rounds r i hr h ho =>
    obtain ⟨number, id, stage⟩ := r
    refine Instance.isFaulted_setState ?_ _
    cases h with
    | begun hi h => exact absurd hx (Bool.eq_false_iff.mp hi)
    | further h => exact (Reset.proceed_isFaulted h (fun _ he => nomatch he)).trans hx
  | replaced hr h ho => exact (replacing hn hx).elim

/-- A replacement is made without a fault. -/
theorem Bears.faultless {rounds : Nat} {stage : RestorationStage} {s : Standing Birth Birth.Result}
    (h : Bears rounds w p stage s) : Birth.Faultless s := by
  cases h with
  | begun hs v => exact Birth.faultless_begin ..
  | further x => exact Birth.faultless_proceed ..

theorem Becomes.fit {x y : Holding} {n : Nat} (h : Becomes w p a x y n) (hx : x.Fit) : y.Fit := by
  cases h with
  | lent ha => trivial
  | called hl h => trivial
  | returned => trivial
  | abandoned => trivial
  | tidying hr h hw => exact h.faultless hx (Standing.ne_error_of_work? hw)
  | replacing hr h hw => trivial
  | kept hr h ho =>
    exact Instance.isFaulted_setState_idle (h.faultless hx fun _ he => nomatch he)
  | replaced hr h ho => exact Bears.faultless h

theorem fit_moves (hn : WellNumbered p) (h : ∀ x ∈ p.holdings, x.Fit) (hm : Moves w p a q) :
    ∀ x ∈ q.holdings, x.Fit :=
  (hm.shifts hn).all h fun x hx _ _ hb => hb.fit (h x hx)

theorem fit_of_filled {b : Blueprint} {size : Nat} {timeout : Option Nat}
    (hp : Filled σ b size timeout p) : ∀ x ∈ p.holdings, x.Fit := by
  intro x hx
  obtain ⟨i, hi, rfl⟩ := eq_idle_of_filled hp hx
  exact hp.idle (Y := Birth.Faultless) (fun w n => Birth.faultless_begin w b n)
    (fun s x rounds w _ _ => Birth.faultless_proceed rounds w x) i hi

/-- **No idle instance has a fault**, and none that tidies up. -/
theorem fit_run {b : Blueprint} {size : Nat} {timeout : Option Nat}
    (hp : Filled σ b size timeout p) (ms : List (Moment σ)) : ∀ x ∈ (p.run ms).holdings, x.Fit := by
  have hall : WellNumbered (p.run ms) ∧ ∀ x ∈ (p.run ms).holdings, x.Fit :=
    run_induction (I := fun q => WellNumbered q ∧ ∀ x ∈ q.holdings, x.Fit)
      ⟨(accounts_of_filled hp).1, fit_of_filled hp⟩ (fun q m ⟨hn, hfit⟩ =>
        ⟨hn.moves (perform_moves m.world q m.act),
          fit_moves hn hfit (perform_moves m.world q m.act)⟩) ms
  exact hall.2

end Pool
end FunctionHost

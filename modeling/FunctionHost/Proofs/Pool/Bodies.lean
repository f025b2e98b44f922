import FunctionHost.Proofs.Guest.Bodies
import FunctionHost.Proofs.Pool.Holdings

/-!
# Where the instances of a pool come from

Every instance that a pool has, whatever it is in, has the body of one that was made successfully
from the blueprint of the pool (`Bred`).  A filled pool has no other ones, and no act makes an
instance with another body: what is made in place of an instance is made from the same blueprint.
-/
namespace FunctionHost

variable {σ : Type} {w : World σ} {p q : Pool} {a : PoolAct}

/-- A replacement is checked as every instance is that is made from the blueprint. -/
theorem Bears.checked {rounds : Nat} {stage : RestorationStage} {s : Standing Birth Birth.Result}
    (h : Bears rounds w p stage s)
    (hb : p.blueprint.body? = some stage.body ∧ stage.body.Sociable) :
    Birth.Checked p.blueprint s := by
  cases h with
  | begun hs v => exact Birth.checked_begin v p.blueprint (p.made + 1)
  | further x => exact Birth.checked_proceed rounds w ⟨hb.1, fun _ => hb.2⟩

theorem Filled.blueprint {b : Blueprint} {size : Nat} {timeout : Option Nat}
    (hp : Filled σ b size timeout p) : p.blueprint = b := by
  obtain ⟨made, i, -, rfl⟩ := hp.eq
  rfl

namespace Pool

/-- **The instances of a pool come from its blueprint**: each has the body of one that was made from
it successfully. -/
def Bred (σ : Type) (p : Pool) : Prop :=
  ∀ x ∈ p.holdings, ∃ i, Birth.Created σ p.blueprint i ∧ i.body = x.body

/-- **No act makes an instance with another body.** -/
theorem Becomes.body {x y : Holding} {n : Nat} (h : Becomes w p a x y n)
    (hx : p.blueprint.body? = some x.body ∧ x.body.Sociable) : y.body = x.body := by
  cases h with
  | @lent a i ha => exact Instance.body_setState i .leased
  | called hl h => exact h.same.body
  | returned => rfl
  | @abandoned l => exact Instance.body_setState l.held .faulted
  | tidying hr h hy => exact h.same.2
  | replacing hr h hy =>
    have hbody := ((h.checked hx).of_work? hy).1
    exact Option.some.inj (hbody.symm.trans hx.1)
  | @kept rounds r i hr h ho => exact (Instance.body_setState i .idle).trans h.same.2
  | replaced hr h ho =>
    have hbody := (h.checked hx).1
    exact Option.some.inj (hbody.symm.trans hx.1)

/-- **What an act leaves in a pool** comes from its blueprint, too. -/
theorem Bred.moves (h : Bred σ p) (hn : WellNumbered p) (hm : Moves w p a q) : Bred σ q := by
  rw [Bred, hm.fixed.1]
  refine (hm.shifts hn).all h fun x hx y n hb => ?_
  obtain ⟨i, hi, hbody⟩ := h x hx
  have hchecked := hi.checked
  rw [Birth.Checked, hbody] at hchecked
  exact ⟨i, hi, hbody.trans (hb.body hchecked).symm⟩

/-- **A filled pool has what was made for it.** -/
theorem bred_of_filled {b : Blueprint} {size : Nat} {timeout : Option Nat}
    (hp : Filled σ b size timeout p) : Bred σ p := by
  have hidle : ∀ i ∈ p.idle, Birth.Created σ b i :=
    hp.idle (Y := Birth.Comes σ b) Birth.Comes.begun
      fun s x rounds w hs hx => .further hs hx rounds w
  intro x hx
  obtain ⟨i, hi, rfl⟩ := eq_idle_of_filled hp hx
  exact ⟨i, hp.blueprint ▸ hidle i hi, rfl⟩

end Pool
end FunctionHost

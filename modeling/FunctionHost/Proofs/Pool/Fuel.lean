import FunctionHost.Proofs.Guest.Fuel
import FunctionHost.Proofs.Pool.Arrivals

/-!
# The fuel of what is handed out

An instance is handed out with a full account of fuel if it was new and full or if it came back: an
instance that tidied up is full whatever it spent before.  So whether the first call of every lease
has the whole budget depends on the blueprint alone (`full_run_iff`): a module may have a start
function only if it initializes itself, too.
-/
namespace FunctionHost

variable {σ : Type}

/-- Whether an instance has all of the budget that its blueprint gives it. -/
def Instance.Full (b : Blueprint) (i : Instance) : Prop :=
  i.guest.store.fuel.remaining = b.execution.budget

/-- Whether a replacement in the making, if that is what comes back, will be full. -/
def Holding.Full (b : Blueprint) : Holding → Prop
  | .returning r => ∀ x, r.stage = .replacing x → Birth.Full b (.busy x)
  | _ => True

theorem Birth.Full.work {b : Blueprint} {s : Standing Birth Birth.Result} {x : Birth}
    (h : Birth.Full b s) (hx : s.work? = some x) : Birth.Full b (.busy x) := by
  cases s <;> cases hx <;> exact h

/-- An instance that tidied up is full. -/
theorem Tidies.full {rounds : Nat} {w : World σ} {stage : RestorationStage} {j : Instance}
    (h : Tidies rounds w stage j (.ended (.ok ()))) :
    j.guest.store.fuel.remaining = stage.body.execution.budget := by
  have hbody := h.same.2
  cases h with
  | begun hi h => exact (Reset.full_begin h).trans (congrArg (·.execution.budget) hbody)
  | further h => exact (Reset.full_proceed h).trans (congrArg (·.execution.budget) hbody)

/-- A replacement is made full if new instances are. -/
theorem Bears.full {rounds : Nat} {w : World σ} {p : Pool} {stage : RestorationStage}
    {s : Standing Birth Birth.Result} (h : Bears rounds w p stage s)
    (hnew : p.blueprint.program.module.start = none ∨ p.blueprint.initializes = true)
    (hstage : ∀ x, stage = .replacing x → Birth.Full p.blueprint (.busy x)) :
    Birth.Full p.blueprint s := by
  cases h with
  | begun hs v => exact Birth.full_begin hnew
  | further x =>
    obtain ⟨hbody, hi⟩ := hstage x rfl
    exact Birth.full_proceed rounds hbody hi

namespace Pool

variable {b : Blueprint} {size : Nat} {timeout : Option Nat} {w : World σ} {p q : Pool}
  {a : PoolAct}

/-- **All replacements in the making will be full.** -/
structure MakesFull (b : Blueprint) (p : Pool) : Prop where
  kindred : Kindred p
  blueprint : p.blueprint = b
  making : ∀ x ∈ p.holdings, x.Full b

theorem Becomes.full
    (hnew : p.blueprint.program.module.start = none ∨ p.blueprint.initializes = true)
    {x y : Holding} {n : Nat} (h : Becomes w p a x y n) (hx : x.Full p.blueprint) :
    y.Full p.blueprint := by
  cases h with
  | lent ha => trivial
  | called hl h => trivial
  | returned => exact fun _ h => nomatch h
  | abandoned => exact fun _ h => nomatch h
  | tidying hr h hx => exact fun _ h => nomatch h
  | replacing hr h hw =>
    intro z hz
    cases hz
    exact (h.full hnew hx).work hw
  | kept hr h ho => trivial
  | replaced hr h ho => trivial

theorem MakesFull.moves (hnew : b.program.module.start = none ∨ b.initializes = true)
    (h : MakesFull b p) (hm : Moves w p a q) : MakesFull b q := by
  refine ⟨h.kindred.moves hm, hm.fixed.1.trans h.blueprint, ?_⟩
  obtain ⟨hk, rfl, hmaking⟩ := h
  exact (hm.shifts hk.numbered).all hmaking fun x hx y n hb => hb.full hnew (hmaking x hx)

/-- **Whatever becomes idle is full**, if new instances are. -/
theorem MakesFull.arrival (hnew : b.program.module.start = none ∨ b.initializes = true)
    (h : MakesFull b p) (hm : Moves w p a q) {i : Instance} (hi : a.arrival? w p = some i) :
    i.Full b := by
  obtain ⟨hk, rfl, hmaking⟩ := h
  obtain ⟨-, rounds, r, hr, harrives⟩ := hm.arrives hi
  have hmem : .returning r ∈ p.holdings :=
    (holdings_returning (restorations_perm hk.numbered hr)).mem_iff.mpr List.mem_cons_self
  cases harrives with
  | kept ht =>
    rw [Instance.Full, Instance.guest_setState, ht.full]
    exact congrArg ExecutionSettings.budget (hk.bodies _ hmem).execution
  | replaced hb => exact hb.full hnew (hmaking _ hmem)

theorem MakesFull.run (hnew : b.program.module.start = none ∨ b.initializes = true)
    (h : MakesFull b p) (ms : List (Moment σ)) : MakesFull b (p.run ms) :=
  run_induction h (fun q m hq => hq.moves hnew (perform_moves m.world q m.act)) ms

/-! ## Filled pools -/

/-- A filled pool has full instances only, if new ones are full. -/
theorem full_of_filled (hp : Filled σ b size timeout p)
    (hnew : b.program.module.start = none ∨ b.initializes = true) :
    MakesFull b p ∧ ∀ i ∈ p.idle, i.Full b := by
  have hblueprint : p.blueprint = b := by
    obtain ⟨made, i, -, rfl⟩ := hp.eq
    rfl
  refine ⟨⟨kindred_of_filled hp, hblueprint, fun x hx => ?_⟩, ?_⟩
  · obtain ⟨i, -, rfl⟩ := eq_idle_of_filled hp hx
    trivial
  · refine hp.idle (Y := Birth.Full b) (fun w n => Birth.full_begin hnew) ?_
    intro s x rounds w h hx
    have hwork := h.work hx
    exact Birth.full_proceed rounds hwork.1 hwork.2

/-- A filled pool has an instance that is not full, if new ones are not. -/
theorem tapped_of_filled (hp : Filled σ b size timeout p) {m : Wasm.Module}
    (hvalid : Wasm.Validation.validate m = .ok b.program) {func : Nat}
    (hstart : b.program.module.start = some func) (hinit : b.initializes = false) :
    ∃ i ∈ p.idle, i.guest.store.fuel.remaining < b.execution.budget := by
  have hlaw : Filling.Law σ b fun _ s => Birth.Tapped b s :=
    { begun := fun w => Birth.tapped_begin hvalid hstart
      further := fun made s x rounds w h hx => by
        have hwork : Birth.Tapped b (.busy x) := by
          cases s <;> cases hx <;> exact h
        exact Birth.tapped_proceed rounds hwork.1 hinit hwork.2.1 hwork.2.2
      next := fun made i w h => Birth.tapped_begin hvalid hstart }
  -- A filled pool is not empty: the instance made last is as good as any.
  obtain ⟨made, i, hi, -, rfl⟩ := hp.obeys hlaw
  exact ⟨i, List.mem_cons_self, hi.remaining⟩

/-- **When every lease begins with the whole budget.**  In all runs of a filled pool all idle
instances have all their fuel, and all leased ones until their next call begins, if and only if the
module has no start function or initializes itself: only then is the account filled again after what
a new instance spent. -/
theorem full_run_iff {m : Wasm.Module} (hvalid : Wasm.Validation.validate m = .ok b.program)
    (hp : Filled σ b size timeout p) :
    (∀ ms : List (Moment σ), (p.run ms).Upholds (Instance.Full b) (p.called ms)) ↔
      b.program.module.start = none ∨ b.initializes = true := by
  constructor
  · intro h
    cases hstart : b.program.module.start with
    | none => exact .inl rfl
    | some func =>
      refine .inr (Bool.not_eq_false _ ▸ fun hinit => ?_)
      obtain ⟨i, hi, hlt⟩ := tapped_of_filled hp hvalid hstart hinit
      have hfull : i.Full b := (h []).idle i hi
      exact absurd hfull (Nat.ne_of_lt hlt)
  · intro hnew ms
    have hfilled := full_of_filled hp hnew
    have hset (i : Instance) (s : InstanceState) (hi : i.Full b) : (i.setState s).Full b := by
      rw [Instance.Full, Instance.guest_setState]
      exact hi
    have hfirst : Upholds (Instance.Full b) [] p := by
      refine upholds_iff.mpr fun x hx => ?_
      obtain ⟨i, hi, rfl⟩ := eq_idle_of_filled hp hx
      exact hfilled.2 i hi
    have hall := (upholds_run_iff _ hset hfilled.1.kindred.numbered ms).mpr
      ⟨hfirst, fun ms₁ m ms₂ i _ hi =>
        (hfilled.1.run hnew ms₁).arrival hnew (perform_moves m.world (p.run ms₁) m.act) hi⟩
    exact hall ms [] (List.append_nil ms).symm

/-- Without a start function, an instance that came back is leased again with a full account. -/
theorem plain_run_full :
    let ms : List (Moment Unit) := [⟨.silent, .tryCheckout⟩, ⟨.silent, .release 0⟩,
      ⟨.silent, .proceedRestoration 1 1⟩, ⟨.silent, .tryCheckout⟩]
    let q := (filled .silent .plain []).run ms
    Blueprint.plain.program.module.start = none ∧ q.leases.length = 1 ∧
      q.Upholds (Instance.Full .plain) [] := by
  intro ms q
  have hvalid : Wasm.Validation.validate Blueprint.plain.program.module =
      .ok Blueprint.plain.program := by with_unfolding_all rfl
  have hfull := (full_run_iff (σ := Unit) hvalid filled_plain).mpr (.inl rfl) ms
  exact ⟨rfl, by decide +kernel, hfull⟩

end Pool

/-! ## A start function that costs something -/

/-- A blueprint whose guests have a start function that does nothing. -/
def Blueprint.started : Blueprint :=
  { name := "started"
    program :=
      { module :=
          { types := #[Body.allocatorType, Body.actionType]
            funcs := #[0, 1]
            memories := #[⟨0, none⟩]
            exports := #[⟨"memory", .memory 0⟩, ⟨"allocate", .func 0⟩]
            start := some 1
            bodies := #[⟨[], [.localGet 0, .endOf]⟩, ⟨[], [.endOf]⟩] }
        importedFuncs := 0
        funcTypes := #[Body.allocatorType, Body.actionType]
        code := #[⟨Body.allocatorType, #[], #[.plain (.localGet 0), .ret]⟩,
          ⟨Body.actionType, #[], #[.ret]⟩] }
    contentHash := ""
    linker := {}
    execution := {} }

namespace Pool

/-- **A new instance is handed out with less than its budget**, for its start function spent some of
it. -/
theorem started_run_tapped :
    let p := filled .silent .started [(2, .silent)]
    Wasm.Validation.validate Blueprint.started.program.module = .ok Blueprint.started.program ∧
      Filled Unit .started 1 none p ∧
      (p.run [⟨World.silent, .tryCheckout⟩]).leases.map (·.held.guest.store.fuel.remaining) =
        [Blueprint.started.execution.budget - 1] ∧
      ¬ (p.run [⟨World.silent, .tryCheckout⟩]).Upholds (Instance.Full .started) [] := by
  intro p
  have hfuel : (p.run [⟨World.silent, .tryCheckout⟩]).leases.map
      (·.held.guest.store.fuel.remaining) = [Blueprint.started.execution.budget - 1] := by
    decide +kernel
  refine ⟨by with_unfolding_all rfl, ⟨.silent, [(2, .silent)], rfl⟩, hfuel, fun h => ?_⟩
  obtain ⟨l, hl, hspent⟩ := List.mem_map.mp (hfuel ▸ List.mem_singleton_self _)
  have hfull : l.held.guest.store.fuel.remaining = Blueprint.started.execution.budget :=
    (h.leases l hl List.not_mem_nil).2
  rw [hfull] at hspent
  exact absurd hspent (by decide)

end Pool
end FunctionHost

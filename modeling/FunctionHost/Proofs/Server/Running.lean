import FunctionHost.Proofs.Pool.Clear
import FunctionHost.Proofs.Server.Publication

/-!
# Which guest has its turn

In a turn of a server one guest has its turn at most: the one that is called, restored or made by the
work that goes on (`Server.running?`).  Work for a request begins its turn with an act on its pool,
and what follows that in the same turn runs no guest (`Follows`): a call begins, an instance is given
back, and its restoration begins.  So what is asked in a turn is what that guest asks
(`Server.proceed_hears`), and what is begun asks nothing.
-/
namespace FunctionHost

variable {σ : Type}

/-- The act on a pool with which work for a request begins its turn. -/
def ServerWork.act? : ServerWork → Option (Nat × PoolAct)
  | .waiting pool ticket _ _ _ => some (pool, .pollCheckout ticket)
  | .calling pool lease => some (pool, .proceedCall Server.quantum lease)
  | .restoring pool number _ => some (pool, .proceedRestoration Server.quantum number)
  | _ => none

/-- The call that begins in a turn of some work, if an instance is obtained in it. -/
def ServerWork.begins? : ServerWork → Option (Context × String × Bytes)
  | .waiting _ _ c entrypoint payload => some (c, entrypoint, payload)
  | _ => none

/-- **What may follow** in a turn: a call begins, if there is one to begin, under a number that was
not given out before, an instance is given back, or its restoration begins. -/
def PoolAct.Follows (base : Nat) (begins : Option (Context × String × Bytes)) (p : Pool) :
    PoolAct → Prop
  | .beginCall lease c entrypoint payload => base ≤ lease ∧ begins = some (c, entrypoint, payload)
  | .release _ => True
  | .proceedRestoration _ number => p.restoring? number = none
  | _ => False

theorem PoolAct.Follows.running?_eq_none {base : Nat} {begins : Option (Context × String × Bytes)}
    {p : Pool} {a : PoolAct} (h : a.Follows base begins p) : a.running? p = none := by
  cases a with
  | proceedCall rounds lease => exact h.elim
  | proceedRestoration rounds number => exact h
  | _ => rfl

namespace Pool

variable {p q : Pool} {lease number : Nat}

/-- A restoration that has just been made has not begun. -/
theorem restoring?_release (hn : p.WellNumbered) (h : p.release lease = (q, some number)) :
    q.restoring? number = none := by
  have hnumber := Server.release_number h
  unfold Pool.release at h
  split at h
  · cases h
  · rename_i l hl
    cases h
    rw [restoring?]
    cases hr : Pool.restoration? _ _ with
    | none => rfl
    | some r =>
      have hfound := restoration?_number hr
      rcases List.mem_append.mp (mem_of_restoration? hr) with hold | hnew
      · have hlt := hn.restorations.2 _ (List.mem_map_of_mem hold)
        rw [hfound] at hlt
        exact absurd hlt (Nat.lt_irrefl _)
      · cases List.mem_singleton.mp hnew
        rfl

end Pool

namespace Server

variable {s t : Server σ} {k base n : Nat} {begins : Option (Context × String × Bytes)}

/-- The guest that has its turn when some work goes on, if any has. -/
def running? (s : Server σ) : ServerWork → Option Running
  | .filling _ _ f => some f.birth.running
  | .calling pool lease => (s.pool pool).calling? lease
  | .restoring pool number _ => (s.pool pool).restoring? number
  | _ => none

/-- **What the callback is asked when some work goes on.** -/
def asks (s : Server σ) (x : ServerWork) : List (Context × HostRequest) :=
  Running.asks? (s.running? x) quantum s.world

/-- **The rest of a turn** on a pool. -/
inductive Follows (k base : Nat) (begins : Option (Context × String × Bytes)) (s : Server σ) :
    Server σ → Prop
  | refl : Follows k base begins s s
  | report {t : Server σ} (h : Follows k base begins s t) (e : Event) :
      Follows k base begins s (t.report e)
  | act {t : Server σ} (h : Follows k base begins s t) {a : PoolAct}
      (ha : a.Follows base begins (t.pool k)) (hf : a.LetsFinish (t.pool k)) :
      Follows k base begins s (t.act k a)

namespace Follows

/-- **No guest runs in the rest of a turn.** -/
theorem still (h : Follows k base begins s t) : s.world.Still t.world := by
  induction h with
  | refl => exact .refl _
  | report h e ih => exact ih.trans (.report _ e)
  | @act t h a ha hf ih =>
    have hstill := Pool.world_still t.world (t.pool k) a
    rw [ha.running?_eq_none] at hstill
    exact ih.trans hstill

theorem size (h : Follows k base begins s t) : t.pools.size = s.pools.size := by
  induction h with
  | refl => rfl
  | report h e ih => exact ih
  | act h ha hf ih => exact size_after.trans ih

theorem pool_ne (h : Follows k base begins s t) (hn : n ≠ k) : t.pool n = s.pool n := by
  induction h with
  | refl => rfl
  | report h e ih => exact ih
  | act h ha hf ih => exact (pool_after_ne hn).trans ih

theorem pool_induction {I : Pool → Prop} (h : Follows k base begins s t) (hk : k < s.pools.size)
    (hs : I (s.pool k)) (hstep : ∀ (w : World σ) (p : Pool) (a : PoolAct),
      a.Follows base begins p → a.LetsFinish p → I p → I (a.perform w p)) : I (t.pool k) := by
  induction h with
  | refl => exact hs
  | report h e ih => exact ih
  | @act t h a ha hf ih =>
    rw [Server.act, pool_after (h.size.symm ▸ hk)]
    exact hstep _ _ _ ha hf ih

theorem answer (h : Follows k base begins s t) (result : Call.Result) :
    Follows k base begins s (t.answer result).1 := by
  cases result <;> exact h.report _

variable {w : World σ} {p : Pool} {rounds lease number : Nat} {outcome : Option Call.Result}

theorem restore (h : Follows k base begins s t) (hp : (t.pool k).restoring? number = none) :
    Follows k base begins s (t.restore rounds k number outcome).1 := by
  have hnext : Follows k base begins s (t.act k (.proceedRestoration rounds number)) :=
    h.act hp trivial
  have hturn := restore_givesBack t rounds k number outcome
  generalize t.restore rounds k number outcome = turn at hturn ⊢
  cases hturn with
  | goesOn hwork => exact hnext
  | done => exact hnext
  | answered result => exact hnext.answer result

theorem afterCall {standing : Standing Unit Call.Result}
    (h : Follows k base begins s (t.after k w p)) (hk : k < t.pools.size) (hn : p.WellNumbered)
    (hover : ∀ r, standing = .ended r → ∀ l ∈ p.lease? lease, l.call = none) :
    Follows k base begins s (t.afterCall rounds k lease (w, p, standing)).1 := by
  have hpool : (t.after k w p).pool k = p := pool_after hk
  match standing with
  | .busy _ | .blocked _ => exact h
  | .ended result =>
    have hnext : Follows k base begins s ((t.after k w p).act k (.release lease)) :=
      h.act trivial (hpool.symm ▸ hover result rfl)
    rw [Server.act, PoolAct.world, PoolAct.perform, hpool, after_after] at hnext
    rcases afterCall_ended t lease result with hturn | ⟨number, hrelease, hturn⟩
    · rw [hturn]
      exact hnext.answer result
    · rw [hturn]
      refine hnext.restore ?_
      rw [pool_after hk]
      exact Pool.restoring?_release hn hrelease

theorem afterCheckout {c : Context} {entrypoint : String} {payload : Bytes}
    {standing : Standing Nat (Except HostError Nat)}
    (h : Follows k base (some (c, entrypoint, payload)) s (t.after k w p)) (hk : k < t.pools.size)
    (hn : p.WellNumbered) (hlease : ∀ lease, standing = .ended (.ok lease) →
      base ≤ lease ∧ ∀ l ∈ p.lease? lease, l.call = none) :
    Follows k base (some (c, entrypoint, payload)) s
      (t.afterCheckout rounds k c entrypoint payload (w, p, standing)).1 := by
  have hpool : (t.after k w p).pool k = p := pool_after hk
  match standing with
  | .busy _ | .blocked _ => exact h
  | .ended (.error e) => exact h
  | .ended (.ok lease) =>
    have hnext : Follows k base (some (c, entrypoint, payload)) s
        ((t.after k w p).act k (.beginCall lease c entrypoint payload)) :=
      h.act ⟨(hlease lease rfl).1, rfl⟩ (hpool.symm ▸ (hlease lease rfl).2)
    have hworld : (t.after k w p).world = w := rfl
    have hn := hn.moves (Pool.beginCall_moves (w := w) lease c entrypoint payload)
    have hover : ∀ r, (p.beginCall w lease c entrypoint payload).2.2 = .ended r →
        ∀ l ∈ (p.beginCall w lease c entrypoint payload).2.1.lease? lease, l.call = none :=
      fun _ => Pool.call_beginCall
    rw [Server.act, PoolAct.world, PoolAct.perform, hpool, hworld, after_after] at hnext
    rw [Server.afterCheckout]
    generalize p.beginCall w lease c entrypoint payload = turn at hnext hn hover
    obtain ⟨v, q, standing⟩ := turn
    exact hnext.afterCall hk hn hover

end Follows

/-! ## Requests -/

/-- **A request that begins** asks for an instance; the rest follows. -/
theorem follows_checkout {rounds : Nat} {c c' : Context} {entrypoint : String} {payload : Bytes}
    (hk : k < s.pools.size) (hn : (s.pool k).WellNumbered) :
    Follows k (s.pool k).nextNumber (some (c', entrypoint, payload)) (s.act k (.checkout c))
      (s.afterCheckout rounds k c' entrypoint payload ((s.pool k).checkout s.world c)).1 := by
  have hmoves : Pool.Moves s.world (s.pool k) (.checkout c) _ :=
    Pool.perform_moves s.world (s.pool k) (.checkout c)
  have hfresh : ∀ lease, ((s.pool k).checkout s.world c).2.2 = .ended (.ok lease) →
      (s.pool k).nextNumber ≤ lease ∧
        ∀ l ∈ ((s.pool k).checkout s.world c).2.1.lease? lease, l.call = none :=
    fun lease h => ⟨Nat.le_of_eq (checkout_number h).symm, Pool.call_checkout hn h⟩
  have hn := hn.moves hmoves
  rw [PoolAct.perform] at hn
  rw [Server.act, PoolAct.world, PoolAct.perform]
  generalize (s.pool k).checkout s.world c = turn at hn hfresh
  obtain ⟨v, q, standing⟩ := turn
  exact Follows.refl.afterCheckout hk hn hfresh

/-- **A request that goes on** begins its turn with its act; the rest follows. -/
theorem follows_proceed {x : ServerWork} {a : PoolAct} (hx : x.act? = some (k, a))
    (hk : k < s.pools.size) (hn : (s.pool k).WellNumbered) :
    Follows k (s.pool k).nextNumber x.begins? (s.act k a) (s.proceed x).1 := by
  have hmoves : Pool.Moves s.world (s.pool k) a _ := Pool.perform_moves s.world (s.pool k) a
  have hnumbered := hn
  have hn := hn.moves hmoves
  clear hmoves
  -- The act on the pool runs the guest; what follows it in the same turn runs none.
  cases x with
  | waiting pool ticket c entrypoint payload =>
    cases hx
    have hfresh : ∀ lease, ((s.pool k).pollCheckout s.world ticket).2.2 = .ended (.ok lease) →
        (s.pool k).nextNumber ≤ lease ∧
          ∀ l ∈ ((s.pool k).pollCheckout s.world ticket).2.1.lease? lease, l.call = none :=
      fun lease h => ⟨Nat.le_of_eq (pollCheckout_number h).symm, Pool.call_pollCheckout hnumbered h⟩
    rw [PoolAct.perform] at hn
    rw [Server.act, PoolAct.world, PoolAct.perform, proceed]
    generalize (s.pool k).pollCheckout s.world ticket = turn at hn hfresh
    obtain ⟨v, q, standing⟩ := turn
    exact Follows.refl.afterCheckout hk hn hfresh
  | calling pool lease =>
    cases hx
    have hover : ∀ r, ((s.pool k).proceedCall quantum s.world lease).2.2 = .ended r →
        ∀ l ∈ ((s.pool k).proceedCall quantum s.world lease).2.1.lease? lease, l.call = none :=
      fun _ => Pool.call_proceedCall
    rw [PoolAct.perform] at hn
    rw [Server.act, PoolAct.world, PoolAct.perform, proceed]
    generalize (s.pool k).proceedCall quantum s.world lease = turn at hn hover
    obtain ⟨v, q, standing⟩ := turn
    exact Follows.refl.afterCall hk hn hover
  | restoring pool number outcome =>
    cases hx
    have hturn := restore_givesBack s quantum k number outcome
    rw [proceed]
    generalize s.restore quantum k number outcome = turn at hturn ⊢
    cases hturn with
    | goesOn hwork => exact .refl
    | done => exact .refl
    | answered result => exact Follows.refl.answer result
  | _ => cases hx

/-- The guest that has its turn is the one that has it in the act. -/
theorem running?_of_act? {x : ServerWork} {a : PoolAct} (hx : x.act? = some (k, a)) :
    Running.after? (s.running? x) quantum s.world =
      Running.after? (a.running? (s.pool k)) a.rounds s.world := by
  cases x with
  | waiting pool ticket c entrypoint payload => cases hx; rfl
  | calling pool lease => cases hx; rfl
  | restoring pool number outcome => cases hx; rfl
  | _ => cases hx

/-! ## Other work -/

theorem publish_still (s : Server σ) (name hash : String) (p : Pool) :
    s.world.Still (s.publish name hash p).1.world := by
  unfold publish
  split
  · exact .report _ _
  · exact Pool.emptied_still s.world p.close

theorem afterFilling_still (s : Server σ) (name hash : String)
    (turn : World σ × Standing Filling Filling.Result) :
    turn.1.Still (s.afterFilling name hash turn).1.world := by
  obtain ⟨w, standing⟩ := turn
  match standing with
  | .busy f | .blocked f => exact .refl w
  | .ended (.error e) => exact .refl w
  | .ended (.ok p) => exact publish_still { s with world := w } name hash p

theorem compile_still (s : Server σ) (source : ModuleSource) :
    s.world.Still (s.compile source).1 := by
  have htext (text : String) : s.world.Still (Compiled.ofText s.world text).1 := by
    unfold Compiled.ofText
    split
    · exact .refl _
    · exact .report _ _
  have hbytes (bytes : Bytes) : s.world.Still (Compiled.ofBytes s.world bytes).1 := by
    unfold Compiled.ofBytes
    split
    · exact .refl _
    · split
      · exact .refl _
      · split
        · exact .refl _
        · exact .report _ _
  cases source with
  | bytes content => exact hbytes content
  | text content => exact htext content
  | file path =>
    rw [compile, compileFile]
    split
    · exact .report _ _
    · split
      · split
        · exact .refl _
        · exact htext _
      · exact hbytes _

/-- **Compiling a module runs no guest.** -/
theorem fill_still (s : Server σ) (plan : LoadPlan) : s.world.Still (s.fill plan).1.world := by
  have hcompile := s.compile_still plan.source
  unfold fill
  generalize s.compile plan.source = turn at hcompile
  obtain ⟨w, result⟩ := turn
  cases result with
  | error e => exact hcompile
  | ok c =>
    exact (hcompile.trans (Filling.begin_still w _ _ _)).trans (afterFilling_still s _ _ _)

theorem pollUnload_still (s : Server σ) (k : Nat) (deadline : Option Nat) :
    s.world.Still (s.pollUnload k deadline).1.world := by
  have hdrain := Pool.pollDrain_still s.world (s.pool k) deadline
  unfold pollUnload
  generalize (s.pool k).pollDrain s.world deadline = turn at hdrain
  obtain ⟨w, p, outcome⟩ := turn
  cases outcome with
  | none => exact hdrain
  | some outcome => exact hdrain.trans (.report _ _)

theorem pollDrains_still (s : Server σ) (drains : List Draining) :
    s.world.Still (s.pollDrains drains).1.world := by
  induction drains generalizing s with
  | nil => exact .refl _
  | cons d drains ih =>
    have hdrain := Pool.pollDrain_still s.world (s.pool d.pool) d.wait.deadline
    rw [pollDrains]
    generalize (s.pool d.pool).pollDrain s.world d.wait.deadline = turn at hdrain
    obtain ⟨w, p, outcome⟩ := turn
    cases outcome <;> exact hdrain.trans (ih (s.after d.pool w p))

theorem reportDrained_still (outcomes : List (String × DrainOutcome)) (s : Server σ) :
    s.world.Still (outcomes.foldl reportDrained s).world := by
  induction outcomes generalizing s with
  | nil => exact .refl _
  | cons d outcomes ih =>
    refine World.Still.trans ?_ (ih (s.reportDrained d))
    obtain ⟨name, outcome⟩ := d
    rw [reportDrained]
    split
    · exact .refl _
    · exact .report _ _

theorem pollClose_still (s : Server σ) (drains : List Draining) :
    s.world.Still (s.pollClose drains).1.world := by
  have hdrains := s.pollDrains_still drains
  unfold pollClose
  generalize s.pollDrains drains = turn at hdrains
  obtain ⟨t, outcomes, waiting⟩ := turn
  have hreported := hdrains.trans (reportDrained_still outcomes t)
  dsimp only
  split
  · exact hreported.trans (.report _ _)
  · exact hreported

/-- **Shutting down runs no guest.** -/
theorem shutDown_still (s : Server σ) : s.world.Still s.shutDown.1.world := by
  have hclose (entries : List (String × Served)) (t : Server σ) :
      (entries.foldl (fun s e => s.closePool e.2.pool) t).world = t.world := by
    induction entries generalizing t with
    | nil => rfl
    | cons e entries ih => exact ih (t.closePool e.2.pool)
  unfold shutDown
  split
  · exact .report _ _
  · dsimp only
    refine World.Still.trans ?_ (pollClose_still _ _)
    rw [hclose]
    exact .report _ _

/-! ## All work -/

/-- **In a turn of some work** the guest runs that has its turn; the rest is the host's own affair. -/
theorem proceed_still (s : Server σ) {x : ServerWork} (hx : x.Sound s)
    (hn : ∀ n, (s.pool n).WellNumbered) :
    (Running.after? (s.running? x) quantum s.world).Still (s.proceed x).1.world := by
  have hrequest {k : Nat} {a : PoolAct} (ha : x.act? = some (k, a)) (hk : k < s.pools.size) :
      (Running.after? (s.running? x) quantum s.world).Still (s.proceed x).1.world := by
    rw [running?_of_act? ha]
    exact (Pool.world_still s.world (s.pool k) a).trans (follows_proceed ha hk (hn k)).still
  cases x with
  | compiling plan => exact fill_still s plan
  | filling name hash f =>
    exact (Filling.proceed_still quantum s.world f).trans (afterFilling_still s name hash _)
  | waiting pool ticket c entrypoint payload => exact hrequest rfl hx
  | calling pool lease => exact hrequest rfl hx
  | restoring pool number outcome => exact hrequest rfl hx
  | unloading pool wait => exact pollUnload_still s pool wait.deadline
  | closing drains => exact pollClose_still s drains

/-- **A command that begins runs no guest.** -/
theorem begin_still (s : Server σ) (hn : ∀ n, (s.pool n).WellNumbered)
    (hnamed : ∀ e ∈ s.registry.entries.entries, e.2.pool < s.pools.size) (c : Context)
    (command : ServerCommand) : s.world.Still (s.begin c command).1.world := by
  cases command with
  | load plan =>
    rcases load_begins s plan with hload | ⟨e, hload⟩ <;> (rw [begin, hload]; exact .refl _)
  | execute name entrypoint payload =>
    rw [begin]
    cases ho : s.ensureOpen with
    | error e =>
      simp only [execute, ho]
      exact .refl _
    | ok _ =>
      cases hg : s.registry.get name with
      | error e =>
        simp only [execute, ho, hg]
        exact .refl _
      | ok served =>
        simp only [execute, ho, hg]
        have hk := hnamed _ (Registry.mem_of_get hg).2
        exact (Pool.checkout_still s.world (s.pool served.pool) _).trans
          (follows_checkout hk (hn _)).still
  | unload name =>
    rw [begin, unload]
    split
    · exact .refl _
    · rename_i registry served _
      exact pollUnload_still (Server.after { s with registry := registry } served.pool s.world
        (s.pool served.pool).close) served.pool _
  | shutDown => exact shutDown_still s
  | tick count => exact .of_slots_le (Nat.le_refl _)

theorem drop_still (s : Server σ) (x : ServerWork) : s.world.Still (s.drop x).world := by
  cases x with
  | filling name hash f => exact Filling.drop_still s.world f
  | waiting pool ticket c entrypoint payload => exact .refl _
  | calling pool lease => exact Pool.abandon_still s.world (s.pool pool) lease
  | restoring pool number outcome =>
    exact Pool.dropRestoration_still s.world (s.pool pool) number
  | compiling plan => exact .refl _
  | unloading pool wait => exact .refl _
  | closing drains => exact .refl _

/-- **What is asked in a turn** is what the guest asks that has its turn. -/
theorem proceed_hears (s : Server σ) {x : ServerWork} (hx : x.Sound s)
    (hn : ∀ n, (s.pool n).WellNumbered) :
    s.world.Hears (s.proceed x).1.world (s.world.callback.after s.world.state (s.asks x)) :=
  (Running.after?_hears (s.running? x) quantum s.world).still (s.proceed_still hx hn)

end Server

/-! ## All steps -/

/-- Whether a step is time that passes. -/
def ServerStep.elapses : ServerStep σ → Bool
  | .act (.elapse _) => true
  | _ => false

namespace Traffic

variable {t : Traffic σ} {a : ServerStep σ}

/-- The guest that has its turn in a step, if any has. -/
def running? (t : Traffic σ) : ServerStep σ → Option Running
  | .act (.proceed k) => t.works[k]?.bind t.server.running?
  | _ => none

/-- **In a step** the guest runs that has its turn; the rest is the host's own affair. -/
theorem Lawful.step_still (h : Lawful t) (ha : a.elapses = false) :
    (Running.after? (t.running? a) Server.quantum t.server.world).Still (t.step a).server.world := by
  have hproper := h.proper
  have hnumbered : ∀ n, (t.server.pool n).WellNumbered := fun n => (hproper.kindred n).numbered
  cases a with
  | act a =>
    cases a with
    | begin c command =>
      exact Server.begin_still t.server hnumbered (fun e he => (hproper.named e he).1) c command
    | proceed k =>
      rw [step_proceed, perform, running?]
      cases hx : t.works[k]? with
      | none => exact .refl _
      | some x => exact Server.proceed_still t.server (h.sound hx) hnumbered
    | drop k =>
      rw [step_drop, perform]
      split
      · exact .refl _
      · exact Server.drop_still t.server _
    | collect => exact .refl _
    | elapse w => cases ha
  | shut =>
    rw [Traffic.step, Server.shut]
    split
    · exact .report _ _
    · exact .report _ _
  | close n =>
    rw [Traffic.step]
    split <;> exact .refl _
  | drain n deadline =>
    rw [Traffic.step]
    split
    · exact Pool.world_still t.server.world (t.server.pool n) (.drain deadline)
    · exact .refl _

end Traffic
end FunctionHost

import FunctionHost.Proofs.Server.Places
import FunctionHost.Proofs.Server.Shutdown

/-!
# All instances on an engine

The engine of a server has a limited number of places for instances, and whoever has the engine may
make pools of their own on it.  A `Site` is all that has instances there: the server with its work,
and those pools, of which some are being filled.  In a `SiteStep` one of them has its turn, until it
waits again; so a list of steps is a run of any number of pools, however they take turns.

The places that are taken are those of the instances that are there or being made (`Site.living`),
after every step, and limited room is never overdrawn (`Site.places_are_conserved`).
-/
namespace FunctionHost

variable {σ : Type}

/-- **All that has instances on the engine of a server.** -/
structure Site (σ : Type) where
  /-- The server and what it has to do. -/
  traffic : Traffic σ
  /-- The pools that others have made. -/
  pools : List Pool := []
  /-- The pools that others are making. -/
  fillings : List Filling := []

/-- **What can happen on an engine** between two points at which anything waits. -/
inductive SiteStep (σ : Type) where
  /-- Something happens that can happen to the server, or time passes. -/
  | serve (a : ServerStep σ)
  /-- Somebody begins to make a pool. -/
  | construct (blueprint : Blueprint) (size : Nat) (checkoutTimeout : Option Nat)
  /-- The making of a pool goes on. -/
  | fill (index rounds : Nat)
  /-- The making of a pool is given up. -/
  | giveUp (index : Nat)
  /-- Something happens to a pool that somebody has made. -/
  | act (index : Nat) (a : PoolAct)

/-- A step as it can happen on an engine, whose settings never change. -/
def ServerStep.on (e : EngineSettings) : ServerStep σ → ServerStep σ
  | .act (.elapse w) => .act (.elapse { w with engine := e })
  | a => a

/-- Which pool is meant: one of the server, or one that somebody else has made. -/
inductive PoolOf where
  /-- The pool of the server with that number. -/
  | served (number : Nat)
  /-- The pool of somebody else. -/
  | own (index : Nat)

namespace Site

/-- What all guests share. -/
def world (h : Site σ) : World σ := h.traffic.server.world

/-- The site in another world. -/
def within (h : Site σ) (w : World σ) : Site σ :=
  { h with traffic := { h.traffic with server := { h.traffic.server with world := w } } }

/-- What follows a turn of making a pool. -/
def settle (h : Site σ) (w : World σ) : Standing Filling Filling.Result → Site σ
  | .busy f | .blocked f => { h.within w with fillings := f :: h.fillings }
  | .ended (.ok p) => { h.within w with pools := h.pools ++ [p] }
  | .ended (.error _) => h.within w

/-- **The site after a step.** -/
def step (h : Site σ) : SiteStep σ → Site σ
  | .serve a => { h with traffic := h.traffic.step (a.on h.world.engine) }
  | .construct b size timeout =>
    let (w, standing) := Filling.begin h.world b size timeout
    h.settle w standing
  | .fill k rounds =>
    match h.fillings[k]? with
    | none => h
    | some f =>
      let (w, standing) := Filling.proceed rounds h.world f
      { h with fillings := h.fillings.eraseIdx k }.settle w standing
  | .giveUp k =>
    match h.fillings[k]? with
    | none => h
    | some f => { h.within (Filling.drop h.world f) with fillings := h.fillings.eraseIdx k }
  | .act k a =>
    match h.pools[k]? with
    | none => h
    | some p => { h.within (a.world h.world p) with pools := h.pools.set k (a.perform h.world p) }

/-- **The site after some steps.** -/
def steps (h : Site σ) (as : List (SiteStep σ)) : Site σ := as.foldl step h

/-- **How many instances there are**, counting those that are being made: the instances of the pools
of the server and of those for which it loads modules, and the instances of all other pools and of
those that are being made. -/
def living (h : Site σ) : Nat :=
  h.traffic.server.stock + h.traffic.births + (h.pools.map fun p => p.holdings.length).sum +
    (h.fillings.map fun f => f.made.length + 1).sum

/-- The pool that is meant, if it is there. -/
def pool? (h : Site σ) : PoolOf → Option Pool
  | .served n => h.traffic.server.pools[n]?
  | .own k => h.pools[k]?

/-- **A step ends the making of a pool that comes to nothing**, for which there were so many
instances: the load of a module by the server, or what somebody else does, be it refused or given
up.  What is left of the work of the server and of what others are making is given, too. -/
inductive Fails (h : Site σ) : SiteStep σ → Nat → List ServerWork → List Filling → Prop
  | load {a : ServerStep σ} {n : Nat} {rest : List ServerWork} (hf : h.traffic.Fails a n rest) :
      Fails h (.serve a) n rest h.fillings
  | refused {b : Blueprint} {size : Nat} {timeout : Option Nat} {e : HostError}
      (hf : (Filling.begin h.world b size timeout).2 = .ended (.error e)) :
      Fails h (.construct b size timeout) 0 h.traffic.works h.fillings
  | failed {k rounds : Nat} {f : Filling} {e : HostError} (hx : h.fillings[k]? = some f)
      (hf : (Filling.proceed rounds h.world f).2 = .ended (.error e)) :
      Fails h (.fill k rounds) (f.made.length + 1) h.traffic.works (h.fillings.eraseIdx k)
  | givenUp {k : Nat} {f : Filling} (hx : h.fillings[k]? = some f) :
      Fails h (.giveUp k) (f.made.length + 1) h.traffic.works (h.fillings.eraseIdx k)

/-- **A step drains a pool**: in a pool of the server, a command or some work does that was to drain
it and does not wait for that any more, or a task of a shutdown; in the pool of somebody else, they
look whether it is drained, and it is. -/
inductive Drains (h : Site σ) : SiteStep σ → PoolOf → Prop
  | command {c : Context} {command : ServerCommand} {n : Nat}
      (hd : h.traffic.server.Drains n command)
      (hover : ∀ y ∈ (h.traffic.server.begin c command).2.work?, ¬ y.Drains n) :
      Drains h (.serve (.act (.begin c command))) (.served n)
  | work {k n : Nat} {x : ServerWork} (hx : h.traffic.works[k]? = some x) (hd : x.Drains n)
      (hover : ∀ y ∈ (h.traffic.server.proceed x).2.work?, ¬ y.Drains n) :
      Drains h (.serve (.act (.proceed k))) (.served n)
  | task {n : Nat} {deadline : Option Nat} {o : DrainOutcome}
      (hn : h.traffic.server.closed = true ∧ n < h.traffic.server.pools.size ∧
        (h.traffic.server.pool n).closed = true)
      (ho : (PoolAct.drain deadline).outcome? h.world (h.traffic.server.pool n) = some o) :
      Drains h (.serve (.drain n deadline)) (.served n)
  | own {k : Nat} {p : Pool} {deadline : Option Nat} {o : DrainOutcome} (hp : h.pools[k]? = some p)
      (ho : (PoolAct.drain deadline).outcome? h.world p = some o) :
      Drains h (.act k (.drain deadline)) (.own k)

/-- **A sound site**: all that it has is in order, and the places that are taken are those of its
instances. -/
structure Sound (h : Site σ) : Prop where
  lawful : h.traffic.Lawful
  numbered : ∀ p ∈ h.pools, p.WellNumbered
  fits : h.world.Fits
  lives : h.world.slots = h.living

variable {h : Site σ} {w : World σ} {k n rounds : Nat} {a : SiteStep σ}

/-! ## Places -/

theorem world_settle (h : Site σ) (w : World σ) (s : Standing Filling Filling.Result) :
    (h.settle w s).world = w := by
  match s with
  | .busy f | .blocked f => rfl
  | .ended (.ok p) => rfl
  | .ended (.error e) => rfl

theorem living_settle {s : Standing Filling Filling.Result}
    (hs : ∀ p, s = .ended (.ok p) → p.holdings.length = p.idle.length) :
    (h.settle w s).living = h.living + Filling.lives s := by
  match s with
  | .busy f | .blocked f =>
    simp only [settle, living, within, Filling.lives, List.map_cons, List.sum_cons]
    show h.traffic.server.stock + h.traffic.births + _ + _ = _
    omega
  | .ended (.ok p) =>
    have hlength := hs p rfl
    simp only [settle, living, within, Filling.lives, List.map_append, List.sum_append_nat,
      List.map_cons, List.map_nil, List.sum_singleton, hlength]
    show h.traffic.server.stock + h.traffic.births + _ + _ = _
    omega
  | .ended (.error e) => rfl

/-- What is being made, and all else. -/
theorem living_eraseIdx {f : Filling} (hx : h.fillings[k]? = some f) :
    h.living = ({ h with fillings := h.fillings.eraseIdx k } : Site σ).living +
      (f.made.length + 1) := by
  obtain ⟨hk, rfl⟩ := List.getElem?_eq_some_iff.mp hx
  have hperm := List.getElem_cons_eraseIdx_perm hk
  have hsum := ((hperm.map fun f => f.made.length + 1).sum_nat).symm
  simp only [living, hsum, List.map_cons, List.sum_cons]
  omega

/-- One pool, and all else. -/
theorem living_set {p : Pool} (hp : h.pools[k]? = some p) :
    ∃ rest, h.living = rest + p.holdings.length ∧ ∀ (w : World σ) (q : Pool),
      ({ h.within w with pools := h.pools.set k q } : Site σ).living =
        rest + q.holdings.length := by
  have hget : (h.pools.map fun p => p.holdings.length)[k]? = some p.holdings.length := by
    rw [List.getElem?_map, hp]
    rfl
  let others := h.traffic.server.stock + h.traffic.births +
    (h.fillings.map fun f => f.made.length + 1).sum
  refine ⟨others + ((h.pools.map fun p => p.holdings.length).sum - p.holdings.length), ?_, ?_⟩
  · obtain ⟨rest, hsum, -⟩ := Server.sum_set (b := 0) hget
    simp only [living, others, hsum]
    omega
  · intro w q
    obtain ⟨rest, hsum, hset⟩ := Server.sum_set (b := q.holdings.length) hget
    simp only [living, within, List.map_set, hset, hsum, others]
    show h.traffic.server.stock + h.traffic.births + _ + _ = _
    omega

/-- **A step changes the places that are taken** by what it makes and destroys. -/
theorem Sound.trades (hs : Sound h) (a : SiteStep σ) :
    h.world.Trades h.living (h.step a).world (h.step a).living := by
  cases a with
  | serve a =>
    -- What the server owns is one part of what lives.
    have hliving (t : Traffic σ) : ({ h with traffic := t } : Site σ).living =
        (h.pools.map fun p => p.holdings.length).sum +
          (h.fillings.map fun f => f.made.length + 1).sum + (t.server.stock + t.births) := by
      simp only [living]
      omega
    have hgoes := Traffic.goes_step hs.lawful (a.on h.world.engine)
    rw [step, hliving, hliving]
    exact (hgoes.trades hs.lawful.proper).more _
  | construct b size timeout =>
    have hbegin := Filling.trades_begin h.world b size timeout
    have hbare := fun p => Filling.lives_begin h.world b size timeout (p := p)
    rw [step]
    generalize Filling.begin h.world b size timeout = turn at hbegin hbare
    obtain ⟨v, s⟩ := turn
    dsimp only
    rw [world_settle, living_settle fun p hp => (hbare p hp).2]
    exact hbegin.more h.living
  | fill k rounds =>
    rw [step]
    cases hx : h.fillings[k]? with
    | none => exact .of_slots rfl
    | some f =>
      have hproceed := Filling.trades_proceed rounds h.world f
      have hbare := fun p => Filling.lives_proceed rounds h.world f (p := p)
      dsimp only
      generalize Filling.proceed rounds h.world f = turn at hproceed hbare
      obtain ⟨v, s⟩ := turn
      rw [world_settle, living_settle fun p hp => (hbare p hp).2, living_eraseIdx hx]
      exact hproceed.more _
  | giveUp k =>
    rw [step]
    cases hx : h.fillings[k]? with
    | none => exact .of_slots rfl
    | some f =>
      rw [living_eraseIdx hx]
      exact (Filling.trades_drop h.world f).more _
  | act k a =>
    rw [step]
    cases hp : h.pools[k]? with
    | none => exact .of_slots rfl
    | some p =>
      obtain ⟨rest, hliving, hset⟩ := living_set hp
      have htrades := Pool.trades_perform (hs.numbered p (List.mem_of_getElem? hp)) h.world a
      dsimp only
      rw [hliving, hset]
      exact htrades.more rest

/-! ## Limits -/

/-- Time that passes leaves the engine and the places as they are. -/
theorem abides_serve (hs : h.traffic.Lawful) (a : ServerStep σ) :
    h.world.Abides (h.traffic.step (a.on h.world.engine)).server.world := by
  have hstill (b : ServerStep σ) (hb : b.elapses = false) :
      h.world.Abides (h.traffic.step b).server.world :=
    (Running.after?_lasts ..).abides.trans (hs.step_still hb).abides
  cases a with
  | act a =>
    cases a with
    | elapse w => exact .of_slots rfl rfl
    | _ => exact hstill _ rfl
  | _ => exact hstill _ rfl

/-- **A step leaves the engine as it is** and does not overdraw its room. -/
theorem Sound.abides (hs : Sound h) (a : SiteStep σ) : h.world.Abides (h.step a).world := by
  cases a with
  | serve a => exact abides_serve hs.lawful a
  | construct b size timeout =>
    rw [step]
    dsimp only
    rw [world_settle]
    exact (Filling.begin_still ..).abides
  | fill k rounds =>
    rw [step]
    cases hx : h.fillings[k]? with
    | none => exact .refl _
    | some f =>
      dsimp only
      rw [world_settle]
      exact (f.birth.running.after_lasts rounds h.world).abides.trans
        (Filling.proceed_still ..).abides
  | giveUp k =>
    rw [step]
    cases hx : h.fillings[k]? with
    | none => exact .refl _
    | some f => exact (Filling.drop_still h.world f).abides
  | act k a =>
    rw [step]
    cases hp : h.pools[k]? with
    | none => exact .refl _
    | some p => exact Pool.world_abides h.world p a

/-! ## Soundness -/

theorem numbered_settle {s : Standing Filling Filling.Result}
    (hs : ∀ p, s = .ended (.ok p) → p.WellNumbered) (hh : ∀ p ∈ h.pools, p.WellNumbered) :
    ∀ p ∈ (h.settle w s).pools, p.WellNumbered := by
  match s with
  | .busy f | .blocked f => exact hh
  | .ended (.error e) => exact hh
  | .ended (.ok q) =>
    intro p hp
    rcases List.mem_append.mp hp with hp | hp
    · exact hh p hp
    · rw [List.mem_singleton.mp hp]
      exact hs q rfl

theorem lawful_within (hh : h.traffic.Lawful) (w : World σ) : (h.within w).traffic.Lawful := by
  obtain ⟨broken, hsteady⟩ := hh.steady
  exact ⟨⟨broken, Server.InOrder.world hsteady w⟩, hh.proper.world w, hh.genuine⟩

theorem lawful_settle (hh : h.traffic.Lawful) (w : World σ) (s : Standing Filling Filling.Result) :
    (h.settle w s).traffic.Lawful := by
  match s with
  | .busy f | .blocked f => exact lawful_within hh w
  | .ended (.error e) => exact lawful_within hh w
  | .ended (.ok q) => exact lawful_within hh w

/-- **A step keeps a site sound.** -/
theorem Sound.step (hs : Sound h) (a : SiteStep σ) : Sound (h.step a) := by
  -- There is nobody else, so the trade says how many live.
  have hlives : (h.step a).world.slots = (h.step a).living := by
    have hslots := hs.trades a 0 (by rw [hs.lives, Nat.zero_add])
    rwa [Nat.zero_add] at hslots
  refine ⟨?_, ?_, (hs.abides a).fits hs.fits, hlives⟩
  · cases a with
    | serve a => exact hs.lawful.step _
    | construct b size timeout => exact lawful_settle hs.lawful _ _
    | fill k rounds =>
      rw [Site.step]
      split
      · exact hs.lawful
      · exact lawful_settle (h := { h with fillings := h.fillings.eraseIdx k }) hs.lawful _ _
    | giveUp k =>
      rw [Site.step]
      split
      · exact hs.lawful
      · exact lawful_within hs.lawful _
    | act k a =>
      rw [Site.step]
      split
      · exact hs.lawful
      · exact lawful_within hs.lawful _
  · cases a with
    | serve a => exact hs.numbered
    | construct b size timeout =>
      exact numbered_settle (fun p hp => (Filling.lives_begin _ _ _ _ hp).1) hs.numbered
    | fill k rounds =>
      rw [Site.step]
      split
      · exact hs.numbered
      · exact numbered_settle (h := { h with fillings := h.fillings.eraseIdx k })
          (fun p hp => (Filling.lives_proceed _ _ _ hp).1) hs.numbered
    | giveUp k =>
      rw [Site.step]
      split <;> exact hs.numbered
    | act k a =>
      rw [Site.step]
      split
      · exact hs.numbered
      · rename_i p hp
        intro q hq
        rcases List.mem_or_eq_of_mem_set hq with hq | rfl
        · exact hs.numbered q hq
        · exact (hs.numbered p (List.mem_of_getElem? hp)).moves (Pool.perform_moves h.world p a)

theorem steps_induction {I : Site σ → Prop} (hh : I h) (hstep : ∀ h a, I h → I (Site.step h a))
    (as : List (SiteStep σ)) : I (h.steps as) := by
  induction as generalizing h with
  | nil => exact hh
  | cons a as ih => exact ih (hstep h a hh)

theorem Sound.steps (hs : Sound h) (as : List (SiteStep σ)) : Sound (h.steps as) :=
  steps_induction hs (fun _ a hh => hh.step a) as

/-- The engine is the same all the time. -/
theorem Sound.engine (hs : Sound h) (as : List (SiteStep σ)) :
    (h.steps as).world.engine = h.world.engine :=
  (steps_induction (I := fun g => Sound g ∧ g.world.engine = h.world.engine) ⟨hs, rfl⟩
    (fun _ a hg => ⟨hg.1.step a, (hg.1.abides a).engine.trans hg.2⟩) as).2

/-! ## Pools -/

theorem pools_settle (h : Site σ) (w : World σ) (s : Standing Filling Filling.Result) :
    (h.settle w s).traffic.server.pools = h.traffic.server.pools ∧
      ∃ more, (h.settle w s).pools = h.pools ++ more := by
  match s with
  | .busy f | .blocked f => exact ⟨rfl, [], (List.append_nil _).symm⟩
  | .ended (.error e) => exact ⟨rfl, [], (List.append_nil _).symm⟩
  | .ended (.ok q) => exact ⟨rfl, [q], rfl⟩

theorem pool?_served {p : Pool} :
    h.pool? (.served n) = some p ↔ n < h.traffic.server.pools.size ∧ h.traffic.server.pool n = p := by
  rw [pool?, Array.getElem?_eq_some_iff, Server.pool]
  constructor
  · rintro ⟨hn, rfl⟩
    exact ⟨hn, by simp [hn]⟩
  · rintro ⟨hn, rfl⟩
    exact ⟨hn, by simp [hn]⟩

/-- What is somebody's own stays so, whatever comes after it. -/
theorem pool?_own_of_append {g : Site σ} {p : Pool} (hp : h.pool? (.own k) = some p)
    (more : List Pool) (hg : g.pools = h.pools ++ more) : g.pool? (.own k) = some p := by
  obtain ⟨hk, rfl⟩ := List.getElem?_eq_some_iff.mp hp
  rw [pool?, hg, List.getElem?_append_left hk]
  exact hp

variable {ref : PoolOf} {p : Pool} {I : Pool → Prop}

/-- **What every act on a pool keeps**, a step keeps. -/
theorem Sound.pool_step (hs : Sound h)
    (hI : ∀ (w : World σ) p b q, I p → Pool.Moves w p b q → I q) (hp : h.pool? ref = some p)
    (hip : I p) (a : SiteStep σ) : ∃ q, (h.step a).pool? ref = some q ∧ I q := by
  have hsame {g : Site σ} (hg : g.pool? ref = some p) : ∃ q, g.pool? ref = some q ∧ I q :=
    ⟨p, hg, hip⟩
  -- Making a pool leaves alone those that are there.
  have hsettle (g : Site σ) (hpools : g.pools = h.pools)
      (hserved : g.traffic.server.pools = h.traffic.server.pools) (w : World σ)
      (s : Standing Filling Filling.Result) : (g.settle w s).pool? ref = some p := by
    obtain ⟨hsettled, more, hmore⟩ := g.pools_settle w s
    cases ref with
    | served n =>
      rw [pool?, hsettled, hserved]
      exact hp
    | own k => exact pool?_own_of_append hp more (by rw [hmore, hpools])
  cases a with
  | serve a =>
    cases ref with
    | own k => exact hsame hp
    | served n =>
      obtain ⟨hn, rfl⟩ := pool?_served.mp hp
      have hgoes := Traffic.goes_step hs.lawful (a.on h.world.engine)
      have hnext := hgoes.pool_induction hn hip hI
      exact ⟨_, pool?_served.mpr ⟨Nat.lt_of_lt_of_le hn hgoes.size_le, rfl⟩, hnext⟩
  | construct b size timeout => exact hsame (hsettle h rfl rfl _ _)
  | fill k rounds =>
    rw [Site.step]
    split
    · exact hsame hp
    · exact hsame (hsettle { h with fillings := h.fillings.eraseIdx k } rfl rfl _ _)
  | giveUp k =>
    rw [Site.step]
    split
    · exact hsame hp
    · cases ref <;> exact hsame hp
  | act k a =>
    rw [Site.step]
    split
    · exact hsame hp
    · rename_i q hq
      cases ref with
      | served n => exact hsame hp
      | own j =>
        by_cases hj : k = j
        · subst hj
          obtain rfl := Option.some.inj (hq.symm.trans hp)
          obtain ⟨hk, -⟩ := List.getElem?_eq_some_iff.mp hq
          exact ⟨_, List.getElem?_set_self hk, hI _ _ _ _ hip (Pool.perform_moves h.world q a)⟩
        · exact hsame ((List.getElem?_set_ne hj).trans hp)

theorem Sound.pool_steps (hs : Sound h)
    (hI : ∀ (w : World σ) p b q, I p → Pool.Moves w p b q → I q) (hp : h.pool? ref = some p)
    (hip : I p) (as : List (SiteStep σ)) : ∃ q, (h.steps as).pool? ref = some q ∧ I q :=
  (steps_induction (I := fun g => Sound g ∧ ∃ q, g.pool? ref = some q ∧ I q) ⟨hs, p, hp, hip⟩
    (fun _ a ⟨hg, _, hq, hiq⟩ => ⟨hg.step a, hg.pool_step hI hq hiq a⟩) as).2

/-- **A step that drains a pool** leaves it drained. -/
theorem Sound.dry (hs : Sound h) {a : SiteStep σ} (hd : Drains h a ref) :
    ∃ q, (h.step a).pool? ref = some q ∧ q.Dry := by
  have hserved {b : ServerStep σ} {n : Nat} (hn : n < h.traffic.server.pools.size)
      (hdry : ((h.traffic.step b).server.pool n).Dry) :
      ∃ q, ({ h with traffic := h.traffic.step b } : Site σ).pool? (.served n) = some q ∧ q.Dry :=
    ⟨_, pool?_served.mpr ⟨Nat.lt_of_lt_of_le hn (Traffic.goes_step hs.lawful b).size_le, rfl⟩, hdry⟩
  cases hd with
  | command hd hover =>
    exact hserved (Server.lt_size_of_drains hs.lawful.proper hd)
      (Server.dry_begin hs.lawful.proper hd hover)
  | @work k n x hx hd hover =>
    have hsound := hs.lawful.sound hx
    refine hserved (b := .act (.proceed k)) (Server.lt_size_of_work_drains hsound hd) ?_
    rw [Traffic.step_proceed, Traffic.perform, hx]
    exact Server.dry_proceed hsound hd hover
  | @task n deadline o hn ho =>
    refine hserved (b := .drain n deadline) hn.2.1 ?_
    rw [Traffic.step, if_pos hn, Server.act, Server.pool_after hn.2.1]
    exact Pool.dry_of_outcome ho
  | @own k p deadline o hp ho =>
    obtain ⟨hk, -⟩ := List.getElem?_eq_some_iff.mp hp
    rw [Site.step, hp]
    exact ⟨_, List.getElem?_set_self hk, Pool.dry_of_outcome ho⟩

/-! ## Pools that come to nothing -/

/-- **A site as it was**, but for the places that are taken, for the work of the server and for what
others are making. -/
structure Untouched (h : Site σ) (works : List ServerWork) (fillings : List Filling) (g : Site σ) :
    Prop where
  server : Traffic.Untouched h.traffic g.traffic
  works : g.traffic.works = works
  pools : g.pools = h.pools
  fillings : g.fillings = fillings

/-- **What is made of a pool that comes to nothing** gives all its places back. -/
theorem Sound.fails (hs : Sound h) {n : Nat} {works : List ServerWork} {fillings : List Filling}
    (hf : Fails h a n works fillings) :
    Untouched h works fillings (h.step a) ∧ (h.step a).world.slots + n = h.world.slots := by
  -- Whose places they were, they are given back.
  have hslots {own : Nat} (hown : own ≤ h.living) {v : World σ} (ht : h.world.Trades own v 0) :
      v.slots + own = h.world.slots := by
    have hlives := hs.lives
    have hv := ht (h.living - own) (by omega)
    omega
  have hmade {k : Nat} {f : Filling} (hx : h.fillings[k]? = some f) :
      f.made.length + 1 ≤ h.living := by
    have hliving := living_eraseIdx hx
    omega
  cases hf with
  | @load a n rest hf =>
    have hon : a.on h.world.engine = a := by cases hf <;> rfl
    have hbirths : n ≤ h.living := by
      have hle := hf.le_births
      rw [living]
      omega
    obtain ⟨huntouched, hworks, htrades⟩ := hs.lawful.fails hf
    rw [Site.step, hon]
    exact ⟨⟨huntouched, hworks, rfl, rfl⟩, hslots hbirths htrades⟩
  | @refused b size timeout e hf =>
    have htrades := Filling.trades_begin h.world b size timeout
    rw [Site.step]
    generalize Filling.begin h.world b size timeout = turn at htrades hf
    obtain ⟨v, s⟩ := turn
    obtain rfl : s = .ended (.error e) := hf
    exact ⟨⟨⟨rfl, rfl, rfl⟩, rfl, rfl, rfl⟩, hslots (Nat.zero_le _) htrades⟩
  | @failed k rounds f e hx hf =>
    have htrades := Filling.trades_proceed rounds h.world f
    rw [Site.step, hx]
    dsimp only
    generalize Filling.proceed rounds h.world f = turn at htrades hf
    obtain ⟨v, s⟩ := turn
    obtain rfl : s = .ended (.error e) := hf
    exact ⟨⟨⟨rfl, rfl, rfl⟩, rfl, rfl, rfl⟩, hslots (hmade hx) htrades⟩
  | @givenUp k f hx =>
    rw [Site.step, hx]
    exact ⟨⟨⟨rfl, rfl, rfl⟩, rfl, rfl, rfl⟩, hslots (hmade hx) (Filling.trades_drop h.world f)⟩

/-! ## All runs -/

theorem Sound.stock_le_slots (hs : Sound h) : h.traffic.server.stock ≤ h.world.slots := by
  rw [hs.lives, living]
  omega

theorem Sound.length_holdings_le (hs : Sound h) {p : Pool} (hp : h.pool? ref = some p) :
    p.holdings.length ≤ h.world.slots := by
  cases ref with
  | served n =>
    obtain ⟨hn, rfl⟩ := pool?_served.mp hp
    exact Nat.le_trans (Server.length_holdings_le_stock hn) hs.stock_le_slots
  | own k =>
    obtain ⟨rest, hliving, -⟩ := living_set hp
    rw [hs.lives, hliving]
    exact Nat.le_add_left ..

/-- **Places are conserved** on an engine with these settings.

* The places that are taken are those of the instances that there are, counting those that are being
  made, and room that is limited is not overdrawn (`lives`, `room`).
* What is made of a pool that comes to nothing gives all its places back, at whatever instance that
  happens, and leaves all else as it was (`fails`).
* A pool that is drained has no instances once all its leases have come back, whatever happens in the
  meantime (`drained`).
* An instance that is destroyed to be replaced leaves its place to the other one: the making of that
  begins in the same turn, in a world in which there is a place for it.  That is so for every pool,
  and wherever a turn of the server has come (`replaced`, `replacedWithin`). -/
structure Conserves (e : EngineSettings) (h : Site σ) : Prop where
  lives : h.world.slots = h.living
  room : e.poolingAllocator = true → h.living ≤ e.maxInstances.toNat
  fails : ∀ a n works fillings, Fails h a n works fillings →
    Untouched h works fillings (h.step a) ∧ (h.step a).world.slots + n = h.world.slots
  drained : ∀ a ref, Drains h a ref → ∀ as, ∃ q, ((h.step a).steps as).pool? ref = some q ∧
    (q.leases = [] → q.restorations = [] → q.holdings = [])
  replaced : ∀ ref p, h.pool? ref = some p → ∀ number r, p.restoration? number = some r →
    ∀ rounds, p.Replaces rounds h.world r (p.proceedRestoration rounds h.world number)
  replacedWithin : ∀ x drained s, Server.Acts x drained h.traffic.server s →
    ∀ n number r, (s.pool n).restoration? number = some r → ∀ rounds,
      (s.pool n).Replaces rounds s.world r ((s.pool n).proceedRestoration rounds s.world number)

theorem Sound.conserves (hs : Sound h) {e : EngineSettings} (he : h.world.engine = e) :
    Conserves e h where
  lives := hs.lives
  room := fun hpooling => by
    have hlimit : h.world.slotLimit = some e.maxInstances.toNat := by
      rw [World.slotLimit, he, if_pos hpooling]
    exact hs.lives ▸ hs.fits _ hlimit
  fails := fun a n works fillings hf => hs.fails hf
  drained := fun a ref hd as => by
    obtain ⟨p, hp, hdry⟩ := hs.dry hd
    obtain ⟨q, hq, hdry⟩ :=
      (hs.step a).pool_steps (fun _ _ _ _ h hm => h.moves hm) hp hdry as
    exact ⟨q, hq, hdry.holdings_eq_nil⟩
  replaced := fun ref p hp number r hr rounds => by
    have hpos := Pool.holdings_pos_of_restoration? hr
    have hle := hs.length_holdings_le hp
    exact Pool.proceedRestoration_replaces hr hs.fits (by omega)
  replacedWithin := fun x drained s hacts n number r hr rounds =>
    hacts.replaces hs.lawful.proper.kindred hs.fits hs.stock_le_slots hr

/-- The engine of a server that was just started has no instances. -/
theorem sound_of_start {w v : World σ} {files : Files} {plan : ServerPlan} {s : Server σ}
    (hs : Server.start w files plan = (v, .ok s)) (hempty : w.slots = 0) :
    Sound ⟨⟨s, []⟩, [], []⟩ := by
  obtain ⟨hlawful, hstock⟩ := Traffic.lawful_of_start hs
  have hslots : s.world.slots = 0 := (Server.fresh_of_start hs).slots.trans hempty
  refine ⟨hlawful, (fun _ hp => nomatch hp), fun limit _ => ?_, ?_⟩
  · exact Nat.le_trans (Nat.le_of_eq hslots) (Nat.zero_le limit)
  · rw [living, hstock]
    exact hslots

/-- **Places are conserved** on the engine of a server, whatever happens there: pools are made by
the server and by others, are used, lose instances, and are drained, all in turns. -/
theorem places_are_conserved {w v : World σ} {files : Files} {plan : ServerPlan} {s : Server σ}
    (hs : Server.start w files plan = (v, .ok s)) (hempty : w.slots = 0)
    (as : List (SiteStep σ)) : Conserves plan.settings.engine (steps ⟨⟨s, []⟩, [], []⟩ as) := by
  have hsound := sound_of_start hs hempty
  exact (hsound.steps as).conserves ((hsound.engine as).trans (Server.fresh_of_start hs).engine)

end Site

/-! ## One place -/

/-- A plan for a server on whose engine there is one place. -/
def ServerPlan.narrow : ServerPlan :=
  { settings := { engine := { poolingAllocator := true, maxInstances := 1 } } }

/-- The server of that plan. -/
def Server.narrow : Server Unit :=
  match (Server.start World.slow Files.none .narrow).2 with
  | .ok s => s
  | .error _ => .unused

/-- The only place is taken; a request is given up while its instance is called, and somebody tries
to make a pool of their own before that instance is restored.  They get no place, and the instance is
replaced. -/
theorem Site.replaced_in_the_only_place :
    let as : List (SiteStep Unit) := ServerAct.callOnce.map (fun a => .serve (.act a)) ++
      [.serve (.act (.drop 0)), .serve (.act .collect), .construct .plain 1 none,
        .serve (.act (.proceed 0))]
    let h : Site Unit := Site.steps ⟨⟨.narrow, []⟩, [], []⟩ as
    Site.Conserves ServerPlan.narrow.settings.engine h ∧ h.world.slots = 1 ∧ h.pools.length = 0 ∧
      h.fillings.length = 0 ∧ (h.traffic.server.pool 0).replaced = 1 ∧
      (h.traffic.server.pool 0).idle.length = 1 := by
  intro as h
  have hstart : Server.start World.slow Files.none .narrow =
      ((Server.start World.slow Files.none .narrow).1, .ok .narrow) := rfl
  have hruns : (h.world.slots, h.pools.length, h.fillings.length,
      (h.traffic.server.pool 0).replaced, (h.traffic.server.pool 0).idle.length) =
      (1, 0, 0, 1, 1) := by
    decide +kernel
  simp only [Prod.mk.injEq] at hruns
  exact ⟨Site.places_are_conserved hstart rfl as, hruns⟩

end FunctionHost

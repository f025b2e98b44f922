import FunctionHost.Proofs.Server.Alone
import FunctionHost.Proofs.Server.Loading
import FunctionHost.Proofs.Server.Places

/-!
# What a server provides

A server that loads a module compiles the code at its source, fills a pool with instances of it and
gives the module's name to that pool.  It then provides the module (`Provides`), and goes on doing
so while it loads others (`Provides.publishing`).  `Stocks` follows one load from its first turn to its
last, while nothing else goes on.
-/
namespace FunctionHost

variable {σ : Type}

/-! ## Code -/

namespace Compiled

theorem ofBytes_congr {w v : World σ} (h : w.engine = v.engine) (bytes : Bytes) :
    (ofBytes w bytes).2 = (ofBytes v bytes).2 := by
  unfold ofBytes
  rw [h]
  repeat' split
  all_goals rfl

theorem ofText_congr {w v : World σ} (h : w.engine = v.engine) (text : String) :
    (ofText w text).2 = (ofText v text).2 := by
  unfold ofText
  rw [h]
  split <;> rfl

end Compiled

namespace Server

variable {s t s₀ : Server σ} {plan : LoadPlan} {c : Compiled} {n : Nat} {w : World σ} {p : Pool}
  {st : Standing ServerWork ServerReply} {name hash : String}

/-- **What comes of compiling** depends on the files and the settings of the engine only. -/
theorem compile_congr (hfiles : t.files = s.files) (he : t.world.engine = s.world.engine)
    (source : ModuleSource) : (t.compile source).2 = (s.compile source).2 := by
  cases source with
  | bytes content => exact Compiled.ofBytes_congr he content
  | text content => exact Compiled.ofText_congr he content
  | file path =>
    simp only [compile, compileFile, hfiles]
    cases s.files path with
    | error fault => rfl
    | ok bytes =>
      dsimp only
      split
      · split
        · rfl
        · exact Compiled.ofText_congr he _
      · exact Compiled.ofBytes_congr he _

/-- What the instances of a module are made from. -/
def blueprint (s : Server σ) (name : String) (c : Compiled) : Blueprint :=
  .withLinker s.linker s.settings.execution name c

/-! ## Modules that are provided -/

/-- **Whether a server provides a module** as a plan says, in a pool of some number: its name is
given to that pool, which was filled with instances of the code at the source of the plan and is as
it was when it was filled. -/
structure Provides (s : Server σ) (plan : LoadPlan) (c : Compiled) (n : Nat) : Prop where
  compiled : (s.compile plan.source).2 = .ok c
  named : s.registry.get plan.name = .ok ⟨c.contentHash, n⟩
  there : n < s.pools.size
  filled : Filled σ (s.blueprint plan.name c) plan.poolSize s.settings.pool.checkoutTimeout
    (s.pool n)

theorem Provides.withWorld (h : s.Provides plan c n) (he : w.engine = s.world.engine) :
    { s with world := w }.Provides plan c n :=
  ⟨(compile_congr (s := s) (t := { s with world := w }) rfl he _).trans h.compiled, h.named,
    h.there, h.filled⟩

/-- **A module that is published** leaves those that are provided as they are. -/
theorem Provides.publishing (h : s.Provides plan c n) (he : w.engine = s.world.engine)
    (hfree : s.registry.entries.contains name = false) (hash : String) (p : Pool) :
    (s.publishing w name hash p).Provides plan c n where
  compiled := (compile_congr (s := s) (t := s.publishing w name hash p) rfl he _).trans h.compiled
  named := by
    have hfound := Registry.find?_of_get h.named
    have hopen : s.registry.closed = false := by
      cases hc : s.registry.closed with
      | false => rfl
      | true => simpa [Registry.get, hc] using h.named
    have hne : plan.name ≠ name := by
      rintro rfl
      simp [Dictionary.contains, hfound] at hfree
    simp [Registry.get, Server.publishing, hopen, Dictionary.find?_insert_of_ne hne, hfound]
  there := by
    rw [Server.publishing, Array.size_push]
    exact Nat.lt_succ_of_lt h.there
  filled := by
    rw [pool_publishing_of_lt h.there]
    exact h.filled

/-- **A module that is published is provided.** -/
theorem provides_publishing (he : w.engine = s.world.engine) (ho : s.registry.closed = false)
    (hc : (s.compile plan.source).2 = .ok c)
    (hp : Filled σ (s.blueprint plan.name c) plan.poolSize s.settings.pool.checkoutTimeout p) :
    (s.publishing w plan.name c.contentHash p).Provides plan c s.pools.size where
  compiled :=
    (compile_congr (s := s) (t := s.publishing w plan.name c.contentHash p) rfl he _).trans hc
  named := by simp [Registry.get, publishing, ho]
  there := by simp [publishing]
  filled := by
    rw [pool_publishing]
    exact hp

/-! ## One load -/

/-- **How a load stands** that a server in some state was asked for: its code is to be compiled, its
pool is being filled, it was refused, or the module is published. -/
inductive Stocks (s₀ : Server σ) (plan : LoadPlan) :
    Server σ → Standing ServerWork ServerReply → Prop
  | compiling {w : World σ} {st : Standing ServerWork ServerReply}
      (hst : st.work? = some (.compiling plan)) : Stocks s₀ plan { s₀ with world := w } st
  | filling {w v : World σ} {st : Standing ServerWork ServerReply} {c : Compiled} {f : Filling}
      {ms : List (Nat × World σ)} (hst : st.work? = some (.filling plan.name c.contentHash f))
      (hc : (s₀.compile plan.source).2 = .ok c)
      (hf : (Filling.turns (s₀.blueprint plan.name c) plan.poolSize
        s₀.settings.pool.checkoutTimeout v ms).work? = some f) :
      Stocks s₀ plan { s₀ with world := w } st
  | refused {s : Server σ} {e : HostError} : Stocks s₀ plan s (.ended (.refused e))
  | done {w : World σ} {c : Compiled} {p : Pool} (hc : (s₀.compile plan.source).2 = .ok c)
      (hp : Filled σ (s₀.blueprint plan.name c) plan.poolSize s₀.settings.pool.checkoutTimeout p)
      (ho : s₀.registry.closed = false)
      (hfree : s₀.registry.entries.contains plan.name = false) :
      Stocks s₀ plan (s₀.publishing w plan.name c.contentHash p) (.ended .done)

theorem stocks_load (s : Server σ) (plan : LoadPlan) :
    Stocks s plan (s.load plan).1 (s.load plan).2 := by
  rcases load_begins s plan with hload | ⟨e, hload⟩
  · rw [hload]
    exact .compiling (w := s.world) rfl
  · rw [hload]
    exact .refused

/-- A turn of filling the pool. -/
theorem stocks_afterFilling {v : World σ} {ms : List (Nat × World σ)}
    {standing : Standing Filling Filling.Result} (hc : (s₀.compile plan.source).2 = .ok c)
    (hturns : Filling.turns (s₀.blueprint plan.name c) plan.poolSize
      s₀.settings.pool.checkoutTimeout v ms = standing) (u w : World σ) :
    Stocks s₀ plan
      ({ s₀ with world := u }.afterFilling plan.name c.contentHash (w, standing)).1
      ({ s₀ with world := u }.afterFilling plan.name c.contentHash (w, standing)).2 := by
  match standing with
  | .busy f => exact .filling (w := w) rfl hc (by rw [hturns]; rfl)
  | .blocked f => exact .filling (w := w) rfl hc (by rw [hturns]; rfl)
  | .ended (.error e) => exact .refused
  | .ended (.ok p) =>
    rw [afterFilling]
    cases ho : s₀.registry.closed with
    | true =>
      rw [publish_late (s := { s₀ with world := w }) ho]
      exact .refused
    | false =>
      cases hfree : s₀.registry.entries.contains plan.name with
      | true =>
        rw [publish_taken (s := { s₀ with world := w }) ho hfree]
        exact .refused
      | false =>
        rw [publish_free (s := { s₀ with world := w }) ho hfree]
        exact .done (w := w.report _) hc ⟨v, ms, hturns⟩ ho hfree

/-- **A turn of a load.** -/
theorem Stocks.proceed (h : Stocks s₀ plan s st) (he : s.world.engine = s₀.world.engine)
    {y : ServerWork} (hy : st.work? = some y) :
    Stocks s₀ plan (s.proceed y).1 (s.proceed y).2 := by
  cases h with
  | @compiling w _ hst =>
    obtain rfl := Option.some.inj (hst.symm.trans hy)
    have hcompile := compile_congr (s := s₀) (t := { s₀ with world := w }) rfl he plan.source
    rw [Server.proceed, fill]
    generalize Server.compile { s₀ with world := w } plan.source = turn at hcompile
    obtain ⟨v, result⟩ := turn
    cases result with
    | error e => exact .refused
    | ok c =>
      have hbegun : Filling.turns (s₀.blueprint plan.name c) plan.poolSize
          s₀.settings.pool.checkoutTimeout v [] = (Filling.begin v (s₀.blueprint plan.name c)
            plan.poolSize s₀.settings.pool.checkoutTimeout).2 := rfl
      exact stocks_afterFilling hcompile.symm hbegun v _
  | @filling w v _ c f ms hst hc hf =>
    obtain rfl := Option.some.inj (hst.symm.trans hy)
    exact stocks_afterFilling hc (Filling.turns_append v ms (quantum, w) hf) w
      (Filling.proceed quantum w f).1
  | refused => cases hy
  | done hc hp ho hfree => cases hy

/-- Time passes while a module is loaded. -/
theorem Stocks.withWorld (h : Stocks s₀ plan s st) (w : World σ) :
    Stocks s₀ plan { s with world := w } st := by
  cases h with
  | compiling hst => exact .compiling (w := w) hst
  | filling hst hc hf => exact .filling (w := w) hst hc hf
  | refused => exact .refused
  | done hc hp ho hfree => exact .done (w := w) hc hp ho hfree

/-- **A load that nothing else disturbs** stands so at any time. -/
theorem persists_stocks (s₀ : Server σ) (plan : LoadPlan) :
    Persists fun s st => Alone s₀.world.engine s st ∧ Stocks s₀ plan s st where
  left _ _ h := h.1.whole.nothing
  proceed _ _ _ h hy := ⟨h.1.proceed hy, h.2.proceed h.1.engine hy⟩
  elapse _ _ w he hslots h := ⟨h.1.withWorld he hslots, h.2.withWorld w⟩

/-! ## Where code is loaded from -/

/-- **A load begins with two turns**: it waits for a moment, and then the code is compiled. -/
theorem attend_load {schedule : Schedule (Server σ) ServerTask ServerReply} (hv : schedule.Vacant)
    (hleft : schedule.state.left = []) {plan : LoadPlan} (c : Context)
    (hload : schedule.state.load plan = (schedule.state, .blocked (.compiling plan)))
    (limit turns : Nat) :
    schedule.attend subject.toCrew limit (turns + 2) (.busy (.start (.load plan) c)) =
      let turn := schedule.front subject.toCrew (.under (.compiling plan))
      turn.1.attend subject.toCrew limit turns turn.2 := by
  have hpoll : subject.poll schedule.state (.start (.load plan) c) =
      (schedule.state, .blocked (.under (.compiling plan))) := by
    rw [poll_start, begin, hload]
    rfl
  have hfront : schedule.front subject.toCrew (.start (.load plan) c) =
      (schedule, .blocked (.under (.compiling plan))) := by
    rw [hv.front (by rw [hpoll]; exact collect_of_left hleft), hpoll]
  have hready : Schedule.ready subject.toCrew schedule.state (.under (.compiling plan)) = true := by
    simp [Schedule.ready, subject, due]
  rw [Schedule.attend, hfront]
  dsimp only
  rw [Schedule.attend, hv.queue]
  dsimp only
  rw [if_pos hready]

/-- A file holds the bytes that reading it gives, unless its path says that it is a text. -/
theorem compile_file {path : String} {bytes : Bytes} (hfile : s.files path = .ok bytes)
    (hextension : FilePath.extension? path ≠ some "wat") :
    s.compile (.file path) = s.compile (.bytes bytes) := by
  rw [compile, compile, compileFile, hfile]
  exact if_neg hextension

/-- **A module may be loaded from anywhere**: what comes of that depends on the code only. -/
theorem run_load_source {r : Session (Server σ) ServerTask ServerReply} (hv : r.schedule.Vacant)
    (hleft : r.schedule.state.left = []) {plan : LoadPlan} {source : ModuleSource}
    (hcompile : r.schedule.state.compile source = r.schedule.state.compile plan.source)
    (request : RequestId) :
    r.run subject (.load { plan with source := source }) { request := request } =
      r.run subject (.load plan) { request := request } := by
  -- The loads are two terms until the code is compiled, which is in the second turn.
  obtain ⟨turns, hturns⟩ : ∃ turns, Session.patience = turns + 2 := ⟨999999999998, rfl⟩
  have hloads :
      r.schedule.state.load { plan with source := source } = r.schedule.state.load plan ∨
      (r.schedule.state.load plan = (r.schedule.state, .blocked (.compiling plan)) ∧
        r.schedule.state.load { plan with source := source } =
          (r.schedule.state, .blocked (.compiling { plan with source := source }))) := by
    have hvalid : ({ plan with source := source } : LoadPlan).validate = plan.validate := rfl
    simp only [load, hvalid]
    split
    · exact .inl rfl
    · exact .inl rfl
    · exact .inl rfl
    · exact .inr ⟨rfl, rfl⟩
  have hattend (c : Context) (limit : Nat) :
      r.schedule.attend subject.toCrew limit Session.patience
        (.busy ((subject (σ := σ)).start (.load { plan with source := source }) c)) =
      r.schedule.attend subject.toCrew limit Session.patience
        (.busy ((subject (σ := σ)).start (.load plan) c)) := by
    rw [hturns]
    rcases hloads with hload | ⟨hload, hload'⟩
    · -- The load is refused before its source is looked at.
      change Schedule.attend _ _ _ _ (.busy (ServerTask.start _ _)) =
        Schedule.attend _ _ _ _ (.busy (ServerTask.start _ _))
      rw [Schedule.attend, Schedule.attend, Schedule.front, Schedule.front, poll_start, poll_start,
        begin, begin, hload]
    · have hfill : r.schedule.state.fill { plan with source := source } =
          r.schedule.state.fill plan := by
        rw [fill, fill, hcompile]
      refine (attend_load hv hleft c hload' limit turns).trans ?_
      refine .trans ?_ (attend_load hv hleft c hload limit turns).symm
      rw [Schedule.front, Schedule.front, poll_under, poll_under, proceed, proceed, hfill]
  rw [Session.run, Session.run, Session.prepare, Session.prepare]
  dsimp only [Session.token]
  rw [hattend]

end Server

end FunctionHost

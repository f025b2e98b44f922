import FunctionHost.Session

/-!
# Work in front of an empty schedule

While a schedule has no tasks, only the work in front has turns and only time can pass between them.
So a law of the state and of how that work stands that is kept by its turns and by time (`Keeps`)
holds whenever the schedule stops attending to it (`Vacant.attend`), and of whatever a command comes
to that is run to its end in a session (`Session.run_begun`).
-/
namespace FunctionHost

variable {κ σ φ ρ : Type}

/-- **Whether a law is kept by the turns of work in front**, if nothing is left to others. -/
structure Crew.Keeps (c : Crew σ φ ρ) (I : σ → Standing φ ρ → Prop) : Prop where
  polled : ∀ state standing work, I state standing → standing.work? = some work →
    I (c.poll state work).1 (c.poll state work).2
  collected : ∀ state standing, I state standing → c.collect state = (state, [])
  advanced : ∀ state standing instant, I state standing → I (c.advance state instant) standing

namespace Schedule

/-- Whether a schedule has no tasks. -/
structure Vacant (s : Schedule σ φ ρ) : Prop where
  queue : s.queue = []
  waiting : s.waiting = []

variable {c : Crew σ φ ρ} {s : Schedule σ φ ρ} {I : σ → Standing φ ρ → Prop}
  {standing : Standing φ ρ}

theorem Vacant.withState (h : s.Vacant) (state : σ) : { s with state := state }.Vacant :=
  ⟨h.queue, h.waiting⟩

theorem Vacant.wake (h : s.Vacant) : s.wake c = s := by
  obtain ⟨state, queue, waiting, results⟩ := s
  obtain ⟨rfl, rfl⟩ := h
  rfl

theorem gather_of_collect (h : c.collect s.state = (s.state, [])) : s.gather c = s := by
  simp [gather, h]

/-- Time passes, and nobody wakes up. -/
theorem Vacant.advance (h : s.Vacant) (instant : Nat) :
    s.advance c instant = { s with state := c.advance s.state instant } :=
  (h.withState _).wake

/-- The work in front has its turn, and nothing else does. -/
theorem Vacant.front (h : s.Vacant) {work : φ}
    (hcollect : c.collect (c.poll s.state work).1 = ((c.poll s.state work).1, [])) :
    s.front c work = ({ s with state := (c.poll s.state work).1 }, (c.poll s.state work).2) := by
  simp only [Schedule.front]
  rw [gather_of_collect hcollect, (h.withState _).wake]

theorem Vacant.settle (h : s.Vacant) (turns : Nat) : s.settle c turns = s := by
  cases turns with
  | zero => rfl
  | succ turns => rw [Schedule.settle, h.queue]

/-- **A law that is kept by work in front holds** when it is not attended to any longer. -/
theorem Vacant.attend (hI : c.Keeps I) (limit turns : Nat) (h : s.Vacant)
    (hs : I s.state standing) :
    (s.attend c limit turns standing).1.Vacant ∧
      I (s.attend c limit turns standing).1.state (s.attend c limit turns standing).2 := by
  induction turns generalizing s standing with
  | zero =>
    rw [Schedule.attend]
    exact ⟨h, hs⟩
  | succ turns ih =>
    -- Nobody else is there, so a turn is one look at this work.
    have hturn {work : φ} {s : Schedule σ φ ρ} {standing : Standing φ ρ} (h : s.Vacant)
        (hs : I s.state standing) (hwork : standing.work? = some work) :
        s.front c work =
          ({ s with state := (c.poll s.state work).1 }, (c.poll s.state work).2) ∧
        I (c.poll s.state work).1 (c.poll s.state work).2 := by
      have hpolled := hI.polled _ _ _ hs hwork
      exact ⟨h.front (hI.collected _ _ hpolled), hpolled⟩
    match standing with
    | .ended result => exact ⟨h, hs⟩
    | .busy work =>
      obtain ⟨hfront, hnext⟩ := hturn h hs rfl
      rw [Schedule.attend, hfront]
      exact ih (h.withState _) hnext
    | .blocked work =>
      have hlater (instant : Nat) : I (c.advance s.state instant) (.blocked work) :=
        hI.advanced _ _ instant hs
      rw [Schedule.attend, h.queue]
      dsimp only
      split
      · obtain ⟨hfront, hnext⟩ := hturn h hs rfl
        rw [hfront]
        exact ih (h.withState _) hnext
      · split
        · rw [h.advance]
          exact ⟨h.withState _, hlater _⟩
        · rename_i instant _
          rw [h.advance]
          split
          · obtain ⟨hfront, hnext⟩ := hturn (h.withState _) (hlater instant) rfl
            rw [hfront]
            exact ih (h.withState _) hnext
          · exact ih (h.withState _) (hlater instant)

end Schedule

/-- **How far a command comes** that is run to its end while there are no tasks, if a law holds
after its first turn: the law holds of what came of it, or of where it was given up. -/
theorem Session.run_begun {t : Subject κ σ φ ρ} {I : σ → Standing φ ρ → Prop}
    (hI : t.toCrew.Keeps I) {s : Session σ φ ρ} (h : s.schedule.Vacant) (command : κ)
    (plan : ContextPlan) (hplan : plan.token = none)
    (hfirst : I
      (t.poll s.schedule.state
        (t.start command (plan.context (t.clock s.schedule.state) none))).1
      (t.poll s.schedule.state
        (t.start command (plan.context (t.clock s.schedule.state) none))).2) :
    ∃ state standing, I state standing ∧
      ((∃ reply, standing = .ended reply ∧ (s.run t command plan).2 = .result reply ∧
        (s.run t command plan).1.schedule.Vacant ∧
        (s.run t command plan).1.schedule.state = state) ∨
      ((∃ work, standing.work? = some work) ∧ (s.run t command plan).2 = .hang)) := by
  -- Without a token nothing is prepared but the context.
  have hprepare : s.prepare t command plan =
      (s, t.start command (plan.context (t.clock s.schedule.state) none)) := by
    rw [prepare, hplan]
    rfl
  -- The first look is the one that is given.
  obtain ⟨turns, hturns⟩ : ∃ turns, patience = turns + 1 := ⟨999999999999, rfl⟩
  rw [run, hprepare]
  dsimp only
  rw [hturns, Schedule.attend, h.front (hI.collected _ _ hfirst)]
  have hattend := (h.withState _).attend hI (t.now s.schedule.state + commandLimit) turns hfirst
  dsimp only at hattend ⊢
  generalize Schedule.attend t.toCrew (t.now s.schedule.state + commandLimit) turns _ _ = attended
    at hattend
  obtain ⟨schedule, standing⟩ := attended
  obtain ⟨hvacant, hs⟩ := hattend
  refine ⟨schedule.state, standing, hs, ?_⟩
  match standing with
  | .busy work => exact .inr ⟨⟨work, rfl⟩, rfl⟩
  | .blocked work => exact .inr ⟨⟨work, rfl⟩, rfl⟩
  | .ended reply =>
    have hsettled :
        settled t { s with schedule := schedule } = { s with schedule := schedule } := by
      rw [settled, Schedule.gather_of_collect (hI.collected _ _ hs), hvacant.wake, hvacant.settle]
    refine .inl ⟨reply, rfl, rfl, ?_⟩
    dsimp only
    rw [hsettled]
    exact ⟨hvacant, rfl⟩

end FunctionHost

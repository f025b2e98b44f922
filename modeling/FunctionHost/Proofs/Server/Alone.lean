import FunctionHost.Proofs.Schedule
import FunctionHost.Proofs.Server.Running
import FunctionHost.Proofs.Server.Shutdown
import FunctionHost.Server.Session

/-!
# One command at a time

A server that is given one command after another, each run to its end, never has more than one piece
of work (`Alone`).  A law about the server and how that work stands has to be kept by its turns and
by time that passes (`Persists`); then it holds of whatever the command comes to
(`Server.run_alone`).
-/
namespace FunctionHost

variable {σ : Type}

namespace Server

variable {s : Server σ} {st : Standing ServerWork ServerReply} {engine : EngineSettings}
  {I : Server σ → Standing ServerWork ServerReply → Prop}

/-! ## One piece of work -/

/-- **A server with one piece of work**, or none if that is over: nothing was given up, and the
settings of its engine are known. -/
structure Alone (engine : EngineSettings) (s : Server σ) (st : Standing ServerWork ServerReply) :
    Prop where
  whole : Traffic.Whole ⟨s, st.work?.toList⟩
  engine : s.world.engine = engine

/-- A step in which no time passes leaves the settings of the engine as they are. -/
theorem engine_step {t : Traffic σ} (h : t.Whole) {a : ServerStep σ} (ha : a.elapses = false) :
    (t.step a).server.world.engine = t.server.world.engine :=
  (h.lawful.step_still ha).engine.trans (Running.after?_lasts ..).engine

theorem step_begin_alone (s : Server σ) (c : Context) (command : ServerCommand) :
    Traffic.step ⟨s, []⟩ (.act (.begin c command)) =
      ⟨(s.begin c command).1, (s.begin c command).2.work?.toList⟩ := by
  rw [Traffic.step_begin, Traffic.perform]
  exact congrArg _ (List.append_nil _)

theorem step_proceed_alone {y : ServerWork} (hy : st.work? = some y) :
    Traffic.step ⟨s, st.work?.toList⟩ (.act (.proceed 0)) =
      ⟨(s.proceed y).1, (s.proceed y).2.work?.toList⟩ := by
  rw [hy, Traffic.step_proceed, Traffic.perform]
  exact congrArg _ (List.append_nil _)

/-- Traffic in another world, in which there is as much room. -/
theorem whole_withWorld {works : List ServerWork} (h : Traffic.Whole ⟨s, works⟩) {w : World σ}
    (hslots : w.slots = s.world.slots) : Traffic.Whole ⟨{ s with world := w }, works⟩ := by
  have hwhole := h.step (a := .act (.elapse w)) rfl
  rw [Traffic.step, ServerAct.within, Traffic.perform, ← hslots] at hwhole
  exact hwhole

theorem alone_begin (h : Traffic.Whole ⟨s, []⟩) (c : Context) (command : ServerCommand) :
    Alone s.world.engine (s.begin c command).1 (s.begin c command).2 := by
  have hwhole := h.step (a := .act (.begin c command)) rfl
  have hengine := engine_step h (a := .act (.begin c command)) rfl
  rw [step_begin_alone] at hwhole hengine
  exact ⟨hwhole, hengine⟩

theorem Alone.proceed (h : Alone engine s st) {y : ServerWork} (hy : st.work? = some y) :
    Alone engine (s.proceed y).1 (s.proceed y).2 := by
  have hnext := h.whole.step (a := .act (.proceed 0)) rfl
  have hsame := engine_step h.whole (a := .act (.proceed 0)) rfl
  rw [step_proceed_alone hy] at hnext hsame
  exact ⟨hnext, hsame.trans h.engine⟩

theorem Alone.withWorld (h : Alone engine s st) {w : World σ} (he : w.engine = s.world.engine)
    (hslots : w.slots = s.world.slots) : Alone engine { s with world := w } st :=
  ⟨whole_withWorld h.whole hslots, he.trans h.engine⟩

/-! ## Laws of one piece of work -/

/-- **Whether a law is kept by the turns of some work** and by time that passes, if nothing is left
to others. -/
structure Persists (I : Server σ → Standing ServerWork ServerReply → Prop) : Prop where
  left : ∀ s st, I s st → s.left = []
  proceed : ∀ s st y, I s st → st.work? = some y → I (s.proceed y).1 (s.proceed y).2
  elapse : ∀ (s : Server σ) st (w : World σ), w.engine = s.world.engine →
    w.slots = s.world.slots → I s st → I { s with world := w } st

/-- Work that is over stays so. -/
theorem persists_ended (engine : EngineSettings) (reply : ServerReply) :
    Persists fun (s : Server σ) st => Alone engine s st ∧ st = .ended reply where
  left _ _ h := h.1.whole.nothing
  proceed := by
    rintro s _ y ⟨-, rfl⟩ hy
    cases hy
  elapse _ _ _ he hslots h := ⟨h.1.withWorld he hslots, h.2⟩

theorem Persists.press (h : Persists I) (turns : Nat) {turn : Turn σ} (hturn : I turn.1 turn.2) :
    I (press turns turn).1 (press turns turn).2 := by
  induction turns generalizing turn with
  | zero => exact hturn
  | succ turns ih =>
    obtain ⟨s, st⟩ := turn
    match st with
    | .blocked work => exact hturn
    | .ended reply => exact hturn
    | .busy work =>
      have hlapse : I s.lapse (.busy work) := by
        rw [lapse]
        split
        · exact h.elapse s _ _ rfl rfl hturn
        · exact hturn
      refine ih (h.proceed _ (.busy work) work ?_ rfl)
      split
      · exact hlapse
      · exact hturn

theorem poll_start (s : Server σ) (command : ServerCommand) (c : Context) :
    subject.poll s (.start command c) =
      (press patience (s.begin c command)).map id (Standing.lift .under) := rfl

theorem poll_under (s : Server σ) (y : ServerWork) :
    subject.poll s (.under y) = (press patience (s.proceed y)).map id (Standing.lift .under) := rfl

theorem collect_of_left (h : s.left = []) : subject.collect s = (s, []) := by
  obtain ⟨_, _, _, _, _, _, _, _, left⟩ := s
  obtain rfl : left = [] := h
  rfl

/-- A law of some work, as one of a task. -/
def OfTask (I : Server σ → Standing ServerWork ServerReply → Prop) (s : Server σ)
    (standing : Standing ServerTask ServerReply) : Prop :=
  ∃ st, standing = st.lift .under ∧ I s st

theorem Persists.keeps (h : Persists I) : (subject (σ := σ)).toCrew.Keeps (OfTask I) where
  polled s standing task := by
    rintro ⟨st, rfl, hs⟩ htask
    obtain ⟨y, hy, rfl⟩ : ∃ y, st.work? = some y ∧ task = .under y := by
      cases st <;> cases htask <;> exact ⟨_, rfl, rfl⟩
    exact ⟨_, rfl, h.press patience (h.proceed s st y hs hy)⟩
  collected s standing := by
    rintro ⟨st, rfl, hs⟩
    exact collect_of_left (h.left s st hs)
  advanced s standing instant := by
    rintro ⟨st, rfl, hs⟩
    exact ⟨st, rfl, h.elapse s st _ rfl rfl hs⟩

/-- **What comes of a command** that is run to its end while nothing else goes on: whatever is kept
by its turns holds in the end, or where it was given up. -/
theorem run_alone (h : Persists I) {r : Session (Server σ) ServerTask ServerReply}
    (hv : r.schedule.Vacant) {command : ServerCommand} {request : RequestId}
    (hbegin : I (r.schedule.state.begin { request := request } command).1
      (r.schedule.state.begin { request := request } command).2) :
    ∃ s st, I s st ∧
      ((∃ reply, st = .ended reply ∧
        (r.run subject command { request := request }).2 = .result reply ∧
        (r.run subject command { request := request }).1.schedule.Vacant ∧
        (r.run subject command { request := request }).1.schedule.state = s) ∨
      ((∃ y, st.work? = some y) ∧
        (r.run subject command { request := request }).2 = .hang)) := by
  obtain ⟨s, standing, ⟨st, rfl, hs⟩, hrun⟩ :=
    Session.run_begun h.keeps hv command { request := request } rfl
      ⟨_, rfl, h.press patience hbegin⟩
  refine ⟨s, st, hs, hrun.imp ?_ ?_⟩
  · rintro ⟨reply, hended, hreply⟩
    cases st <;> cases hended
    exact ⟨reply, rfl, hreply⟩
  · rintro ⟨⟨task, htask⟩, hhang⟩
    refine ⟨?_, hhang⟩
    cases st <;> cases htask <;> exact ⟨_, rfl⟩

end Server
end FunctionHost

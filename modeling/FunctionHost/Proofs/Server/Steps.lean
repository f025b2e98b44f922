import FunctionHost.Proofs.Server.Acts
import FunctionHost.Proofs.Server.Traffic

/-!
# Shutting down in steps

Whoever shuts a server down closes it and takes back all that is published, and leaves the pools to
be drained, each by a task of its own.  `Server.shutDown` lets these tasks have their first turns at
once.  A `ServerStep` is whatever can happen at all: between the first turn of a shutdown and the
closing of a pool anything may come, and pools are closed and drained in any order.  A shutdown at
once is one way to take these steps (`shutDown_steps`).
-/
namespace FunctionHost

variable {σ : Type}

/-- The server once somebody began to shut it down; its pools are still to be closed. -/
def Server.shut (s : Server σ) : Server σ :=
  if s.closed then s.report (event .debug "Shutdown already performed" [])
  else
    { s with closed := true, registry := s.registry.close.1 }.report
      (event .info "Shutting down" [("modules", .number (s.registry.close.2.getD []).length)])

/-- **A step of a server**: what can happen between two points at which anything waits. -/
inductive ServerStep (σ : Type) where
  /-- Something happens that can happen to a server. -/
  | act (a : ServerAct σ)
  /-- Somebody begins to shut the server down. -/
  | shut
  /-- A pool is closed, for the server was shut down. -/
  | close (pool : Nat)
  /-- Somebody looks whether a pool that was closed is drained. -/
  | drain (pool : Nat) (deadline : Option Nat)

/-- Whether a step gives work up. -/
def ServerStep.drops : ServerStep σ → Bool
  | .act (.drop _) => true
  | _ => false

/-- An act as it can happen: nobody but the server makes instances or destroys them. -/
def ServerAct.within (t : Traffic σ) : ServerAct σ → ServerAct σ
  | .elapse w => .elapse { w with slots := t.server.world.slots }
  | a => a

namespace Traffic

/-- The traffic after a step. -/
def step (t : Traffic σ) : ServerStep σ → Traffic σ
  | .act a => t.perform (a.within t)
  | .shut => { t with server := t.server.shut }
  | .close n =>
    if t.server.closed ∧ n < t.server.pools.size then { t with server := t.server.closePool n }
    else t
  | .drain n deadline =>
    if t.server.closed ∧ n < t.server.pools.size ∧ (t.server.pool n).closed then
      { t with server := t.server.act n (.drain deadline) }
    else t

@[simp] theorem step_begin (t : Traffic σ) (c : Context) (command : ServerCommand) :
    t.step (.act (.begin c command)) = t.perform (.begin c command) := rfl

@[simp] theorem step_proceed (t : Traffic σ) (k : Nat) :
    t.step (.act (.proceed k)) = t.perform (.proceed k) := rfl

@[simp] theorem step_drop (t : Traffic σ) (k : Nat) :
    t.step (.act (.drop k)) = t.perform (.drop k) := rfl

/-- **The traffic after some steps.** -/
def steps (t : Traffic σ) (as : List (ServerStep σ)) : Traffic σ := as.foldl step t

theorem steps_append (t : Traffic σ) (as bs : List (ServerStep σ)) :
    t.steps (as ++ bs) = (t.steps as).steps bs := List.foldl_append

/-- What a step keeps, many keep. -/
theorem steps_induction {I : Traffic σ → Prop} {t : Traffic σ} (ht : I t)
    (hstep : ∀ u a, I u → I (u.step a)) (as : List (ServerStep σ)) : I (t.steps as) := by
  induction as generalizing t with
  | nil => exact ht
  | cons a as ih => exact ih (hstep t a ht)

variable {broken : Nat → Nat} {t : Traffic σ}

theorem shut_inOrder {left : List (Nat × Nat)} {s : Server σ} {xs : List ServerWork}
    (h : Server.InOrder broken left s xs) : Server.InOrder broken left s.shut xs := by
  unfold Server.shut
  split
  · exact h.report _
  · have hentries : ∀ e ∈ s.registry.close.1.entries.entries, e ∈ s.registry.entries.entries := by
      unfold Registry.close
      split
      · exact fun _ he => he
      · exact fun _ he => nomatch he
    exact (h.transfer (t := { s with closed := true, registry := s.registry.close.1 }) rfl rfl
      hentries).report _

/-- **A step keeps traffic in order**, and breaks nothing off unless it gives work up. -/
theorem Steady.step (h : Steady broken t) (a : ServerStep σ) :
    ∃ broken', Steady broken' (t.step a) ∧ (a.drops = false → broken' = broken) := by
  cases a with
  | act a =>
    refine ⟨_, h.perform (a.within t), fun ha => ?_⟩
    cases a with
    | drop k => cases ha
    | _ => rfl
  | shut =>
    have hleft : t.server.shut.left = t.server.left := by
      unfold Server.shut
      split <;> rfl
    refine ⟨broken, ?_, fun _ => rfl⟩
    rw [Traffic.step, Steady, Server.background, hleft]
    exact shut_inOrder h
  | close n =>
    refine ⟨broken, ?_, fun _ => rfl⟩
    rw [Traffic.step]
    split
    · rename_i hn
      exact Server.InOrder.close h hn.2 _
    · exact h
  | drain n deadline =>
    refine ⟨broken, ?_, fun _ => rfl⟩
    rw [Traffic.step]
    split
    · rename_i hn
      rw [Server.act_drain hn.2.2]
      exact Server.InOrder.drain h hn.2.1 hn.2.2 _ _ _
    · exact h

/-! ## Shutting down at once -/

theorem closed_shut (s : Server σ) : s.shut.closed = true := by
  unfold Server.shut
  split
  · assumption
  · rfl

/-- Closing pools one after another. -/
theorem steps_close (ws : List ServerWork) (entries : List (String × Served)) {s : Server σ}
    (hc : s.closed = true) (hentries : ∀ e ∈ entries, e.2.pool < s.pools.size) :
    steps ⟨s, ws⟩ (entries.map fun e => .close e.2.pool) =
      ⟨entries.foldl (fun s e => s.closePool e.2.pool) s, ws⟩ := by
  induction entries generalizing s with
  | nil => rfl
  | cons e entries ih =>
    have hfirst : step ⟨s, ws⟩ (.close e.2.pool) = ⟨s.closePool e.2.pool, ws⟩ :=
      if_pos ⟨hc, hentries e List.mem_cons_self⟩
    have hrest : ∀ e' ∈ entries, e'.2.pool < (s.closePool e.2.pool).pools.size := fun e' he =>
      Server.size_after.symm ▸ hentries e' (List.mem_cons_of_mem e he)
    rw [List.map_cons, steps, List.foldl_cons, hfirst, List.foldl_cons]
    exact ih hc hrest

/-- Looking at pools one after another. -/
theorem steps_drain (ws : List ServerWork) (drains : List Draining) {s : Server σ}
    (hc : s.closed = true)
    (hd : ∀ d ∈ drains, d.pool < s.pools.size ∧ (s.pool d.pool).closed = true) :
    steps ⟨s, ws⟩ (drains.map fun d => .drain d.pool d.wait.deadline) =
      ⟨(s.pollDrains drains).1, ws⟩ := by
  induction drains generalizing s with
  | nil => rfl
  | cons d drains ih =>
    obtain ⟨hk, hclosed⟩ := hd d List.mem_cons_self
    have hfirst : step ⟨s, ws⟩ (.drain d.pool d.wait.deadline) =
        ⟨s.act d.pool (.drain d.wait.deadline), ws⟩ := if_pos ⟨hc, hk, hclosed⟩
    have hacts : Server.Acts none (fun _ => True) s (s.act d.pool (.drain d.wait.deadline)) := by
      rw [Server.act_drain hclosed]
      exact Server.Acts.refl.drain hk hclosed trivial _
    have hrest : ∀ e ∈ drains, e.pool < (s.act d.pool (.drain d.wait.deadline)).pools.size ∧
        ((s.act d.pool (.drain d.wait.deadline)).pool e.pool).closed = true := fun e he =>
      ⟨hacts.size.symm ▸ (hd e (List.mem_cons_of_mem d he)).1,
        hacts.closed_of_closed (hd e (List.mem_cons_of_mem d he)).2⟩
    rw [List.map_cons, steps, List.foldl_cons, hfirst]
    refine (ih (s := s.act d.pool (.drain d.wait.deadline)) hc hrest).trans ?_
    rw [Server.act_drain hclosed, Server.pollDrains]
    generalize (s.pool d.pool).pollDrain s.world d.wait.deadline = turn
    obtain ⟨v, q, outcome⟩ := turn
    cases outcome <;> rfl

/-- What is reported of drained pools changes nothing but the journal. -/
theorem reportDrained_same (outcomes : List (String × DrainOutcome)) (s : Server σ) :
    ∃ journal, outcomes.foldl Server.reportDrained s =
      { s with world := { s.world with journal := journal } } := by
  induction outcomes generalizing s with
  | nil => exact ⟨s.world.journal, rfl⟩
  | cons d outcomes ih =>
    have hfirst : ∃ journal, s.reportDrained d =
        { s with world := { s.world with journal := journal } } := by
      obtain ⟨name, outcome⟩ := d
      rw [Server.reportDrained]
      split
      · exact ⟨s.world.journal, rfl⟩
      · exact ⟨_, rfl⟩
    obtain ⟨journal, hfirst⟩ := hfirst
    obtain ⟨journal', hrest⟩ := ih (s.reportDrained d)
    refine ⟨journal', ?_⟩
    rw [List.foldl_cons, hrest, hfirst]

/-- A look at all pools tells what came of it; the rest is what looking at them one after another
makes of the server. -/
theorem pollClose_same (s : Server σ) (drains : List Draining) :
    ∃ (ticking : Bool) (journal : Journal), (s.pollClose drains).1 =
      { (s.pollDrains drains).1 with
        ticking := ticking
        world := { (s.pollDrains drains).1.world with journal := journal } } := by
  unfold Server.pollClose
  generalize s.pollDrains drains = turn
  obtain ⟨u, outcomes, waiting⟩ := turn
  obtain ⟨journal, hreported⟩ := reportDrained_same outcomes u
  dsimp only
  rw [hreported]
  split
  · exact ⟨false, _, rfl⟩
  · exact ⟨u.ticking, journal, rfl⟩

/-- **Shutting down at once** is beginning to, closing the pools of all modules and looking at
them. -/
theorem shutDown_eq {s : Server σ} (ho : s.closed = false)
    (hregistered : ∀ e ∈ s.registry.entries.entries, e.2.pool < s.pools.size) :
    let entries := s.registry.close.2.getD []
    let closed := entries.foldl (fun s e => s.closePool e.2.pool) s.shut
    s.shutDown = closed.pollClose (entries.map closed.draining) ∧
      (∀ e ∈ entries, e.2.pool < s.shut.pools.size) ∧
      Server.Acts none (fun _ => True) s.shut closed ∧
      ∀ e ∈ entries, (closed.pool e.2.pool).closed = true := by
  intro entries closed
  have hshut : s.shut.pools = s.pools := by
    rw [Server.shut, ho]
    rfl
  have hentries : ∀ e ∈ entries, e.2.pool < s.shut.pools.size := by
    intro e he
    rw [hshut]
    refine hregistered e ?_
    revert he
    simp only [entries, Registry.close]
    split
    · exact fun he => (List.not_mem_nil he).elim
    · exact id
  have hshutDown : s.shutDown = closed.pollClose (entries.map closed.draining) := by
    simp only [Server.shutDown, ho, Bool.false_eq_true, if_false]
    simp only [closed, entries, Server.shut, ho, Bool.false_eq_true, if_false]
  obtain ⟨hacts, hclosed⟩ : Server.Acts none (fun _ => True) s.shut closed ∧
      ∀ e ∈ entries, (closed.pool e.2.pool).closed = true := Server.acts_closePools hentries
  exact ⟨hshutDown, hentries, hacts, hclosed⟩

/-- **Shutting down at once** does the same as some steps: the journal tells more, and epochs may
stop. -/
theorem shutDown_steps {s : Server σ} (ws : List ServerWork) (ho : s.closed = false)
    (hregistered : ∀ e ∈ s.registry.entries.entries, e.2.pool < s.pools.size) :
    ∃ (as : List (ServerStep σ)) (ticking : Bool) (journal : Journal),
      s.shutDown.1 = { (steps ⟨s, ws⟩ as).server with
        ticking := ticking
        world := { (steps ⟨s, ws⟩ as).server.world with journal := journal } } := by
  obtain ⟨hshutDown, hentries, hacts, hclosed⟩ := shutDown_eq ho hregistered
  let entries := s.registry.close.2.getD []
  let closed := entries.foldl (fun s e => s.closePool e.2.pool) s.shut
  let drains := entries.map closed.draining
  have hclose : steps ⟨s.shut, ws⟩ (entries.map fun e => .close e.2.pool) = ⟨closed, ws⟩ :=
    steps_close ws entries (closed_shut s) hentries
  have hdrain : steps ⟨closed, ws⟩ (drains.map fun d => .drain d.pool d.wait.deadline) =
      ⟨(closed.pollDrains drains).1, ws⟩ := by
    refine steps_drain ws drains (hacts.listed.2.1.trans (closed_shut s)) fun d hd => ?_
    obtain ⟨e, he, rfl⟩ := List.mem_map.mp hd
    exact ⟨hacts.size.symm ▸ hentries e he, hclosed e he⟩
  let as : List (ServerStep σ) := .shut :: (entries.map (fun e => .close e.2.pool) ++
    drains.map fun d => .drain d.pool d.wait.deadline)
  have hsteps : steps ⟨s, ws⟩ as = ⟨(closed.pollDrains drains).1, ws⟩ := by
    rw [steps, List.foldl_cons]
    show steps ⟨s.shut, ws⟩ _ = _
    rw [steps_append, hclose, hdrain]
  obtain ⟨ticking, journal, hsame⟩ := pollClose_same closed drains
  refine ⟨as, ticking, journal, ?_⟩
  rw [hsteps, hshutDown, hsame]

end Traffic
end FunctionHost

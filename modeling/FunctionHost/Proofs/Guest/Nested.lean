import FunctionHost.Proofs.Guest.Turns

/-!
# Guests run on top of others

To place an answer the host runs the guest's allocator while the thread that asked waits, and the
allocator may ask for something itself.  So an activity runs on top of threads that wait, and it
does exactly what it would do alone: a round of it there is a round of it alone, lifted, and where
the activity alone ends, there the innermost thread that waits is answered (`Activity.round_above`).

`Activity.Ends` is a run of an activity to its end and `Call.turns` a run of a call, one round in
each of some worlds.  Nothing is assumed of these worlds: between two rounds anybody else may have
had any number of turns.
-/
namespace FunctionHost

open Wasm (Thread Word)

variable {σ : Type}

namespace Activity

variable {b : Body} {w w' : World σ} {ws : List (World σ)} {g g' g'' : Guest} {a a' : Activity}
  {result : Result} {t : Thread} {d : Delivery} {outer base : List (Thread × Delivery)}

/-! ## Lifting -/

/-- An activity on top of threads that wait. -/
def above (a : Activity) (base : List (Thread × Delivery)) : Activity := ⟨a.focus, a.outer ++ base⟩

/-- What a round comes to on top of threads that wait: where the activity is over, the innermost
thread that waits is answered. -/
def lifted (b : Body) (base : List (Thread × Delivery)) :
    World σ × Guest × Standing Activity Result → World σ × Guest × Standing Activity Result
  | (w, g, .busy a) => (w, g, .busy (a.above base))
  | (w, g, .blocked a) => (w, g, .blocked (a.above base))
  | (w, g, .ended result) => settle b w g result base

theorem deliver_above (b : Body) (w : World σ) (g : Guest) (allocator : String) (t : Thread)
    (d : Delivery) (outer base : List (Thread × Delivery)) :
    deliver b w g allocator t d (outer ++ base) =
      ((deliver b w g allocator t d outer).1, (deliver b w g allocator t d outer).2.1,
        (deliver b w g allocator t d outer).2.2.above base) := by
  unfold deliver
  split
  · rfl
  · split
    · rfl
    · split
      · rfl
      · split <;> rfl

theorem hostCall_above (b : Body) (w : World σ) (g : Guest) (allocator : String) (t : Thread)
    (args : List Word) (outer base : List (Thread × Delivery)) :
    hostCall b w g allocator t args (outer ++ base) =
      ((hostCall b w g allocator t args outer).1, (hostCall b w g allocator t args outer).2.1,
        (hostCall b w g allocator t args outer).2.2.above base) := by
  unfold hostCall complete
  dsimp only
  split
  · split
    · exact deliver_above ..
    · rfl
    · split
      · exact deliver_above ..
      · rfl
  · rfl

theorem systemCall_above (b : Body) (w : World σ) (g : Guest) (name : String) (t : Thread)
    (args : List Word) (outer base : List (Thread × Delivery)) :
    systemCall b w g name t args (outer ++ base) =
      ((systemCall b w g name t args outer).1, (systemCall b w g name t args outer).2.1,
        (systemCall b w g name t args outer).2.2.above base) := by
  unfold systemCall
  split
  · rfl
  · split <;> rfl

theorem settle_above (b : Body) (w : World σ) (g : Guest) (result : Result)
    (outer base : List (Thread × Delivery)) :
    settle b w g result (outer ++ base) = lifted b base (settle b w g result outer) := by
  cases outer <;> rfl

/-- **A round on top of threads that wait is a round alone, lifted.** -/
theorem round_above (b : Body) (w : World σ) (g : Guest) (a : Activity)
    (base : List (Thread × Delivery)) :
    round b w g (a.above base) = lifted b base (round b w g a) := by
  obtain ⟨focus, outer⟩ := a
  match focus with
  | .acting (.running t) => rfl
  | .acting (.returned results) => exact settle_above ..
  | .acting (.stopped cause) => exact settle_above ..
  | .acting (.calling t func args) =>
    simp only [round, above, imported]
    split
    · rw [hostCall_above]
      rfl
    · rw [systemCall_above]
      rfl
    · rfl
  | .awaiting t call =>
    simp only [round, above, complete]
    split
    · rfl
    · rw [deliver_above]
      rfl
    · rw [deliver_above]
      rfl

/-! ## Runs -/

/-- **An activity run to its end**, one round in each of some worlds. -/
inductive Ends (b : Body) : List (World σ) → Guest → Activity → Guest → Result → Prop where
  /-- The last round. -/
  | last {w w' : World σ} {g g' : Guest} {a : Activity} {result : Result}
      (h : round b w g a = (w', g', .ended result)) : Ends b [w] g a g' result
  /-- A round that others follow. -/
  | next {w w' : World σ} {ws : List (World σ)} {g g' g'' : Guest} {a a' : Activity}
      {s : Standing Activity Result} {result : Result} (h : round b w g a = (w', g', s))
      (hs : s.work? = some a') (hrest : Ends b ws g' a' g'' result) :
      Ends b (w :: ws) g a g'' result

/-- Whoever waits waits unchanged, in a world that does not change. -/
theorem eq_of_round_blocked (h : round b w g a = (w', g', .blocked a')) :
    w' = w ∧ g' = g ∧ a' = a := by
  unfold round at h
  dsimp only at h
  split at h
  · cases h
  · cases h
  · unfold settle at h
    split at h <;> cases h
  · unfold settle at h
    split at h <;> cases h
  · split at h <;> cases h
    exact ⟨rfl, rfl, rfl⟩

end Activity

/-! ## Calls -/

namespace Call

open Activity

variable {w : World σ} {ws : List (World σ)} {i : Instance} {c : Call} {g g' : Guest} {a : Activity}
  {result : Activity.Result} {t : Thread} {d : Delivery} {outer : List (Thread × Delivery)}

/-- **Turns of a call**, one round in each of some worlds: the instance, and how the call stands. -/
def turns : List (World σ) → Instance → Call → Instance × Standing Call Result
  | [], i, c => (i, .busy c)
  | w :: ws, i, c =>
    match proceed 1 w i c with
    | (_, i, .busy c) | (_, i, .blocked c) => turns ws i c
    | (_, i, .ended r) => (i, .ended r)

theorem turns_append (ws vs : List (World σ)) (i : Instance) (c : Call) :
    turns (ws ++ vs) i c =
      match turns ws i c with
      | (i, .busy c) | (i, .blocked c) => turns vs i c
      | (i, .ended r) => (i, .ended r) := by
  induction ws generalizing i c with
  | nil => rfl
  | cons w ws ih =>
    rw [List.cons_append, turns, turns]
    split
    · exact ih ..
    · exact ih ..
    · rfl

theorem proceed_one (w : World σ) (i : Instance) (c : Call) :
    proceed 1 w i c =
      match Activity.round i.body w i.guest c.activity with
      | (w, g, .busy a) => (w, { i with guest := g }, .busy { c with activity := a })
      | (w, g, .blocked a) =>
        match c.context.interruption w.clock with
        | some why =>
          conclude w { i with guest := g } c.fuelBefore true
            (.error (interrupted c.timeoutMs why))
        | none => (w, { i with guest := g }, .blocked { c with activity := a })
      | (w, g, .ended result) => continue? w { i with guest := g } c result := by
  unfold proceed Activity.proceed
  dsimp only
  generalize Activity.round i.body w i.guest c.activity = r
  obtain ⟨v, g, s⟩ := r
  cases s <;> rfl

/-- **A turn of many rounds is many turns of one**, in the worlds that it leads through. -/
theorem proceed_eq_turns (rounds : Nat) (w : World σ) (i : Instance) (c : Call) :
    ∃ ws : List (World σ), ws.length ≤ rounds ∧
      match (proceed rounds w i c).2 with
      | (i', .busy c') | (i', .blocked c') => turns ws i c = (i', .busy c')
      | (i', .ended r) => turns ws i c = (i', .ended r) := by
  induction rounds generalizing w i c with
  | zero => exact ⟨[], Nat.le_refl 0, rfl⟩
  | succ rounds ih =>
    have hone := proceed_one w i c
    -- Unless the first round is the last, it leads to a world in which the others follow.
    cases hr : Activity.round i.body w i.guest c.activity with
    | mk v r =>
      obtain ⟨g, s⟩ := r
      rw [hr] at hone
      have hlast (h : proceed (rounds + 1) w i c = proceed 1 w i c) :
          ∃ ws : List (World σ), ws.length ≤ rounds + 1 ∧
            match (proceed (rounds + 1) w i c).2 with
            | (i', .busy c') | (i', .blocked c') => turns ws i c = (i', .busy c')
            | (i', .ended r) => turns ws i c = (i', .ended r) := by
        refine ⟨[w], Nat.succ_le_succ (Nat.zero_le rounds), ?_⟩
        rw [h, turns]
        generalize proceed 1 w i c = q
        obtain ⟨u, j, st⟩ := q
        cases st <;> rfl
      cases s with
      | busy a =>
        obtain ⟨ws, hlen, hws⟩ := ih v { i with guest := g } { c with activity := a }
        have hmany : proceed (rounds + 1) w i c =
            proceed rounds v { i with guest := g } { c with activity := a } := by
          simp only [proceed, Activity.proceed, hr]
          rfl
        refine ⟨w :: ws, Nat.succ_le_succ hlen, ?_⟩
        rw [hmany, turns, hone]
        exact hws
      | blocked a => exact hlast (by simp only [proceed, Activity.proceed, hr])
      | ended result => exact hlast (by simp only [proceed, Activity.proceed, hr])

/-- One round in a world in which the context is open. -/
theorem turns_of_round {v : World σ} {s : Standing Activity Activity.Result}
    (hr : Activity.round i.body w i.guest c.activity = (v, g, s)) (hs : s.work? = some a)
    (hopen : c.context.interruption w.clock = none) :
    turns (w :: ws) i c = turns ws { i with guest := g } { c with activity := a } := by
  rw [turns, proceed_one, hr]
  cases s with
  | busy a' =>
    obtain rfl : a' = a := Option.some.inj hs
    rfl
  | blocked a' =>
    obtain rfl : a' = a := Option.some.inj hs
    obtain ⟨rfl, -, -⟩ := eq_of_round_blocked hr
    simp only [hopen]
  | ended r => cases hs

/-- **An activity on top of a thread that waits, run to its end**, answers that thread. -/
theorem turns_of_ends_above (h : Ends i.body ws g a g' result)
    (hopen : ∀ w ∈ ws, c.context.interruption w.clock = none) :
    ∃ w : World σ, turns ws { i with guest := g } { c with activity := a.above ((t, d) :: outer) } =
      ({ i with guest := (placed i.body w g' result t d).2.1 },
        .busy { c with activity := ⟨(placed i.body w g' result t d).2.2, outer⟩ }) := by
  induction h with
  | @last w v g g' a result hr =>
    have habove := round_above i.body w g a ((t, d) :: outer)
    rw [hr] at habove
    exact ⟨v, turns_of_round habove rfl (hopen w List.mem_cons_self)⟩
  | @next w v ws g g' g'' a a' s result hr hs _ ih =>
    obtain ⟨u, hu⟩ := ih fun w hw => hopen w (List.mem_cons_of_mem _ hw)
    refine ⟨u, .trans ?_ hu⟩
    have habove := round_above i.body w g a ((t, d) :: outer)
    rw [hr] at habove
    cases s with
    | busy a'' =>
      obtain rfl : a'' = a' := Option.some.inj hs
      exact turns_of_round habove rfl (hopen w List.mem_cons_self)
    | blocked a'' =>
      obtain rfl : a'' = a' := Option.some.inj hs
      exact turns_of_round habove rfl (hopen w List.mem_cons_self)
    | ended r => cases hs

/-- What comes of a call when its entrypoint has ended. -/
def outcome (i : Instance) (c : Call) : Activity.Result → Except HostError Bytes
  | .ok results => decode i.memory (results.head?.getD Packed.failure)
  | .error stop => .error (stop.error c.timeoutMs)

theorem turns_of_conclude {v : World σ} {j : Instance} {fuel : Nat} {broken : Bool}
    {done : Except HostError Bytes} (h : proceed 1 w i c = conclude v j fuel broken done) :
    turns (w :: ws) i c = ((conclude v j fuel broken done).2.1, .ended done) := by
  have hended := conclude_ended v j fuel broken done
  rw [turns, h]
  generalize conclude v j fuel broken done = r at hended
  obtain ⟨u, k, s⟩ := r
  obtain rfl : s = .ended done := hended
  rfl

theorem continue?_of_entered (hentered : c.entered = true) (w : World σ) (i : Instance)
    (result : Activity.Result) :
    ∃ broken : Bool, continue? w i c result =
      conclude w i c.fuelBefore broken (outcome i c result) := by
  cases result with
  | ok results => exact ⟨false, if_pos hentered⟩
  | error stop => exact ⟨true, if_pos hentered⟩

/-- **An entrypoint run to its end** ends the call. -/
theorem turns_of_ends (h : Ends i.body ws g a g' result) (hentered : c.entered = true)
    (hopen : ∀ w ∈ ws, c.context.interruption w.clock = none) :
    ∃ (w : World σ) (broken : Bool),
      turns ws { i with guest := g } { c with activity := a } =
        ((conclude w { i with guest := g' } c.fuelBefore broken
          (outcome { i with guest := g' } c result)).2.1,
          .ended (outcome { i with guest := g' } c result)) := by
  induction h with
  | @last w v g g' a result hr =>
    obtain ⟨broken, hdone⟩ := continue?_of_entered
      (c := { c with activity := a }) hentered v { i with guest := g' } result
    refine ⟨v, broken, turns_of_conclude ?_⟩
    rw [proceed_one, hr]
    exact hdone
  | @next w v ws g g' g'' a a' s result hr hs _ ih =>
    obtain ⟨u, broken, hu⟩ := ih fun w hw => hopen w (List.mem_cons_of_mem _ hw)
    refine ⟨u, broken, .trans ?_ hu⟩
    exact turns_of_round (i := { i with guest := g }) (c := { c with activity := a }) hr hs
      (hopen w List.mem_cons_self)

end Call
end FunctionHost

import FunctionHost.Context.Bench
import FunctionHost.Proofs.Context.Guarded

/-!
# How waits end

The law of guarded waits for whatever waits under a context: work that is looked at
(`Work.guarded`), guards in guards, and one wait on a bench of its own (`Context.ending`).

On a bench, a context can only be cancelled by the token that is kept for it.  Once that is
forgotten, the context is cancelled if it was, or if that was planned, and never else
(`ContextBench.cancellation_after_dropHandle`).
-/
namespace FunctionHost

/-! ## One wait -/

namespace Context

variable {c : Context} {clock : Clock}

/-- **The look that ends a wait** which the context did not end at its start: `a` comes of the work
once it is done. -/
theorem guard_finish {α : Type} {now t : Nat} {w : Instant} (a : α)
    (hopen : c.interruption (clock.advance now) = none) (hnow : clock.now ≤ now)
    (ht : (t : Instant) = Instant.finish now w (c.cancellation clock) c.expiry) :
    c.guard (clock.advance t) (if w ≤ t then some a else none) =
      some ((Instant.verdict now w (c.cancellation clock) c.expiry).map fun _ => a) := by
  obtain ⟨hcancel, hexpiry⟩ := lt_min_iff.mp ((interruption_advance_eq_none_iff hnow).mp hopen)
  have hle : now ≤ t := Instant.start_le_of_finish ht
  rw [Instant.verdict, if_neg hcancel.not_ge, if_neg hexpiry.not_ge]
  by_cases hwork : w ≤ c.cancellation clock ∧ w ≤ c.expiry
  · rw [if_pos hwork, if_pos (ht ▸ Instant.le_finish hwork)]
    rfl
  · obtain ⟨hmin, hlt⟩ := Instant.finish_of_interrupted hcancel.not_ge hexpiry.not_ge hwork
    rw [← ht] at hmin
    rw [if_neg hwork, if_neg (hmin ▸ hlt).not_ge, guard, interruption_advance (hnow.trans hle), hmin]
    by_cases hfirst : c.cancellation clock ≤ c.expiry
    · simp [hfirst, Except.map]
    · simp [hfirst, (lt_of_not_ge hfirst).le, Except.map]

/-- A wait that begins is looked at when something ends it. -/
theorem ending_of_wakeup {work : Option Nat} {instant : Nat} (hopen : c.interruption clock = none)
    (hwakeup : c.wakeup clock work = some instant) (hle : clock.now ≤ instant) :
    c.ending clock work = (c.guard (clock.advance instant)
      (if Instant.ofOption work ≤ instant then some () else none)).map
        (clock.advance instant, ·) := by
  have hlater : (clock.advance instant).now = instant := max_eq_right hle
  rw [ending, hopen, hwakeup]
  cases work <;> simp [hlater]

/-- **How one wait ends**: never if nothing ends it, else at the first instant at which something
does. -/
theorem ending_eq (c : Context) (h : clock.Current) (work : Option Nat) :
    let stop := Instant.finish clock.now (.ofOption work) (c.cancellation clock) c.expiry
    (stop = ⊤ → c.ending clock work = none) ∧
      ∀ t : Nat, stop = t → c.ending clock work =
        some (clock.advance t,
          Instant.verdict clock.now (.ofOption work) (c.cancellation clock) c.expiry) := by
  intro stop
  have hnow := interruption_advance (c := c) (le_refl clock.now)
  rw [h.advance_now] at hnow
  -- A context that is over by now ends the wait at once, whatever the work does.
  by_cases hclosed : c.cancellation clock ≤ clock.now ∨ c.expiry ≤ clock.now
  · have hstop : stop = clock.now := Instant.finish_of_closed hclosed
    refine ⟨fun htop => absurd (hstop.symm.trans htop) (WithTop.natCast_ne_top _), fun t ht => ?_⟩
    obtain rfl : clock.now = t := Nat.cast_inj.mp (hstop.symm.trans ht)
    rw [ending, hnow, h.advance_now, Instant.verdict]
    by_cases hcancel : c.cancellation clock ≤ clock.now
    · simp only [hcancel, if_true]
    · simp only [hcancel, hclosed.resolve_left hcancel, if_true, if_false]
  · obtain ⟨hcancel, hexpiry⟩ := not_or.mp hclosed
    simp only [hcancel, hexpiry, if_false] at hnow
    have hwakeup : Instant.ofOption (c.wakeup clock work) = stop :=
      ofOption_wakeup work (Bool.eq_false_iff.mpr fun hc => by simp [interruption, hc] at hnow)
    cases hw : c.wakeup clock work with
    | none =>
      refine ⟨fun _ => ?_, fun t ht => by simp [hw, ht] at hwakeup⟩
      rw [ending, hnow, hw]
    | some instant =>
      rw [hw, Instant.ofOption_some] at hwakeup
      refine ⟨fun htop => by simp [htop] at hwakeup, fun t ht => ?_⟩
      obtain rfl : instant = t := Nat.cast_inj.mp (hwakeup.trans ht)
      have hle : clock.now ≤ instant := Instant.start_le_of_finish ht.symm
      have hend := guard_finish () (by rw [h.advance_now, hnow]) le_rfl ht.symm
      rw [ending_of_wakeup hnow hw hle, hend, Option.map_some]
      cases Instant.verdict .. <;> rfl

end Context

/-! ## Tokens that nobody keeps -/

namespace Clock

variable {clock : Clock} {token : Nat}

/-- **Whether a token is cancelled some time**: it is already, or that is planned. -/
def WillCancel (clock : Clock) (token : Nat) : Prop :=
  token ∈ clock.cancelled ∨ ∃ instant, (instant, token) ∈ clock.planned

theorem willCancel_cancel {other : Nat} :
    (clock.cancel other).WillCancel token ↔ other = token ∨ clock.WillCancel token := by
  simp [WillCancel, cancel, or_assoc, eq_comm]

theorem willCancel_plan {instant other : Nat} :
    (clock.plan instant other).WillCancel token ↔ other = token ∨ clock.WillCancel token := by
  simp only [WillCancel, plan, List.mem_append, List.mem_singleton, Prod.mk.injEq, exists_or,
    exists_and_right, exists_eq, true_and]
  rw [← or_assoc, or_comm, eq_comm]

/-- What is planned is done in time, and nothing else is. -/
theorem willCancel_advance {instant : Nat} :
    (clock.advance instant).WillCancel token ↔ clock.WillCancel token := by
  simp only [WillCancel, advance, List.mem_append, List.mem_map, List.mem_filter,
    decide_eq_true_eq, Bool.not_eq_true', decide_eq_false_iff_not]
  constructor
  · rintro ((⟨p, ⟨hp, -⟩, rfl⟩ | hcancelled) | ⟨later, hp, -⟩)
    · exact .inr ⟨p.1, hp⟩
    · exact .inl hcancelled
    · exact .inr ⟨later, hp⟩
  · rintro (hcancelled | ⟨later, hp⟩)
    · exact .inl (.inr hcancelled)
    · by_cases hdue : later ≤ instant
      · exact .inl (.inl ⟨_, ⟨hp, hdue⟩, rfl⟩)
      · exact .inr ⟨later, hp, hdue⟩

end Clock

namespace Context

theorem firstPlanned_eq_top_iff {planned : List (Nat × Nat)} :
    firstPlanned planned = ⊤ ↔ planned = [] := by
  cases planned with
  | nil => simp [firstPlanned]
  | cons p planned =>
    have hne : firstPlanned (p :: planned) ≠ ⊤ :=
      ((min_le_left _ _).trans_lt (WithTop.natCast_lt_top p.1)).ne
    simp [hne]

/-- A context is never cancelled if its token is not. -/
theorem cancellation_eq_top_iff {c : Context} {clock : Clock} :
    c.cancellation clock = ⊤ ↔ ∀ token ∈ c.token, ¬ clock.WillCancel token := by
  unfold cancellation isCancelled Clock.WillCancel
  cases c.token with
  | none =>
    rw [List.filter_eq_nil_iff.mpr (by simp)]
    simp [firstPlanned]
  | some token =>
    by_cases hcancelled : token ∈ clock.cancelled
    · simp [hcancelled]
    · simp only [hcancelled, firstPlanned_eq_top_iff, List.contains_iff_mem, if_false, false_or,
        List.filter_eq_nil_iff, decide_eq_true_eq, Option.mem_def, Option.some.injEq, not_exists,
        forall_eq']
      exact ⟨fun h instant hp => h _ hp rfl, fun h p hp hsame => h p.1 (hsame ▸ hp)⟩

end Context

namespace ContextBench

variable {b : ContextBench} {token : Nat}

/-- The bench after some commands. -/
def after (b : ContextBench) (commands : List ContextCommand) : ContextBench :=
  commands.foldl (fun b x => (b.step x).1) b

/-- **Whether a token was given out that nobody keeps.** -/
structure Dropped (b : ContextBench) (token : Nat) : Prop where
  given : token < b.tokens
  handle : b.handle ≠ some token

variable {x : ContextCommand}

/-- A wait lets time pass, and no more. -/
theorem willCancel_ending {c : Context} {clock later : Clock} {work : Option Nat}
    {outcome : Except Interruption Unit} (h : c.ending clock work = some (later, outcome)) :
    later.WillCancel token ↔ clock.WillCancel token := by
  unfold Context.ending at h
  split at h
  · cases h
    rfl
  · split at h
    · cases h
    · obtain ⟨_, -, ⟨⟩⟩ := Option.map_eq_some_iff.mp h
      exact Clock.willCancel_advance

/-- A wait on the bench cancels no token but the one that is kept. -/
theorem willCancel_guard (h : b.handle ≠ some token) (work cancelAfter : Option Nat) :
    (b.guard work cancelAfter).1.handle = b.handle ∧
      (b.guard work cancelAfter).1.tokens = b.tokens ∧
      ((b.guard work cancelAfter).1.clock.WillCancel token ↔ b.clock.WillCancel token) := by
  unfold guard
  extract_lets clock
  have hclock : clock.WillCancel token ↔ b.clock.WillCancel token := by
    simp only [clock]
    split
    · rename_i kept hkept
      rw [Clock.willCancel_plan, or_iff_right fun hsame => h (hkept.trans (congrArg some hsame))]
    · rfl
  split
  · exact ⟨rfl, rfl, hclock⟩
  · rename_i hending
    exact ⟨rfl, rfl, (willCancel_ending hending).trans hclock⟩

/-- **One command** cancels no token that nobody keeps. -/
theorem Dropped.step (h : b.Dropped token) (x : ContextCommand) :
    (b.step x).1.Dropped token ∧
      ((b.step x).1.clock.WillCancel token ↔ b.clock.WillCancel token) := by
  obtain ⟨hgiven, hhandle⟩ := h
  cases x with
  | tokenize =>
    exact ⟨⟨Nat.lt_succ_of_lt hgiven, fun hsame => hgiven.ne' (Option.some.inj hsame)⟩, Iff.rfl⟩
  | cancel =>
    simp only [ContextBench.step]
    split
    · rename_i kept hkept
      refine ⟨⟨hgiven, hhandle⟩, ?_⟩
      rw [Clock.willCancel_cancel,
        or_iff_right fun hsame => hhandle (hkept.trans (congrArg some hsame))]
    · exact ⟨⟨hgiven, hhandle⟩, Iff.rfl⟩
  | dropHandle => exact ⟨⟨hgiven, fun hsame => nomatch hsame⟩, Iff.rfl⟩
  | wait ms => exact ⟨⟨hgiven, hhandle⟩, Clock.willCancel_advance⟩
  | guard work cancelAfter =>
    obtain ⟨hkept, htokens, hcancel⟩ := willCancel_guard hhandle work cancelAfter
    exact ⟨⟨htokens.symm ▸ hgiven, hkept.symm ▸ hhandle⟩, hcancel⟩
  | swap =>
    simp only [ContextBench.step]
    split <;> exact ⟨⟨hgiven, hhandle⟩, Iff.rfl⟩
  | _ => exact ⟨⟨hgiven, hhandle⟩, Iff.rfl⟩

/-- **Any commands** cancel no token that nobody keeps. -/
theorem Dropped.after (h : b.Dropped token) (commands : List ContextCommand) :
    (b.after commands).clock.WillCancel token ↔ b.clock.WillCancel token := by
  induction commands generalizing b with
  | nil => rfl
  | cons x commands ih =>
    obtain ⟨hdropped, hcancel⟩ := h.step x
    exact (ih hdropped).trans hcancel

/-- **A token that is forgotten** cancels nothing: from then on a context is cancelled some time if
and only if it was going to be. -/
theorem cancellation_after_dropHandle {c : Context} (h : ∀ token ∈ c.token, token < b.tokens)
    (commands : List ContextCommand) :
    c.cancellation (b.after (.dropHandle :: commands)).clock = ⊤ ↔
      c.cancellation b.clock = ⊤ := by
  rw [Context.cancellation_eq_top_iff, Context.cancellation_eq_top_iff]
  refine forall₂_congr fun token htoken => not_congr ?_
  have hdropped : (b.step .dropHandle).1.Dropped token :=
    ⟨h token htoken, fun hsame => nomatch hsame⟩
  exact hdropped.after commands

end ContextBench

/-! ## The law -/

namespace Work

/-- **The law of guarded waits**, for work that is done at an instant `w` and for any context.

A wait that begins at some instant and is looked at promptly ends at the earliest of three instants,
and as the verdict on them says (`Ends`).  Guarded work that begins later is itself done at an
instant, so the law is as good for guards in guards, however many they are.  Of two guards on one
context the inner one decides if it has begun by then; else the outer one does, and nobody looks at
the work.  A wait on the bench ends so, too.

The context is cancelled at an instant that is known as soon as its token is forgotten: whatever is
done on the bench then, it is cancelled some time if and only if it was going to be. -/
theorem guarded_waits {σ φ α : Type} {f : Work σ φ α} {clock : Clock} {s : σ} {x : φ}
    {w : Instant} (h : f.IsDoneAt clock s x w) (c : Context) :
    let cancel := c.cancellation clock
    let expiry := c.expiry
    (∀ (start stop : Nat) (before : List Nat), Instant.Prompt start stop before →
      clock.now ≤ start → (stop : Instant) = Instant.finish start w cancel expiry →
      f.Ends start w cancel expiry s x (f.looks clock (before ++ [stop]) s x)
        ((f.guarded c).looks clock (before ++ [stop]) s (.fresh x))) ∧
    (∀ begins : Nat, ((f.guarded c).since begins).IsDoneAt clock s (.fresh x)
      (Instant.finish begins w cancel expiry)) ∧
    (∀ (start begins stop : Nat) (before : List Nat), Instant.Prompt start stop before →
      clock.now ≤ start → start ≤ begins →
      (stop : Instant) =
        Instant.finish start (Instant.finish begins w cancel expiry) cancel expiry →
      (begins ≤ stop → begins ∈ before ++ [stop]) →
      let late := (before ++ [stop]).filter (begins ≤ ·)
      let inner := (f.guarded c).looks clock late s (.fresh x)
      let outer := (((f.guarded c).since begins).guarded c).looks clock (before ++ [stop]) s
        (.fresh (.fresh x))
      if cancel ≤ start then outer = (f.drop s x, .inr (.error .canceled))
      else if expiry ≤ start then outer = (f.drop s x, .inr (.error .deadlineExceeded))
      else if begins ≤ cancel ∧ begins ≤ expiry then
        (∃ s' r, inner = (s', .inr r) ∧ outer = (s', .inr (.ok r))) ∧
          f.Ends begins w cancel expiry s x (f.looks clock late s x) inner
      else outer = (f.drop s x, .inr (.error
        (if cancel ≤ expiry then .canceled else .deadlineExceeded)))) ∧
    (clock.Current → ∀ work : Option Nat, Instant.ofOption work = w →
      (Instant.finish clock.now w cancel expiry = ⊤ → c.ending clock work = none) ∧
      ∀ stop : Nat, Instant.finish clock.now w cancel expiry = stop →
        c.ending clock work =
          some (clock.advance stop, Instant.verdict clock.now w cancel expiry)) ∧
    ∀ (b : ContextBench) (commands : List ContextCommand),
      (∀ token ∈ c.token, token < b.tokens) →
      (c.cancellation (b.after (.dropHandle :: commands)).clock = ⊤ ↔
        c.cancellation b.clock = ⊤) := by
  refine ⟨fun start stop before hp hnow hstop => h.ends_of_prompt hp hnow hstop,
    fun begins => isDoneAt_since_guarded h c begins,
    fun start begins stop before hp hnow hbegins hstop hmem =>
      nested_ends h hp hnow hbegins hstop hmem, ?_,
    fun b commands hgiven => ContextBench.cancellation_after_dropHandle hgiven commands⟩
  rintro hclock work rfl
  exact c.ending_eq hclock work

/-- Work that is done at some instant.  The looks at it are counted, and it is noted whether it was
dropped. -/
def alarm (due : Nat) : Work (Nat × Bool) Unit Unit where
  poll clock s _ := ((s.1 + 1, s.2), if due ≤ clock.now then .inr () else .inl ())
  drop s _ := (s.1, true)

theorem isDoneAt_alarm (due : Nat) (clock : Clock) (s : Nat × Bool) :
    (alarm due).IsDoneAt clock s () due := by
  intro ts hts
  induction ts using List.reverseRecOn with
  | nil => simp
  | append_singleton ts t ih =>
    have ht : (clock.advance t).now = t :=
      max_eq_right (List.rel_of_pairwise_cons hts (by simp))
    have ih := ih (hts.sublist (List.cons_sublist_cons.mpr (List.sublist_append_left ts [t])))
    rw [looks_append_singleton]
    simp only [List.mem_append, List.mem_singleton, or_and_right, exists_or, exists_eq_left, ← ih]
    generalize (alarm due).looks clock ts s () = turn
    obtain ⟨s', ⟨⟩ | ⟨⟩⟩ := turn
    · simp only [look, alarm, ht, Nat.cast_le]
      split <;> simp_all
    · simp [look]

/-- A context that is cancelled at the instant of its deadline. -/
def pressed : Context := { request := .given "", deadline := some 5, token := some 0 }

/-- The clock by which it is. -/
def pressing : Clock := { planned := [(5, 0)] }

/-- Everything comes at one instant.  Work that is guarded once is done; if the inner one of two
guards begins only then, it decides that the work is cancelled, and nobody looks at the work. -/
theorem alarm_at_once :
    ((alarm 5).guarded pressed).looks pressing [0, 5] (0, false) (.fresh ()) =
        ((2, false), .inr (.ok ())) ∧
      ((((alarm 5).guarded pressed).since 5).guarded pressed).looks pressing [0, 5] (0, false)
        (.fresh (.fresh ())) = ((0, true), .inr (.ok (.error .canceled))) ∧
      pressed.ending pressing (some 5) = some ({ now := 5, cancelled := [0] }, .ok ()) := by
  have hcancel : pressed.cancellation pressing = (5 : Nat) := rfl
  have hexpiry : pressed.expiry = (5 : Nat) := rfl
  have hprompt : Instant.Prompt 0 5 [0] := ⟨rfl, by decide, by decide⟩
  obtain ⟨hlaw, -, hnested, hending, -⟩ :=
    guarded_waits (isDoneAt_alarm 5 pressing (0, false)) pressed
  rw [hcancel, hexpiry] at hlaw hnested hending
  refine ⟨?_, ?_, ?_⟩
  · obtain ⟨s', a, hown, hgot⟩ := hlaw 0 5 [0] hprompt le_rfl rfl
    cases hown.symm.trans (rfl : _ = ((2, false), Sum.inr ()))
    exact hgot
  · have hnested := hnested 0 5 5 [0] hprompt le_rfl (by decide) rfl (by decide)
    rw [if_neg (by decide), if_neg (by decide), if_pos (by decide)] at hnested
    obtain ⟨⟨s', r, hinner, hgot⟩, -⟩ := hnested
    cases hinner.symm.trans (rfl : _ = ((0, true), Sum.inr (Except.error Interruption.canceled)))
    exact hgot
  · exact (hending (by decide) (some 5) rfl).2 5 rfl

end Work
end FunctionHost

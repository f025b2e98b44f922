import FunctionHost.Context
import Mathlib

/-!
# When a context ends

An instant may never come (`Instant`).  A context ends when its token is cancelled
(`Context.cancellation`) or when its deadline comes (`Context.expiry`), and a clock that goes on
shows it from then on (`interruption_advance`).  So the next thing that ends a wait comes at the
earliest of three instants (`ofOption_wakeup`).
-/
namespace FunctionHost

/-- **An instant**, which may never come. -/
abbrev Instant := WithTop Nat

namespace Instant

/-- The instant that is told, or never. -/
def ofOption : Option Nat → Instant
  | none => ⊤
  | some t => t

@[simp] theorem ofOption_none : ofOption none = ⊤ := rfl

@[simp] theorem ofOption_some (t : Nat) : ofOption (some t) = t := rfl

theorem ofOption_le_coe {o : Option Nat} {t : Nat} : ofOption o ≤ t ↔ ∃ n ∈ o, n ≤ t := by
  cases o <;> simp

theorem ofOption_earlier (a b : Option Nat) :
    ofOption (Context.earlier a b) = min (ofOption a) (ofOption b) := by
  cases a <;> cases b <;> simp [Context.earlier, Nat.mono_cast.map_min]

end Instant

namespace Clock

variable {clock : Clock}

/-- **Whether all that was planned up to now is done.** -/
def Current (clock : Clock) : Prop := ∀ p ∈ clock.planned, clock.now < p.1

instance : Decidable clock.Current :=
  inferInstanceAs (Decidable (∀ p ∈ clock.planned, clock.now < p.1))

theorem Current.advance_now (h : clock.Current) : clock.advance clock.now = clock := by
  have hnone : clock.planned.filter (fun p => decide (p.1 ≤ clock.now)) = [] :=
    List.filter_eq_nil_iff.mpr fun p hp => by simpa using h p hp
  have hall : clock.planned.filter (fun p => !decide (p.1 ≤ clock.now)) = clock.planned :=
    List.filter_eq_self.mpr fun p hp => by simpa using h p hp
  simp [advance, hnone, hall]

end Clock

namespace Context

variable {c : Context} {clock : Clock} {t : Nat}

/-- **When a context's deadline comes.** -/
def expiry (c : Context) : Instant := .ofOption c.deadline

/-- The earliest instant for which a cancellation is planned. -/
def firstPlanned (planned : List (Nat × Nat)) : Instant :=
  planned.foldr (fun p first => min (p.1 : Instant) first) ⊤

/-- **When a context is cancelled**, as far as that is planned: now, if it is cancelled already. -/
def cancellation (c : Context) (clock : Clock) : Instant :=
  if c.isCancelled clock then (clock.now : Instant)
  else firstPlanned (clock.planned.filter fun p => some p.2 = c.token)

theorem isExpired_iff : c.isExpired clock = true ↔ c.expiry ≤ clock.now := by
  rw [expiry, Instant.ofOption_le_coe, isExpired]
  cases c.deadline <;> simp

theorem firstPlanned_le_coe {planned : List (Nat × Nat)} :
    firstPlanned planned ≤ t ↔ ∃ p ∈ planned, p.1 ≤ t := by
  unfold firstPlanned
  induction planned with
  | nil => simp
  | cons p planned ih => simp [ih]

theorem cancellation_le_iff (h : clock.now ≤ t) : c.cancellation clock ≤ t ↔
    c.isCancelled clock = true ∨ ∃ p ∈ clock.planned, some p.2 = c.token ∧ p.1 ≤ t := by
  unfold cancellation
  split
  · rename_i hcancelled
    simp [hcancelled, h]
  · rename_i hnot
    simp [firstPlanned_le_coe, hnot, and_assoc]

/-- **What is planned is cancelled in time.** -/
theorem isCancelled_advance (h : clock.now ≤ t) :
    c.isCancelled (clock.advance t) = true ↔ c.cancellation clock ≤ t := by
  rw [cancellation_le_iff h, isCancelled, isCancelled]
  cases htoken : c.token with
  | none => simp
  | some token =>
    simp only [Clock.advance, List.contains_iff_mem, List.mem_append, List.mem_map,
      List.mem_filter, decide_eq_true_eq, Option.some.injEq]
    constructor
    · rintro (⟨p, ⟨hp, hle⟩, rfl⟩ | hcancelled)
      · exact .inr ⟨p, hp, rfl, hle⟩
      · exact .inl hcancelled
    · rintro (hcancelled | ⟨p, hp, rfl, hle⟩)
      · exact .inr hcancelled
      · exact .inl ⟨p, ⟨hp, hle⟩, rfl⟩

/-- **Why a context ends a wait** at an instant: it is cancelled by then, or its deadline has come. -/
theorem interruption_advance (h : clock.now ≤ t) : c.interruption (clock.advance t) =
    if c.cancellation clock ≤ t then some .canceled
    else if c.expiry ≤ t then some .deadlineExceeded else none := by
  have hnow : (clock.advance t).now = t := max_eq_right h
  simp only [interruption, isCancelled_advance h, isExpired_iff, hnow]

/-- **A context is open** until it is cancelled or its deadline comes. -/
theorem interruption_advance_eq_none_iff (h : clock.now ≤ t) :
    c.interruption (clock.advance t) = none ↔
      (t : Instant) < min (c.cancellation clock) c.expiry := by
  rw [interruption_advance h]
  split
  · rename_i hcancelled
    simp [hcancelled.not_gt]
  · rename_i hnot
    split
    · rename_i hexpired
      simp [hexpired.not_gt]
    · rename_i hnot'
      simp [lt_of_not_ge hnot, lt_of_not_ge hnot']

/-- A context that is not cancelled yet ends a wait at the earliest of three instants. -/
theorem ofOption_wakeup (work : Option Nat) (h : c.isCancelled clock = false) :
    Instant.ofOption (c.wakeup clock work) =
      max (clock.now : Instant)
        (min (Instant.ofOption work) (min (c.cancellation clock) c.expiry)) := by
  have hfirst (planned : List (Nat × Nat)) (o : Option Nat) : Instant.ofOption
      ((planned.map (·.1)).foldl (fun acc t => earlier acc (some t)) o) =
        min (Instant.ofOption o) (firstPlanned planned) := by
    unfold firstPlanned
    induction planned generalizing o with
    | nil => simp
    | cons p planned ih => simp [ih, Instant.ofOption_earlier, min_assoc]
  have hmax (o : Option Nat) : Instant.ofOption (o.map (max clock.now)) =
      max (clock.now : Instant) (Instant.ofOption o) := by
    cases o <;> simp [Nat.mono_cast.map_max]
  simp only [wakeup, cancellation, expiry, h, Bool.false_eq_true, if_false, hmax,
    Instant.ofOption_earlier, hfirst]
  simp [min_comm (Instant.ofOption c.deadline)]

end Context
end FunctionHost

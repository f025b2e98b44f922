import FunctionHost.Guest.State
import FunctionHost.Proofs.Pool.Filled
import Mathlib.Algebra.Order.Archimedean.Real.Basic
import Mathlib.Algebra.Order.Floor.Ring
import Mathlib.Data.Int.Interval
import Mathlib.Data.Set.Card
import Mathlib.Tactic.Linarith

/-!
# Deadlines in time

The time that guest code may take is counted in epochs: as many as cover it, at least one
(`World.epochTicks`).  The ticker, which lets the epochs pass, runs since the host was started and
is not wound up when a call begins.  So the first epoch after that comes when the rest of the tick
in progress is over (`Ticker.rest`), almost at once or a whole tick later, and only the others take
a tick each.  The deadline therefore comes later than the time allowed less a tick, and never later
than the time allowed and a tick; it comes too early whenever the rest of the tick is shorter than
the part of the time that the last epoch is counted for (`World.covered_iff`).

Instants are real numbers of milliseconds here, since nothing binds the phase of the ticker to
anything.
-/
namespace FunctionHost

/-! ## Counting in machine words -/

namespace Word64

/-- A quotient rounded up: nothing where a division by zero is tried, or a sum that is too great. -/
def divCeil? (n d : UInt64) : Option UInt64 :=
  if d = 0 then none
  else if 0 < n % d then
    if (n / d).toNat + 1 < UInt64.size then some (n / d + 1) else none
  else some (n / d)

theorem toNat_max (n m : UInt64) : (max n m).toNat = max n.toNat m.toNat := by
  by_cases h : n ≤ m
  · have hle : n.toNat ≤ m.toNat := UInt64.le_iff_toNat_le.mp h
    rw [max_eq_right hle]
    simp [max, h]
  · have hle : m.toNat ≤ n.toNat := by
      have := mt UInt64.le_iff_toNat_le.mpr h
      omega
    rw [max_eq_left hle]
    simp [max, h]

/-- Rounding up divides what is one short of another divisor more. -/
theorem ceil_eq {n d : Nat} (hd : 0 < d) :
    (n + d - 1) / d = if 0 < n % d then n / d + 1 else n / d := by
  have hn : n / d * d + n % d = n := Nat.div_add_mod' n d
  have hrest : n % d < d := Nat.mod_lt n hd
  rw [Nat.div_eq_iff hd]
  split
  · rw [Nat.add_mul, Nat.one_mul]
    omega
  · omega

/-- **Rounding up never fails** for a divisor that is not zero, since a quotient with a rest is not
the greatest word. -/
theorem divCeil?_eq {n d : UInt64} (hd : 0 < d.toNat) :
    ∃ q, divCeil? n d = some q ∧ q.toNat = (n.toNat + d.toNat - 1) / d.toNat := by
  have hzero : d ≠ 0 := by
    rintro rfl
    simp at hd
  have hrest : 0 < n % d ↔ 0 < n.toNat % d.toNat := by
    rw [UInt64.lt_iff_toNat_lt, UInt64.toNat_mod]
    rfl
  rw [ceil_eq hd, divCeil?, if_neg hzero]
  by_cases h : 0 < n.toNat % d.toNat
  · have hsmall : n.toNat / d.toNat + 1 < UInt64.size := by
      have hn := n.toNat_lt
      -- A divisor of one leaves no rest, and any other at least halves the word.
      have htwo : 2 ≤ d.toNat := by
        by_contra hone
        have : d.toNat = 1 := by omega
        rw [this, Nat.mod_one] at h
        omega
      have : n.toNat / d.toNat ≤ n.toNat / 2 := Nat.div_le_div_left htwo (by omega)
      have hsize : UInt64.size = 2 ^ 64 := rfl
      omega
    rw [if_pos (hrest.mpr h), if_pos (by rwa [UInt64.toNat_div]), if_pos h]
    refine ⟨_, rfl, ?_⟩
    rw [UInt64.toNat_add, UInt64.toNat_div]
    exact Nat.mod_eq_of_lt hsmall
  · rw [if_neg (mt hrest.mp h), if_neg h]
    exact ⟨_, rfl, UInt64.toNat_div ..⟩

end Word64

namespace World

/-- **How many epochs cover some milliseconds**, as it is computed in machine words. -/
def epochTicks? (engine : EngineSettings) (milliseconds : UInt64) : Option UInt64 :=
  (Word64.divCeil? milliseconds (max engine.epochTickMs 1)).map (max · 1)

theorem tickMs_pos (engine : EngineSettings) : 0 < engine.tickMs := by
  unfold EngineSettings.tickMs
  omega

/-- **The count is had for all words**, and it is the exact one. -/
theorem epochTicks?_eq (engine : EngineSettings) (milliseconds : UInt64) :
    ∃ n, epochTicks? engine milliseconds = some n ∧
      n.toNat = epochTicks engine milliseconds.toNat := by
  have htick : (max engine.epochTickMs 1).toNat = engine.tickMs := Word64.toNat_max ..
  obtain ⟨q, hq, hvalue⟩ :=
    Word64.divCeil?_eq (n := milliseconds) (d := max engine.epochTickMs 1)
      (htick ▸ tickMs_pos engine)
  refine ⟨max q 1, by rw [epochTicks?, hq]; rfl, ?_⟩
  rw [Word64.toNat_max, hvalue, htick]
  rfl

variable (engine : EngineSettings) (milliseconds : Nat)

theorem epochTicks_pos : 0 < epochTicks engine milliseconds := by
  unfold epochTicks
  omega

/-- The epochs counted take the time asked for, -/
theorem le_epochTicks_mul : milliseconds ≤ epochTicks engine milliseconds * engine.tickMs := by
  have htick := tickMs_pos engine
  calc milliseconds
      ≤ (milliseconds + engine.tickMs - 1) / engine.tickMs * engine.tickMs := by
        have := Nat.lt_div_mul_add htick (a := milliseconds + engine.tickMs - 1)
        omega
    _ ≤ epochTicks engine milliseconds * engine.tickMs :=
        Nat.mul_le_mul_right _ (Nat.le_max_left ..)

/-- and one less would not. -/
theorem epochTicks_pred_mul_lt (h : 0 < milliseconds) :
    (epochTicks engine milliseconds - 1) * engine.tickMs < milliseconds := by
  have htick := tickMs_pos engine
  have hle : (milliseconds + engine.tickMs - 1) / engine.tickMs * engine.tickMs
      ≤ milliseconds + engine.tickMs - 1 := Nat.div_mul_le_self ..
  have hone : 1 ≤ (milliseconds + engine.tickMs - 1) / engine.tickMs :=
    (Nat.one_le_div_iff htick).mpr (by omega)
  rw [epochTicks, max_eq_left hone, Nat.sub_mul]
  omega

end World

/-! ## The ticker -/

/-- **A ticker**: the epoch goes on by one whenever it ticks. -/
structure Ticker where
  /-- Milliseconds from one tick to the next. -/
  tick : Nat
  /-- An instant at which it ticks. -/
  phase : ℝ
  pos : 0 < tick

namespace Ticker

/-- How often it ticks after one instant and up to another. -/
noncomputable def count (c : Ticker) (a t : ℝ) : Nat :=
  { k : ℤ | a < c.phase + k * c.tick ∧ c.phase + k * c.tick ≤ t }.ncard

/-- What is left of the tick in progress at an instant: the time up to the next tick. -/
noncomputable def rest (c : Ticker) (a : ℝ) : ℝ :=
  c.phase + (⌊(a - c.phase) / c.tick⌋ + 1) * c.tick - a

variable (c : Ticker) {a t : ℝ}

theorem tick_pos : (0 : ℝ) < c.tick := Nat.cast_pos.mpr c.pos

theorem rest_pos (a : ℝ) : 0 < c.rest a := by
  have hfloor := Int.lt_floor_add_one ((a - c.phase) / c.tick)
  have := (div_lt_iff₀ c.tick_pos).mp hfloor
  unfold rest
  linarith

theorem rest_le (a : ℝ) : c.rest a ≤ c.tick := by
  have hfloor := Int.floor_le ((a - c.phase) / c.tick)
  have := (le_div_iff₀ c.tick_pos).mp hfloor
  unfold rest
  linarith

/-- The ticks after one instant and up to another are those of a stretch of whole numbers. -/
theorem count_eq (a t : ℝ) :
    c.count a t = (⌊(t - c.phase) / c.tick⌋ - ⌊(a - c.phase) / c.tick⌋).toNat := by
  have hset : { k : ℤ | a < c.phase + k * c.tick ∧ c.phase + k * c.tick ≤ t } =
      Finset.Ioc ⌊(a - c.phase) / c.tick⌋ ⌊(t - c.phase) / c.tick⌋ := by
    ext k
    rw [Set.mem_ofPred_eq, Finset.coe_Ioc, Set.mem_Ioc, Int.floor_lt, Int.le_floor,
      div_lt_iff₀ c.tick_pos, le_div_iff₀ c.tick_pos, sub_lt_iff_lt_add', le_sub_iff_add_le']
  rw [count, hset, Set.ncard_coe_finset, Int.card_Ioc]

/-- **When the epoch has gone on by some number**: the first tick comes after the rest of the one in
progress, and each of the others a tick later. -/
theorem le_count_iff {n : Nat} (hn : 0 < n) :
    n ≤ c.count a t ↔ a + c.rest a + (n - 1) * c.tick ≤ t := by
  calc n ≤ c.count a t
      ↔ ⌊(a - c.phase) / c.tick⌋ + n ≤ ⌊(t - c.phase) / c.tick⌋ := by
        rw [count_eq]
        omega
    _ ↔ (⌊(a - c.phase) / c.tick⌋ + n) * c.tick ≤ t - c.phase := by
        rw [Int.le_floor, le_div_iff₀ c.tick_pos]
        push_cast
        rfl
    _ ↔ a + c.rest a + (n - 1) * c.tick ≤ t := by
        unfold rest
        constructor <;> intro h <;> linarith

end Ticker

namespace World

variable {σ : Type}

/-- The ticker of a world, with its phase. -/
def ticker (w : World σ) (phase : ℝ) : Ticker := ⟨w.engine.tickMs, phase, tickMs_pos w.engine⟩

/-- **Whether guest code can be stopped** at an instant by the deadline that it was armed with at
another one, for some milliseconds: there have been the epochs in between. -/
def IsStoppable (w : World σ) (g : Guest) (milliseconds : Nat) (phase a t : ℝ) : Prop :=
  (g.arm (w.deadlineFor milliseconds)).store.expired
    (w.tick ((w.ticker phase).count a t)).epoch = true

/-- The instant from which on guest code can be stopped that is armed for some milliseconds. -/
noncomputable def stopInstant (w : World σ) (milliseconds : Nat) (phase a : ℝ) : ℝ :=
  a + (w.ticker phase).rest a + (epochTicks w.engine milliseconds - 1) * w.engine.tickMs

variable {w : World σ} {g : Guest} {milliseconds : Nat} {phase a t : ℝ}

theorem isStoppable_iff (h : w.engine.epochInterruption = true) :
    w.IsStoppable g milliseconds phase a t ↔ w.stopInstant milliseconds phase a ≤ t := by
  have hcount := (w.ticker phase).le_count_iff (a := a) (t := t)
    (epochTicks_pos w.engine milliseconds)
  rw [stopInstant, ← show (w.ticker phase).tick = w.engine.tickMs from rfl, ← hcount]
  simp [IsStoppable, deadlineFor, h, Guest.arm, Wasm.Store.expired, tick]

theorem le_ticks : (milliseconds : ℝ) ≤ epochTicks w.engine milliseconds * w.engine.tickMs := by
  exact_mod_cast le_epochTicks_mul w.engine milliseconds

theorem pred_ticks_lt (hpos : 0 < milliseconds) :
    (epochTicks w.engine milliseconds - 1) * w.engine.tickMs < (milliseconds : ℝ) := by
  rw [← Nat.cast_pred (epochTicks_pos w.engine milliseconds)]
  exact_mod_cast epochTicks_pred_mul_lt w.engine milliseconds hpos

/-- The deadline comes no later than a tick after the time allowed, -/
theorem stopInstant_le :
    w.stopInstant milliseconds phase a ≤ a + milliseconds + w.engine.tickMs := by
  have hrest : (w.ticker phase).rest a ≤ w.engine.tickMs := (w.ticker phase).rest_le a
  have hticks : ((epochTicks w.engine milliseconds : ℝ) - 1) * w.engine.tickMs ≤ milliseconds := by
    rcases Nat.eq_zero_or_pos milliseconds with rfl | hpos
    · have hone : epochTicks w.engine 0 = 1 := by
        rw [epochTicks, Nat.zero_add, Nat.div_eq_of_lt (Nat.sub_lt (tickMs_pos _) Nat.one_pos)]
        rfl
      simp [hone]
    · exact (pred_ticks_lt hpos).le
  unfold stopInstant
  linarith

/-- and less than a tick before. -/
theorem lt_stopInstant :
    a + milliseconds - w.engine.tickMs < w.stopInstant milliseconds phase a := by
  have hrest : 0 < (w.ticker phase).rest a := (w.ticker phase).rest_pos a
  have hticks : (milliseconds : ℝ) ≤ epochTicks w.engine milliseconds * w.engine.tickMs := le_ticks
  unfold stopInstant
  linarith

/-- **No time is covered at every phase**, apart from none: guest code that is armed late enough in
a tick can be stopped too early. -/
theorem exists_stopInstant_lt (w : World σ) (phase : ℝ) (hpos : 0 < milliseconds) :
    ∃ a, w.stopInstant milliseconds phase a < a + milliseconds := by
  -- What the last epoch is counted for; half of that is left of the tick in progress.
  obtain ⟨last, hlast⟩ :
      ∃ last : ℝ, last = milliseconds - (epochTicks w.engine milliseconds - 1) * w.engine.tickMs :=
    ⟨_, rfl⟩
  have hlt : 0 < last := hlast ▸ sub_pos.mpr (pred_ticks_lt hpos)
  have hle : last ≤ w.engine.tickMs := by
    have : (milliseconds : ℝ) ≤ epochTicks w.engine milliseconds * w.engine.tickMs := le_ticks
    linarith
  refine ⟨phase + w.engine.tickMs - last / 2, ?_⟩
  have htick : (0 : ℝ) < w.engine.tickMs := (w.ticker phase).tick_pos
  have hfloor : ⌊(phase + w.engine.tickMs - last / 2 - phase) / (w.engine.tickMs : ℝ)⌋ = 0 := by
    rw [Int.floor_eq_zero_iff, Set.mem_Ico, le_div_iff₀ htick, div_lt_iff₀ htick]
    constructor <;> linarith
  have hrest : (w.ticker phase).rest (phase + w.engine.tickMs - last / 2) = last / 2 := by
    simp only [Ticker.rest, ticker, hfloor]
    push_cast
    ring
  rw [stopInstant, hrest]
  linarith

/-- **What the deadline of guest code is in time.**  The count of epochs is had for all words.  The
code can be stopped from one instant on, which is less than a tick before the time allowed is over
and at most a tick after; and the time is covered exactly if what the last epoch is counted for is
not more than what is left of the tick in progress when the code is armed. -/
theorem covered_iff (w : World σ) (g : Guest) (timeout : UInt64) (phase a : ℝ)
    (h : w.engine.epochInterruption = true) :
    ∃ (n : UInt64) (moment : ℝ),
      epochTicks? w.engine timeout = some n ∧
      n.toNat = epochTicks w.engine timeout.toNat ∧
      (∀ t, w.IsStoppable g timeout.toNat phase a t ↔ moment ≤ t) ∧
      a + timeout.toNat - w.engine.tickMs < moment ∧
      moment ≤ a + timeout.toNat + w.engine.tickMs ∧
      (a + timeout.toNat ≤ moment ↔
        timeout.toNat - (n.toNat - 1) * w.engine.tickMs ≤ (w.ticker phase).rest a) := by
  obtain ⟨n, hn, hvalue⟩ := epochTicks?_eq w.engine timeout
  refine ⟨n, w.stopInstant timeout.toNat phase a, hn, hvalue, fun t => isStoppable_iff h,
    lt_stopInstant, stopInstant_le, ?_⟩
  rw [hvalue, stopInstant]
  constructor <;> intro hcovered <;> linarith

theorem tickMs_silent : World.silent.engine.tickMs = 10 := rfl

/-- Guest code armed for a hundred milliseconds as the ticker ticks is not stopped before they are
over. -/
theorem covered_on_a_tick :
    World.silent.engine.epochInterruption = true ∧
      ∃ moment : ℝ, (∀ t, World.silent.IsStoppable default 100 0 0 t ↔ moment ≤ t) ∧
        100 ≤ moment ∧ moment ≤ 110 := by
  obtain ⟨n, moment, -, hn, hstop, -, hle, hcovered⟩ :=
    covered_iff World.silent default 100 0 0 rfl
  have hticks : n.toNat = 10 := hn
  have hrest : (World.silent.ticker 0).rest 0 = 10 := by
    simp [Ticker.rest, ticker, tickMs_silent]
  have hmoment : (0 : ℝ) + 100 ≤ moment := by
    refine hcovered.mpr ?_
    rw [hticks, hrest, tickMs_silent, show (100 : UInt64).toNat = 100 from rfl]
    norm_num
  refine ⟨rfl, moment, hstop, by simpa using hmoment, ?_⟩
  have : moment ≤ 0 + 100 + 10 := hle
  linarith

/-- **A hundred milliseconds are not covered** by the ten epochs that are counted for them if half
of a tick is over when the guest code is armed: it can be stopped after ninety-five. -/
theorem not_covered_within_a_tick :
    epochTicks World.silent.engine 100 = 10 ∧
      World.silent.IsStoppable default 100 0 5 100 ∧ (100 : ℝ) < 5 + 100 := by
  refine ⟨rfl, (isStoppable_iff rfl).mpr ?_, by norm_num⟩
  have hticks : epochTicks World.silent.engine 100 = 10 := rfl
  have hfloor : ⌊((5 : ℝ) - 0) / 10⌋ = 0 := by
    rw [Int.floor_eq_zero_iff, Set.mem_Ico]
    norm_num
  have hrest : (World.silent.ticker 0).rest 5 = 5 := by
    simp only [Ticker.rest, ticker, tickMs_silent, Nat.cast_ofNat, hfloor]
    norm_num
  rw [stopInstant, hticks, hrest, tickMs_silent]
  norm_num

end World
end FunctionHost

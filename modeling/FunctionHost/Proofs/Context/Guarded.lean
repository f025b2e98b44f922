import FunctionHost.Context.Bench
import FunctionHost.Proofs.Context.Instants
import Mathlib.Data.List.Induction
import Mathlib.Order.MinMax

/-!
# Guarded waits

`Work` is anything that is looked at from time to time until it is done, and that can be dropped
before.  `Work.guarded` is the same work watched together with a context: the first look is at the
context alone, and only if it is open the work is looked at; every look after that is
`Context.guard`.

What matters about some work is the instant from which on a look finds it done (`Work.IsDoneAt`).
Guarded work is done at the earliest of three instants, but not before its first look
(`Instant.finish`), so guarded work can be guarded in turn (`Work.isDoneAt_since_guarded`).  What
comes of it then is told by `Work.Ends`, if it is looked at as soon as there is something to see
(`Instant.Prompt`).
-/
namespace FunctionHost

namespace Instant

/-- **When a guarded wait is over** that begins at some instant. -/
def finish (start : Nat) (work cancel expiry : Instant) : Instant :=
  max (start : Instant) (min work (min cancel expiry))

/-- **How a guarded wait ends** that begins at some instant, given when the work is done, when the
context is cancelled and when its deadline comes. -/
def verdict (start : Nat) (work cancel expiry : Instant) : Except Interruption Unit :=
  if cancel ≤ start then .error .canceled
  else if expiry ≤ start then .error .deadlineExceeded
  else if work ≤ cancel ∧ work ≤ expiry then .ok ()
  else if cancel ≤ expiry then .error .canceled
  else .error .deadlineExceeded

/-- **Looks from one instant until another**: they begin with the one, come in order and stop with
the first at the other. -/
structure Prompt (start stop : Nat) (before : List Nat) : Prop where
  begins : (before ++ [stop]).head? = some start
  ordered : before.Pairwise (· ≤ ·)
  stops : ∀ t ∈ before, t < stop

variable {start stop : Nat} {before : List Nat} {work cancel expiry : Instant}

theorem finish_le_cancel : finish start work cancel expiry ≤ cancel ↔ start ≤ cancel := by
  rw [finish, max_le_iff, and_iff_left ((min_le_right _ _).trans (min_le_left _ _))]

theorem finish_le_expiry : finish start work cancel expiry ≤ expiry ↔ start ≤ expiry := by
  rw [finish, max_le_iff, and_iff_left ((min_le_right _ _).trans (min_le_right _ _))]

theorem finish_of_closed (h : cancel ≤ start ∨ expiry ≤ start) :
    finish start work cancel expiry = start :=
  max_eq_left (min_le_of_right_le (min_le_iff.mpr h))

theorem finish_of_le (h : (start : Instant) ≤ work) (hwork : work ≤ cancel ∧ work ≤ expiry) :
    finish start work cancel expiry = work := by
  rw [finish, min_eq_left (le_min hwork.1 hwork.2), max_eq_right h]

/-- Work that counts is done when the wait is over. -/
theorem le_finish (h : work ≤ cancel ∧ work ≤ expiry) :
    work ≤ finish start work cancel expiry :=
  (le_min le_rfl (le_min h.1 h.2)).trans (le_max_right _ _)

/-- No wait is over before it begins. -/
theorem start_le_of_finish (h : (stop : Instant) = finish start work cancel expiry) :
    start ≤ stop := by
  have hle : (start : Instant) ≤ finish start work cancel expiry := le_max_left _ _
  rw [← h] at hle
  exact Nat.cast_le.mp hle

/-- A wait that the context ends is over before the work is done. -/
theorem finish_of_interrupted (hcancel : ¬ cancel ≤ start) (hexpiry : ¬ expiry ≤ start)
    (h : ¬ (work ≤ cancel ∧ work ≤ expiry)) :
    finish start work cancel expiry = min cancel expiry ∧ min cancel expiry < work := by
  have hlt : min cancel expiry < work := lt_of_not_ge fun hle => h (le_min_iff.mp hle)
  have hstart : (start : Instant) ≤ min cancel expiry :=
    le_min (le_of_not_ge hcancel) (le_of_not_ge hexpiry)
  exact ⟨by rw [finish, min_eq_right hlt.le, max_eq_right hstart], hlt⟩

theorem Prompt.le (h : Prompt start stop before) : ∀ t ∈ before ++ [stop], start ≤ t := by
  cases before with
  | nil => simpa using (Option.some.inj h.begins).ge
  | cons t before =>
    obtain rfl : t = start := Option.some.inj h.begins
    have hlt := h.stops t List.mem_cons_self
    have hle : ∀ u ∈ before, t ≤ u := fun _ => List.rel_of_pairwise_cons h.ordered
    intro u hu
    rcases List.mem_append.mp hu with hu | hu
    · rcases List.mem_cons.mp hu with rfl | hu
      · exact le_rfl
      · exact hle u hu
    · exact (List.mem_singleton.mp hu) ▸ hlt.le

theorem Prompt.le_stop (h : Prompt start stop before) : ∀ t ∈ before ++ [stop], t ≤ stop := by
  intro t ht
  rcases List.mem_append.mp ht with ht | ht
  · exact (h.stops t ht).le
  · exact (List.mem_singleton.mp ht).le

/-- Looks that stop where they begin are one look. -/
theorem Prompt.eq_nil (h : Prompt start stop before) (hstop : stop ≤ start) : before = [] := by
  refine List.eq_nil_iff_forall_not_mem.mpr fun t ht => ?_
  have hle := h.le t (List.mem_append_left _ ht)
  have hlt := h.stops t ht
  omega

theorem Prompt.pairwise (h : Prompt start stop before) {now : Nat} (hnow : now ≤ start) :
    (now :: (before ++ [stop])).Pairwise (· ≤ ·) := by
  refine List.pairwise_cons.mpr ⟨fun t ht => hnow.trans (h.le t ht), ?_⟩
  exact List.pairwise_append.mpr
    ⟨h.ordered, List.pairwise_singleton .., by simpa using fun t ht => (h.stops t ht).le⟩

/-- Looks in order begin with the instant that is among them and before which there is none. -/
theorem head?_filter_of_mem {ts : List Nat} {begins : Nat} (hordered : ts.Pairwise (· ≤ ·))
    (hmem : begins ∈ ts) : (ts.filter (begins ≤ ·)).head? = some begins := by
  induction ts with
  | nil => cases hmem
  | cons t ts ih =>
    obtain ⟨hfirst, hrest⟩ := List.pairwise_cons.mp hordered
    rcases List.mem_cons.mp hmem with rfl | hmem
    · rw [List.filter_cons_of_pos (by simp), List.head?_cons]
    · by_cases hle : begins ≤ t
      · obtain rfl : begins = t := Nat.le_antisymm hle (hfirst _ hmem)
        rw [List.filter_cons_of_pos (by simp), List.head?_cons]
      · rw [List.filter_cons_of_neg (by simpa using hle)]
        exact ih hrest hmem

/-- **Looks from a later instant on**, if it is among the instants at which somebody looks. -/
theorem Prompt.since (h : Prompt start stop before) {begins : Nat} (hle : begins ≤ stop)
    (hmem : begins ∈ before ++ [stop]) :
    (before ++ [stop]).filter (begins ≤ ·) = before.filter (begins ≤ ·) ++ [stop] ∧
      Prompt begins stop (before.filter (begins ≤ ·)) := by
  have hlate : (before ++ [stop]).filter (begins ≤ ·) = before.filter (begins ≤ ·) ++ [stop] := by
    simp [List.filter_append, hle]
  refine ⟨hlate, ?_, h.ordered.filter _, fun t ht => h.stops t (List.mem_filter.mp ht).1⟩
  rw [← hlate]
  exact head?_filter_of_mem (h.pairwise le_rfl).of_cons hmem

end Instant

/-- **Work that is looked at from time to time**, in surroundings of a kind `σ`: `φ` is what is in
progress, `α` what comes of it. -/
structure Work (σ φ α : Type) where
  /-- One look: the work goes on, or this came of it. -/
  poll : Clock → σ → φ → σ × (φ ⊕ α)
  /-- What dropping the work leaves behind. -/
  drop : σ → φ → σ

/-- Work that was looked at, or not yet. -/
inductive Stage (φ : Type) where
  /-- Nobody looked at it. -/
  | fresh (work : φ)
  /-- Somebody did. -/
  | begun (work : φ)

namespace Work

variable {σ φ α : Type} {f : Work σ φ α} {c : Context} {clock : Clock} {s : σ} {x : φ}
  {ts : List Nat} {t : Nat} {w : Instant}

/-! ## Looks -/

/-- One more look, unless the work is over. -/
def look (f : Work σ φ α) (clock : Clock) (turn : σ × (φ ⊕ α)) (t : Nat) : σ × (φ ⊕ α) :=
  match turn with
  | (s, .inl x) => f.poll (clock.advance t) s x
  | (s, .inr a) => (s, .inr a)

/-- **Looks at given instants**, one after another. -/
def looks (f : Work σ φ α) (clock : Clock) (ts : List Nat) (s : σ) (x : φ) : σ × (φ ⊕ α) :=
  ts.foldl (f.look clock) (s, .inl x)

/-- **Whether some work is done from an instant on**: looks in order find it over if one of them
comes at that instant or later, and not else. -/
def IsDoneAt (f : Work σ φ α) (clock : Clock) (s : σ) (x : φ) (w : Instant) : Prop :=
  ∀ ts : List Nat, (clock.now :: ts).Pairwise (· ≤ ·) →
    ((f.looks clock ts s x).2.isRight = true ↔ ∃ t ∈ ts, w ≤ t)

@[simp] theorem looks_nil : f.looks clock [] s x = (s, .inl x) := rfl

theorem looks_append_singleton :
    f.looks clock (ts ++ [t]) s x = f.look clock (f.looks clock ts s x) t := by
  simp [looks]

theorem looks_append_of_isRight (h : (f.looks clock ts s x).2.isRight = true) :
    f.looks clock (ts ++ [t]) s x = f.looks clock ts s x := by
  rw [looks_append_singleton]
  generalize f.looks clock ts s x = turn at h
  obtain ⟨s', x' | a⟩ := turn
  · cases h
  · rfl

/-- Work that is done later is still in progress. -/
theorem IsDoneAt.inl (h : f.IsDoneAt clock s x w) (hts : (clock.now :: ts).Pairwise (· ≤ ·))
    (hw : ∀ t ∈ ts, (t : Instant) < w) : ∃ s' x', f.looks clock ts s x = (s', .inl x') := by
  have hnot : ¬ (f.looks clock ts s x).2.isRight = true :=
    fun hright => (h ts hts).mp hright |>.elim fun t ht => (hw t ht.1).not_ge ht.2
  generalize f.looks clock ts s x = turn at hnot
  obtain ⟨s', x' | a⟩ := turn
  · exact ⟨s', x', rfl⟩
  · exact absurd rfl hnot

/-- Work that is done is over. -/
theorem IsDoneAt.inr (h : f.IsDoneAt clock s x w) (hts : (clock.now :: ts).Pairwise (· ≤ ·))
    (ht : t ∈ ts) (hw : w ≤ t) : ∃ s' a, f.looks clock ts s x = (s', .inr a) := by
  have hright := (h ts hts).mpr ⟨t, ht, hw⟩
  generalize f.looks clock ts s x = turn at hright
  obtain ⟨s', x' | a⟩ := turn
  · cases hright
  · exact ⟨s', a, rfl⟩

/-! ## Guarded work -/

/-- What a look at some work means under a context: what came of the work counts first, then the
context.  Work that the context ends is dropped. -/
def seen (f : Work σ φ α) (c : Context) (clock : Clock) :
    σ × (φ ⊕ α) → σ × (Stage φ ⊕ Except Interruption α)
  | (s, .inr a) => (s, .inr (.ok a))
  | (s, .inl x) =>
    match c.interruption clock with
    | none => (s, .inl (.begun x))
    | some why => (f.drop s x, .inr (.error why))

/-- **Work that is guarded by a context.** -/
def guarded (f : Work σ φ α) (c : Context) : Work σ (Stage φ) (Except Interruption α) where
  poll clock s
    | .fresh x =>
      match c.interruption clock with
      | none => f.seen c clock (f.poll clock s x)
      | some why => (f.drop s x, .inr (.error why))
    | .begun x => f.seen c clock (f.poll clock s x)
  drop s
    | .fresh x | .begun x => f.drop s x

/-- **Work that begins at an instant to come.** -/
def since (f : Work σ φ α) (begins : Nat) : Work σ φ α where
  poll clock s x := if begins ≤ clock.now then f.poll clock s x else (s, .inl x)
  drop := f.drop

/-- What comes of a look at guarded work is what `Context.guard` says. -/
theorem getRight?_seen (turn : σ × (φ ⊕ α)) :
    (f.seen c clock turn).2.getRight? = c.guard clock turn.2.getRight? := by
  obtain ⟨s, x | a⟩ := turn
  · unfold seen Context.guard
    cases c.interruption clock <;> rfl
  · rfl

theorem isRight_seen (turn : σ × (φ ⊕ α)) : (f.seen c clock turn).2.isRight = true ↔
    turn.2.isRight = true ∨ c.interruption clock ≠ none := by
  obtain ⟨s, x | a⟩ := turn
  · unfold seen
    cases c.interruption clock <;> simp
  · simp [seen]

theorem seen_of_open (h : c.interruption clock = none) (turn : σ × (φ ⊕ α)) :
    f.seen c clock turn = turn.map id (Sum.map .begun .ok) := by
  obtain ⟨s, x | a⟩ := turn
  · simp [seen, h]
  · rfl

/-- The next look at guarded work that is in progress. -/
theorem look_guarded (turn : σ × (φ ⊕ α)) :
    (f.guarded c).look clock (turn.map id (Sum.map .begun .ok)) t =
      f.seen c (clock.advance t) (f.look clock turn t) := by
  obtain ⟨s, x | a⟩ := turn <;> rfl

/-- The first look at guarded work is at the context alone. -/
theorem looks_guarded_singleton : (f.guarded c).looks clock [t] s (.fresh x) =
    match c.interruption (clock.advance t) with
    | none => f.seen c (clock.advance t) (f.looks clock [t] s x)
    | some why => (f.drop s x, .inr (.error why)) := rfl

/-- **A look at guarded work**, if the context was open in all the looks before, and is open in this
one if it is the first. -/
theorem looks_guarded_append (hopen : ∀ u ∈ ts, c.interruption (clock.advance u) = none)
    (hfirst : ts = [] → c.interruption (clock.advance t) = none) :
    (f.guarded c).looks clock (ts ++ [t]) s (.fresh x) =
      f.seen c (clock.advance t) (f.looks clock (ts ++ [t]) s x) := by
  induction ts using List.reverseRecOn generalizing t with
  | nil => rw [List.nil_append, looks_guarded_singleton, hfirst rfl]
  | append_singleton ts u ih =>
    have hu : c.interruption (clock.advance u) = none := hopen u (by simp)
    rw [looks_append_singleton, ih (fun v hv => hopen v (by simp [hv])) fun _ => hu,
      seen_of_open hu, look_guarded, ← looks_append_singleton]

/-- Looks at work that begins later are the looks from then on. -/
theorem looks_since {begins : Nat} (hnow : ∀ t ∈ ts, clock.now ≤ t) :
    (f.since begins).looks clock ts s x =
      f.looks clock (ts.filter (begins ≤ ·)) s x := by
  induction ts using List.reverseRecOn with
  | nil => rfl
  | append_singleton ts t ih =>
    have ht : (clock.advance t).now = t := max_eq_right (hnow t (by simp))
    rw [looks_append_singleton, ih fun t ht => hnow t (by simp [ht]), List.filter_append]
    by_cases hbegins : begins ≤ t
    · rw [List.filter_cons_of_pos (by simpa using hbegins), List.filter_nil, looks_append_singleton]
      generalize f.looks clock _ s x = turn
      obtain ⟨s', x' | a⟩ := turn
      · simp [look, since, ht, hbegins]
      · rfl
    · rw [List.filter_cons_of_neg (by simpa using hbegins), List.filter_nil, List.append_nil]
      generalize f.looks clock _ s x = turn
      obtain ⟨s', x' | a⟩ := turn
      · simp [look, since, ht, hbegins]
      · rfl

/-! ## The law of guarded waits -/

/-- Guarded work is over once the work is done, the context is cancelled or its deadline has come. -/
theorem isRight_looks_guarded (h : f.IsDoneAt clock s x w)
    (hts : (clock.now :: ts).Pairwise (· ≤ ·)) :
    ((f.guarded c).looks clock ts s (.fresh x)).2.isRight = true ↔
      ∃ t ∈ ts, min w (min (c.cancellation clock) c.expiry) ≤ t := by
  induction ts using List.reverseRecOn with
  | nil => simp
  | append_singleton ts t ih =>
    have hbefore : (clock.now :: ts).Pairwise (· ≤ ·) :=
      hts.sublist (List.cons_sublist_cons.mpr (List.sublist_append_left ts [t]))
    have hnow : ∀ u ∈ ts ++ [t], clock.now ≤ u := fun _ => List.rel_of_pairwise_cons hts
    have ih := ih hbefore
    by_cases hover : ∃ u ∈ ts, min w (min (c.cancellation clock) c.expiry) ≤ u
    · have hright := ih.mpr hover
      rw [looks_append_of_isRight hright]
      obtain ⟨u, hu, hle⟩ := hover
      exact iff_of_true hright ⟨u, List.mem_append_left _ hu, hle⟩
    · -- Nothing has come up to now, so this look is the first at which something can.
      have hlater : ∀ u ∈ ts, (u : Instant) < min w (min (c.cancellation clock) c.expiry) :=
        fun u hu => lt_of_not_ge fun hle => hover ⟨u, hu, hle⟩
      have hopen : ∀ u ∈ ts, c.interruption (clock.advance u) = none := fun u hu =>
        (Context.interruption_advance_eq_none_iff (hnow u (List.mem_append_left _ hu))).mpr
          (hlater u hu |>.trans_le (min_le_right _ _))
      have hlast : (f.looks clock (ts ++ [t]) s x).2.isRight = true ↔ w ≤ t := by
        rw [h _ hts]
        constructor
        · rintro ⟨u, hu, hle⟩
          rcases List.mem_append.mp hu with hu | hu
          · exact absurd hle ((hlater u hu).trans_le (min_le_left _ _)).not_ge
          · exact List.mem_singleton.mp hu ▸ hle
        · exact fun hle => ⟨t, by simp, hle⟩
      have ht : c.interruption (clock.advance t) ≠ none ↔
          min (c.cancellation clock) c.expiry ≤ t := by
        rw [Ne, Context.interruption_advance_eq_none_iff (hnow t (by simp)), not_lt]
      have hmin : (∃ u ∈ ts ++ [t], min w (min (c.cancellation clock) c.expiry) ≤ u) ↔
          w ≤ t ∨ min (c.cancellation clock) c.expiry ≤ t := by
        constructor
        · rintro ⟨u, hu, hle⟩
          rcases List.mem_append.mp hu with hu | hu
          · exact absurd ⟨u, hu, hle⟩ hover
          · exact min_le_iff.mp (List.mem_singleton.mp hu ▸ hle)
        · exact fun hle => ⟨t, by simp, min_le_iff.mpr hle⟩
      rw [hmin, ← ht, ← hlast]
      by_cases hfirst : ts = [] → c.interruption (clock.advance t) = none
      · rw [looks_guarded_append hopen hfirst, isRight_seen]
      · obtain ⟨rfl, hrefused⟩ := Classical.not_imp.mp hfirst
        refine iff_of_true ?_ (.inr hrefused)
        obtain ⟨why, hwhy⟩ := Option.ne_none_iff_exists'.mp hrefused
        rw [List.nil_append, looks_guarded_singleton, hwhy]
        rfl

/-- **Guarded work that begins at some instant is done at an instant**, and so can be guarded. -/
theorem isDoneAt_since_guarded (h : f.IsDoneAt clock s x w) (c : Context) (begins : Nat) :
    ((f.guarded c).since begins).IsDoneAt clock s (.fresh x)
      (Instant.finish begins w (c.cancellation clock) c.expiry) := by
  intro ts hts
  have hnow : ∀ t ∈ ts, clock.now ≤ t := fun _ => List.rel_of_pairwise_cons hts
  have hlate : (clock.now :: ts.filter (begins ≤ ·)).Pairwise (· ≤ ·) :=
    hts.sublist (List.cons_sublist_cons.mpr List.filter_sublist)
  rw [looks_since hnow, isRight_looks_guarded h hlate]
  simp only [List.mem_filter, decide_eq_true_eq, Instant.finish, max_le_iff, Nat.cast_le,
    and_assoc]

/-- **How looks at guarded work end** that begin at some instant, given where looks at the work
alone have got (`own`), and where those at the guarded work have (`got`).

A context that is not open at the start ends the wait without a look at the work.  Else the work
counts, and if the context ends the wait, the work is dropped as it is. -/
def Ends (f : Work σ φ α) (start : Nat) (w cancel expiry : Instant) (s : σ) (x : φ)
    (own : σ × (φ ⊕ α)) (got : σ × (Stage φ ⊕ Except Interruption α)) : Prop :=
  match Instant.verdict start w cancel expiry with
  | .ok () => ∃ s' a, own = (s', .inr a) ∧ got = (s', .inr (.ok a))
  | .error why =>
    if cancel ≤ start ∨ expiry ≤ start then got = (f.drop s x, .inr (.error why))
    else ∃ s' x', own = (s', .inl x') ∧ got = (f.drop s' x', .inr (.error why))

/-- **The law of guarded waits**: prompt looks at guarded work end as its verdict says. -/
theorem IsDoneAt.ends_of_prompt {start stop : Nat} {before : List Nat} (h : f.IsDoneAt clock s x w)
    (hp : Instant.Prompt start stop before) (hnow : clock.now ≤ start)
    (hstop : (stop : Instant) = Instant.finish start w (c.cancellation clock) c.expiry) :
    f.Ends start w (c.cancellation clock) c.expiry s x
      (f.looks clock (before ++ [stop]) s x)
      ((f.guarded c).looks clock (before ++ [stop]) s (.fresh x)) := by
  have hend : ∀ t ∈ before ++ [stop], clock.now ≤ t := fun t ht => hnow.trans (hp.le t ht)
  have hwhy : c.interruption (clock.advance stop) = _ :=
    Context.interruption_advance (hend stop (by simp))
  have hordered := hp.pairwise hnow
  unfold Ends Instant.verdict
  by_cases hclosed : c.cancellation clock ≤ start ∨ c.expiry ≤ start
  · -- The first look is the last.
    obtain rfl : stop = start :=
      Nat.cast_inj.mp (hstop.trans (Instant.finish_of_closed hclosed))
    obtain rfl := hp.eq_nil le_rfl
    rw [List.nil_append, looks_guarded_singleton, hwhy]
    by_cases hcancel : c.cancellation clock ≤ stop
    · simp [hcancel]
    · have hexpiry := hclosed.resolve_left hcancel
      simp [hcancel, hexpiry]
  · obtain ⟨hcancel, hexpiry⟩ := not_or.mp hclosed
    -- Every look before the last comes too early for the deadline and for the cancellation.
    have hopen : ∀ t ∈ before, c.interruption (clock.advance t) = none := by
      intro t ht
      have hlt : (t : Instant) < stop := Nat.cast_lt.mpr (hp.stops t ht)
      have hle : (start : Instant) ≤ t :=
        Nat.cast_le.mpr (hp.le t (List.mem_append_left _ ht))
      rw [hstop, Instant.finish, lt_max_iff, or_iff_right hle.not_gt] at hlt
      exact (Context.interruption_advance_eq_none_iff (hend t (by simp [ht]))).mpr
        (hlt.trans_le (min_le_right _ _))
    have hfirst : before = [] → c.interruption (clock.advance stop) = none := by
      rintro rfl
      obtain rfl : stop = start := Option.some.inj hp.begins
      simp [hwhy, hcancel, hexpiry]
    simp only [if_neg hcancel, if_neg hexpiry, if_neg hclosed, looks_guarded_append hopen hfirst]
    -- The last look finds the work done, or else the request over.
    by_cases hwork : w ≤ c.cancellation clock ∧ w ≤ c.expiry
    · obtain ⟨s', a, hown⟩ := h.inr hordered (t := stop) (by simp)
        (hstop ▸ Instant.le_finish hwork)
      simp only [if_pos hwork]
      exact ⟨s', a, hown, by rw [hown, seen]⟩
    · obtain ⟨hmin, hlt⟩ := Instant.finish_of_interrupted hcancel hexpiry hwork
      rw [← hmin, ← hstop] at hlt
      obtain ⟨s', x', hown⟩ := h.inl hordered fun t ht =>
        (Nat.cast_le.mpr (hp.le_stop t ht)).trans_lt hlt
      simp only [if_neg hwork, hown, seen, hwhy, hstop, hmin]
      by_cases hbefore : c.cancellation clock ≤ c.expiry
      · simp [hbefore]
      · simp [hbefore, (lt_of_not_ge hbefore).le]

/-! ## Guards in guards -/

/-- **The law of nested guards**: of two guards on one context the inner one decides, once it has
begun; a context that ends before that ends the outer one, and nobody looks at the work.

The inner guard begins at an instant `begins`, and is looked at then. -/
theorem nested_ends {start begins stop : Nat} {before : List Nat} (h : f.IsDoneAt clock s x w)
    (hp : Instant.Prompt start stop before) (hnow : clock.now ≤ start) (hbegins : start ≤ begins)
    (hstop : (stop : Instant) = Instant.finish start
      (Instant.finish begins w (c.cancellation clock) c.expiry) (c.cancellation clock) c.expiry)
    (hmem : begins ≤ stop → begins ∈ before ++ [stop]) :
    let late := (before ++ [stop]).filter (begins ≤ ·)
    let inner := (f.guarded c).looks clock late s (.fresh x)
    let outer := (((f.guarded c).since begins).guarded c).looks clock (before ++ [stop]) s
      (.fresh (.fresh x))
    if c.cancellation clock ≤ start then outer = (f.drop s x, .inr (.error .canceled))
    else if c.expiry ≤ start then outer = (f.drop s x, .inr (.error .deadlineExceeded))
    else if begins ≤ c.cancellation clock ∧ begins ≤ c.expiry then
      (∃ s' r, inner = (s', .inr r) ∧ outer = (s', .inr (.ok r))) ∧
        f.Ends begins w (c.cancellation clock) c.expiry s x (f.looks clock late s x) inner
    else outer = (f.drop s x, .inr (.error
      (if c.cancellation clock ≤ c.expiry then .canceled else .deadlineExceeded))) := by
  intro late inner outer
  have hinner : ((f.guarded c).since begins).looks clock (before ++ [stop]) s (.fresh x) = inner :=
    looks_since fun t ht => hnow.trans (hp.le t ht)
  have hlaw := (isDoneAt_since_guarded h c begins).ends_of_prompt hp hnow hstop
  rw [hinner, Ends, Instant.verdict] at hlaw
  simp only [Instant.finish_le_cancel, Instant.finish_le_expiry] at hlaw
  split
  · rename_i hcancel
    simp only [hcancel, true_or, if_true] at hlaw
    exact hlaw
  split
  · rename_i hcancel hexpiry
    simp only [hcancel, hexpiry, or_true, if_true, if_false] at hlaw
    exact hlaw
  rename_i hcancel hexpiry
  simp only [hcancel, hexpiry, or_self, if_false] at hlaw
  split
  · -- The inner guard begins, and is over when the outer one is.
    rename_i hopen
    simp only [hopen] at hlaw
    have hfinish : (stop : Instant) =
        Instant.finish begins w (c.cancellation clock) c.expiry :=
      hstop.trans (Instant.finish_of_le
        ((Nat.cast_le.mpr hbegins).trans (le_max_left _ _))
        ⟨Instant.finish_le_cancel.mpr hopen.1, Instant.finish_le_expiry.mpr hopen.2⟩)
    have hle : begins ≤ stop := Instant.start_le_of_finish hfinish
    obtain ⟨hlate, hprompt⟩ := hp.since hle (hmem hle)
    refine ⟨hlaw, ?_⟩
    simp only [inner, late, hlate]
    exact h.ends_of_prompt hprompt (hnow.trans hbegins) hfinish
  · -- The outer guard is over before the inner one begins.
    rename_i hclosed
    have hlt : stop < begins := by
      have hlate : ¬ (Instant.finish begins w (c.cancellation clock) c.expiry ≤
          c.cancellation clock ∧
            Instant.finish begins w (c.cancellation clock) c.expiry ≤ c.expiry) := by
        rwa [Instant.finish_le_cancel, Instant.finish_le_expiry]
      obtain ⟨hmin, -⟩ := Instant.finish_of_interrupted hcancel hexpiry hlate
      have hstop' : (stop : Instant) < begins := by
        rw [hstop, hmin]
        exact lt_of_not_ge fun hle => hclosed (le_min_iff.mp hle)
      exact Nat.cast_lt.mp hstop'
    have hlate : late = [] := List.filter_eq_nil_iff.mpr fun t ht => by
      have hle := hp.le_stop t ht
      simp only [decide_eq_true_eq]
      omega
    have hnothing : inner = (s, .inl (.fresh x)) := by
      simp only [inner, hlate, looks_nil]
    rw [if_neg hclosed, hnothing] at hlaw
    by_cases hfirst : c.cancellation clock ≤ c.expiry
    · simp only [hfirst, if_true] at hlaw ⊢
      obtain ⟨s', x', ⟨⟩, hout⟩ := hlaw
      exact hout
    · simp only [hfirst, if_false] at hlaw ⊢
      obtain ⟨s', x', ⟨⟩, hout⟩ := hlaw
      exact hout

end Work
end FunctionHost

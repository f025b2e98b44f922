import FunctionHost.Proofs.Guest.Poison
import FunctionHost.Proofs.Guest.Request
import FunctionHost.Proofs.Pool.Arrivals
import FunctionHost.Proofs.Pool.Faults

/-!
# Poisoned instances in a pool

An instance is **spoilt** when an answer to a host call of its guest cannot be placed, whatever the
guest runs: an entrypoint, its reset, its initialization or its start function.  The host notes that
down and looks at the note when a call ends; then a spoilt instance is faulted and destroyed.

A reset and a birth that end well do not look, and a call that is given up has no occasion to: what
is spoilt then is **overlooked**.  `Pool.overlooked` reads off a run which instances are, without a
look at what the host notes down, and `Marks.run` shows that exactly those are poisoned, faults
apart.  So what is handed out is clean throughout a run if and only if nothing overlooked arrives
(`clean_run_iff`).
-/
namespace FunctionHost

variable {σ : Type}

/-! ## What is spoilt -/

namespace RestorationStage

/-- The guest of an instance that came back, or of the one being made in its place. -/
def guest : RestorationStage → Guest
  | .pending i | .resetting i _ => i.guest
  | .replacing x => x.guest

/-- Whether it is spoilt when it runs for some rounds. -/
def spoils (rounds : Nat) (w : World σ) : RestorationStage → Bool
  | .pending _ => false
  | .resetting i x => Activity.spoils i.body rounds w i.guest x.activity
  | .replacing x => Activity.spoils x.body rounds w x.guest x.activity

end RestorationStage

namespace Holding

/-- The guest of an instance. -/
def guest : Holding → Guest
  | .idle i => i.guest
  | .leased l => l.held.guest
  | .returning r => r.stage.guest

/-- Whether an instance is spoilt when it runs for some rounds. -/
def spoils (rounds : Nat) (w : World σ) : Holding → Bool
  | .idle _ => false
  | .leased l => l.call.any fun c =>
      Activity.spoils l.held.body rounds w l.held.guest c.activity
  | .returning r => r.stage.spoils rounds w

end Holding

theorem Tidies.poisoned {rounds : Nat} {w : World σ} {stage : RestorationStage} {j : Instance}
    {s : Standing Reset Reset.Result} (h : Tidies rounds w stage j s) :
    j.guest.isPoisoned = (stage.guest.isPoisoned || stage.spoils rounds w) := by
  cases h with
  | @begun i _ _ _ hi h =>
    have hbegin := Reset.begin_poisoned w i
    rw [h] at hbegin
    exact hbegin.trans (Bool.or_false _).symm
  | @further i _ x _ _ h =>
    have hproceed := Reset.proceed_poisoned rounds w i x
    rw [h] at hproceed
    exact hproceed

/-- A birth begins unpoisoned. -/
theorem Bears.poisoned {rounds : Nat} {w : World σ} {p : Pool} {stage : RestorationStage}
    {s : Standing Birth Birth.Result} (h : Bears rounds w p stage s) :
    Birth.Poisoned (!stage.holds && (stage.guest.isPoisoned || stage.spoils rounds w)) s := by
  cases h with
  | begun hs v =>
    rw [hs]
    exact Birth.poisoned_begin ..
  | further x => exact Birth.poisoned_proceed ..

namespace PoolAct

/-- The number of the instance that is spoilt by an act, if one is. -/
def spoilt (w : World σ) (p : Pool) (a : PoolAct) : List Nat :=
  match a.runs? p with
  | some x => if x.spoils a.rounds w then [x.id] else []
  | none => []

/-- The number of the instance that the host looks at in an act, if at any: one whose call ends. -/
def noticed (w : World σ) (p : Pool) : PoolAct → List Nat
  | .proceedCall rounds lease =>
    ((p.lease? lease).toList.filter fun l =>
      l.call.any fun c => (Call.proceed rounds w l.held c).2.2.work?.isNone).map (·.held.id)
  | _ => []

/-- The instances that are overlooked after an act, if so many were before. -/
def overlooked (w : World σ) (p : Pool) (a : PoolAct) (ids : List Nat) : List Nat :=
  (ids ++ a.spoilt w p).filter (· ∉ a.noticed w p)

end PoolAct

namespace Pool

/-- **The numbers of the instances that are overlooked in a run**: they were spoilt, and no call of
theirs has ended since. -/
def overlooked (p : Pool) (ids : List Nat) : List (Moment σ) → List Nat
  | [] => ids
  | m :: ms => (m.act.perform m.world p).overlooked (m.act.overlooked m.world p ids) ms

variable {w : World σ} {p q : Pool} {a : PoolAct} {ids : List Nat}

/-- **The host has noted down which instances are overlooked**: those without a fault that are
poisoned. -/
structure Marks (ids : List Nat) (p : Pool) : Prop where
  poisoned : ∀ x ∈ p.holdings, x.isFaulted = false → (x.guest.isPoisoned = true ↔ x.id ∈ ids)
  made : ∀ n ∈ ids, n ≤ p.made

theorem spoilt_eq_nil (h : a.runs? p = none) : a.spoilt w p = [] := by
  rw [PoolAct.spoilt, h]

theorem mem_spoilt_iff {x : Holding} (hr : a.runs? p = some x) {n : Nat} :
    n ∈ a.spoilt w p ↔ x.spoils a.rounds w = true ∧ n = x.id := by
  rw [PoolAct.spoilt, hr]
  dsimp only
  split <;> simp_all

theorem mem_overlooked_iff {n : Nat} : n ∈ a.overlooked w p ids ↔
    (n ∈ ids ∨ n ∈ a.spoilt w p) ∧ n ∉ a.noticed w p := by
  rw [PoolAct.overlooked, List.mem_filter, List.mem_append, decide_eq_true_iff]

theorem mem_noticed {n : Nat} (h : n ∈ a.noticed w p) : ∃ rounds l c,
    a = .proceedCall rounds l.number ∧ p.lease? l.number = some l ∧ l.call = some c ∧
      (Call.proceed rounds w l.held c).2.2.work? = none ∧ n = l.held.id := by
  cases a with
  | proceedCall rounds lease =>
    obtain ⟨l, hmem, rfl⟩ := List.mem_map.mp h
    obtain ⟨hl, hcall⟩ := List.mem_filter.mp hmem
    have hl : p.lease? lease = some l := Option.mem_toList.mp hl
    obtain ⟨c, hc, hends⟩ := (Option.any_eq_true ..).mp hcall
    obtain rfl := lease?_number hl
    exact ⟨rounds, l, c, rfl, hl, hc, Option.isNone_iff_eq_none.mp hends, rfl⟩
  | _ => cases h

/-- What the host looks at has run. -/
theorem runs_of_mem_noticed {n : Nat} (h : n ∈ a.noticed w p) :
    ∃ x, a.runs? p = some x ∧ n = x.id := by
  obtain ⟨rounds, l, c, rfl, hl, hc, -, rfl⟩ := mem_noticed h
  exact ⟨_, runs?_proceedCall hl hc, rfl⟩

/-- **What the host looks at and does not fault** is not poisoned. -/
theorem Becomes.noticed {x y : Holding} {n : Nat} (h : Becomes w p a x y n)
    (hx : x.id ∈ a.noticed w p) (hy : y.isFaulted = false) : ¬ y.guest.isPoisoned = true := by
  obtain ⟨rounds, l, c, ha, hl, hc, hends, -⟩ := mem_noticed hx
  have hruns : a.runs? p = some (.leased l) := ha ▸ runs?_proceedCall hl hc
  obtain rfl := h.runs hruns
  cases h with
  | called _ h =>
    cases h with
    | begun h => cases ha
    | further hc' h =>
      cases ha
      obtain rfl := Option.some.inj (hc.symm.trans hc')
      rw [h] at hends
      intro hp
      have hfaulted := Call.proceed_notices (congrArg (·.2.2.work?) h |>.trans hends)
        ((congrArg (·.2.1.guest.isPoisoned) h).trans hp)
      rw [h] at hfaulted
      exact absurd hfaulted (Bool.eq_false_iff.mp hy)
    | dropped => cases ha
  | returned => cases ha
  | abandoned => cases ha

/-- **What an act makes of an instance is poisoned** if it was or is spoilt by the act; one that is
begun is not. -/
theorem Becomes.poisoned {x y : Holding} {n : Nat} (h : Becomes w p a x y n) :
    n = 0 ∧ (y.guest.isPoisoned = true ↔ x.guest.isPoisoned = true ∨ x.id ∈ a.spoilt w p) ∨
      n = 1 ∧ y.guest.isPoisoned = false := by
  -- An act that runs no guest code leaves the guest as it is.
  have silent (hr : a.runs? p = none) (hg : y.guest.isPoisoned = x.guest.isPoisoned) (hn : n = 0) :
      n = 0 ∧ (y.guest.isPoisoned = true ↔ x.guest.isPoisoned = true ∨ x.id ∈ a.spoilt w p) ∨
        n = 1 ∧ y.guest.isPoisoned = false := by
    rw [spoilt_eq_nil hr, hg]
    exact .inl ⟨hn, by simp⟩
  have running (hr : a.runs? p = some x)
      (hg : y.guest.isPoisoned = (x.guest.isPoisoned || x.spoils a.rounds w)) (hn : n = 0) :
      n = 0 ∧ (y.guest.isPoisoned = true ↔ x.guest.isPoisoned = true ∨ x.id ∈ a.spoilt w p) ∨
        n = 1 ∧ y.guest.isPoisoned = false := by
    refine .inl ⟨hn, ?_⟩
    rw [hg, Bool.or_eq_true, mem_spoilt_iff hr]
    simp
  cases h with
  | lent ha => exact silent ha.runs (congrArg _ (Instance.guest_setState _ _)) rfl
  | @called _ l l' hl h =>
    cases h with
    | @begun c e payload _ _ _ h =>
      refine silent rfl ?_ rfl
      have := Call.begin_poisoned w l.held c e payload
      rw [h] at this
      exact this
    | @further rounds c _ _ _ hc h =>
      refine running (runs?_proceedCall hl hc) ?_ rfl
      have := Call.proceed_poisoned rounds w l.held c
      rw [h] at this
      simp only [Holding.spoils, hc]
      exact this
    | dropped => exact silent rfl rfl rfl
  | returned => exact silent rfl rfl rfl
  | abandoned => exact silent rfl (congrArg _ (Instance.guest_setState _ _)) rfl
  | tidying hr h hx => exact running (runs?_proceedRestoration hr) h.poisoned rfl
  | @replacing rounds r s x hr h hx =>
    have hg := h.poisoned.work? hx
    rcases Bool.eq_false_or_eq_true r.stage.holds with hs | hs <;> rw [hs] at hg
    · exact .inr ⟨by rw [hs]; rfl, hg⟩
    · exact running (runs?_proceedRestoration hr) hg (by rw [hs]; rfl)
  | kept hr h ho =>
    refine running (runs?_proceedRestoration hr) ?_ rfl
    exact (congrArg _ (Instance.guest_setState _ _)).trans h.poisoned
  | @replaced rounds r i hr h ho =>
    have hg : i.guest.isPoisoned = _ := h.poisoned
    rcases Bool.eq_false_or_eq_true r.stage.holds with hs | hs <;> rw [hs] at hg
    · exact .inr ⟨by rw [hs]; rfl, hg⟩
    · exact running (runs?_proceedRestoration hr) hg (by rw [hs]; rfl)

/-- **The host notes down which instances are overlooked**, and no others. -/
theorem Marks.moves (hk : Kindred p) (h : Marks ids p) (hm : Moves w p a q) :
    Marks (a.overlooked w p ids) q := by
  -- An instance on which the act does not run any code is as it was.
  have other {y : Holding} (hy : y ∈ p.holdings) (hne : ∀ x, a.runs? p = some x → y.id ≠ x.id)
      (hf : y.isFaulted = false) : y.guest.isPoisoned = true ↔ y.id ∈ a.overlooked w p ids := by
    rw [h.poisoned y hy hf, mem_overlooked_iff]
    refine ⟨fun hid => ⟨.inl hid, fun hn => ?_⟩, fun hid => hid.1.resolve_right fun hid => ?_⟩
    · obtain ⟨x, hr, hxid⟩ := runs_of_mem_noticed hn
      exact hne x hr hxid
    · cases hr : a.runs? p with
      | none => rw [spoilt_eq_nil hr] at hid; cases hid
      | some x => exact hne x hr ((mem_spoilt_iff hr).mp hid).2
  have overlookedMade (hrun : ∀ x, a.runs? p = some x → x ∈ p.holdings) (n : Nat)
      (hn : n ∈ a.overlooked w p ids) : n ≤ p.made := by
    rcases (mem_overlooked_iff.mp hn).1 with hn | hn
    · exact h.made n hn
    · cases hr : a.runs? p with
      | none => rw [spoilt_eq_nil hr] at hn; cases hn
      | some x => exact ((mem_spoilt_iff hr).mp hn).2 ▸ hk.id_le (hrun x hr)
  cases hm.shifts hk.numbered with
  | left gone hp hmade hr =>
    refine ⟨fun y hy => ?_, fun n hn => Nat.le_trans (overlookedMade (fun x hx => ?_) n hn) hmade⟩
    · exact other (hp.mem_iff.mpr (List.mem_append_right gone hy))
        fun x hx => hk.id_ne hp (hr x hx) hy
    · exact hp.mem_iff.mpr (List.mem_append_left _ (hr x hx))
  | @changed x y n rest hp hq hb hmade =>
    have hx : x ∈ p.holdings := hp.mem_iff.mpr List.mem_cons_self
    have hmost := overlookedMade fun z hz => hb.runs hz ▸ hx
    have hsplit : p.holdings.Perm ([x] ++ rest) := hp
    refine ⟨fun z hz hf => ?_, fun m hm => ?_⟩
    · rcases List.mem_cons.mp (hq.mem_iff.mp hz) with rfl | hz
      · rcases hb.poisoned with ⟨hn, hg⟩ | ⟨hn, hg⟩
        · have hid : z.id = x.id := by
            rcases (hb.of (hk.bodies x hx)).2 with ⟨-, hid⟩ | ⟨hn', -⟩
            · exact hid
            · omega
          have hxf : x.isFaulted = false :=
            Bool.eq_false_iff.mpr fun hxf => Bool.eq_false_iff.mp hf (hb.isFaulted hn hxf)
          rw [h.poisoned x hx hxf] at hg
          rw [hid, mem_overlooked_iff, ← hg]
          exact ⟨fun hz => ⟨hz, fun hnoticed => hb.noticed hnoticed hf hz⟩, And.left⟩
        · have hid : z.id = p.made + 1 := by
            rcases (hb.of (hk.bodies x hx)).2 with ⟨hn', -⟩ | ⟨-, hid⟩
            · omega
            · exact hid
          rw [hg, hid]
          refine ⟨(nomatch ·), fun hm => ?_⟩
          exact absurd (hmost _ hm) (Nat.not_succ_le_self p.made)
      · exact other (hp.mem_iff.mpr (List.mem_cons_of_mem x hz))
          (fun u hu => hb.runs hu ▸ hk.id_ne hsplit List.mem_cons_self hz) hf
    · exact Nat.le_trans (hmost m hm) (hmade ▸ Nat.le_add_right _ _)

theorem Marks.run (hk : Kindred p) (h : Marks ids p) (ms : List (Moment σ)) :
    Marks (p.overlooked ids ms) (p.run ms) := by
  induction ms generalizing p ids with
  | nil => exact h
  | cons m ms ih =>
    have hm := perform_moves m.world p m.act
    exact ih (hk.moves hm) (h.moves hk hm)

end Pool

/-! ## Filling -/

namespace Filling

/-- Whether an instance is spoilt in some turn of the filling of a pool. -/
def spoils (s : Standing Filling Result) : List (Nat × World σ) → Bool
  | [] => false
  | m :: ms =>
    (s.work?.any fun f => Activity.spoils f.birth.body m.1 m.2 f.birth.guest f.birth.activity) ||
      spoils (turn s m) ms

/-- Whether some instance that is there or being made is poisoned. -/
def Poisoned (is : Bool) (made : List Instance) (s : Standing Birth Birth.Result) : Prop :=
  ∃ c, Birth.Poisoned c s ∧ (made.any (·.guest.isPoisoned) || c) = is

theorem poisoned_goesOn (b : Blueprint) (is : Bool) : GoesOn σ b (Poisoned is) := by
  rintro made i w ⟨c, rfl, hc⟩
  refine ⟨false, Birth.poisoned_begin .., ?_⟩
  rw [List.any_cons, Bool.or_false, Bool.or_comm, hc]

variable {b : Blueprint} {size : Nat} {timeout : Option Nat}

theorem poisoned_of_foldl {is : Bool} {p : Pool} (ms : List (Nat × World σ))
    {s : Standing Filling Result} (h : Obeys b size timeout (Poisoned is) s)
    (hp : ms.foldl turn s = .ended (.ok p)) :
    p.idle.any (·.guest.isPoisoned) = (is || spoils s ms) := by
  induction ms generalizing s is with
  | nil =>
    rw [List.foldl_nil] at hp
    subst hp
    obtain ⟨f, made, i, ⟨c, hi, hc⟩, -, -, -, -, rfl⟩ := h
    subst hi
    rw [spoils, Bool.or_false, ← hc, pool, List.any_cons, Bool.or_comm]
  | cons m ms ih =>
    rw [spoils, ← Bool.or_assoc]
    refine ih ?_ hp
    unfold turn
    split
    · rename_i f hf
      rw [hf]
      refine obeys_proceed (poisoned_goesOn b _) m.1 m.2 h hf fun made s hmade hx => ?_
      obtain ⟨c, hs, hc⟩ := hmade
      refine ⟨_, Birth.poisoned_proceed m.1 m.2 f.birth, ?_⟩
      rw [hs.work? hx, ← Bool.or_assoc, hc]
      rfl
    · rename_i hf
      rw [hf]
      simpa using h

/-- **A pool is filled with a poisoned instance** if and only if one was spoilt. -/
theorem poisoned_of_turns {w : World σ} {ms : List (Nat × World σ)} {p : Pool}
    (hp : turns b size timeout w ms = .ended (.ok p)) :
    p.idle.any (·.guest.isPoisoned) = spoils (begin w b size timeout).2 ms :=
  have hbegin : Obeys b size timeout (Poisoned false) (begin w b size timeout).2 :=
    obeys_begin (poisoned_goesOn b false) w ⟨false, Birth.poisoned_begin .., rfl⟩
  (poisoned_of_foldl ms hbegin hp).trans (Bool.false_or _)

end Filling

/-! ## What is handed out -/

/-- Whether nothing is wrong with the memory of an instance. -/
def Instance.Clean (i : Instance) : Prop := i.guest.poisoned = none

theorem Instance.clean_iff (i : Instance) : i.Clean ↔ ¬ i.guest.isPoisoned = true := by
  rw [Clean, Guest.isPoisoned]
  cases i.guest.poisoned <;> simp

namespace Pool

variable {b : Blueprint} {size : Nat} {timeout : Option Nat} {p : Pool}

/-- **When no poisoned instance is handed out.**  In a run of a filled pool all idle instances are
clean, and all leased ones until their next call begins, if and only if nothing was spoilt when the
pool was filled and nothing overlooked becomes idle: no instance that was spoilt in its reset, in
its making or in a call that was given up.  One that was spoilt in a call that ended does not. -/
theorem clean_run_iff {w : World σ} {ts : List (Nat × World σ)}
    (hp : Filling.turns b size timeout w ts = .ended (.ok p)) (ms : List (Moment σ)) :
    (∀ ms₁ ms₂, ms = ms₁ ++ ms₂ → (p.run ms₁).Upholds Instance.Clean (p.called ms₁)) ↔
      Filling.spoils (Filling.begin w b size timeout).2 ts = false ∧
        ∀ ms₁ m ms₂ i, ms = ms₁ ++ m :: ms₂ →
          m.act.arrival? m.world (p.run ms₁) = some i → i.id ∉ p.overlooked [] (ms₁ ++ [m]) := by
  have hfilled : Filled σ b size timeout p := ⟨w, ts, hp⟩
  have hk := kindred_of_filled hfilled
  have hset (i : Instance) (st : InstanceState) (hi : i.Clean) : (i.setState st).Clean :=
    (congrArg Guest.poisoned (Instance.guest_setState i st)).trans hi
  have hrun := upholds_run_iff [] hset hk.numbered ms
  have hfirst : Upholds Instance.Clean [] p ↔
      Filling.spoils (Filling.begin w b size timeout).2 ts = false := by
    rw [← Filling.poisoned_of_turns hp, List.any_eq_false]
    refine ⟨fun h i hi => i.clean_iff.mp (h.idle i hi), fun h => upholds_iff.mpr fun x hx => ?_⟩
    obtain ⟨i, hi, rfl⟩ := eq_idle_of_filled hfilled hx
    exact i.clean_iff.mpr (h i hi)
  -- Nothing is noted down of what arrives unless it was overlooked, for it has no fault.
  have hmarks (h : Upholds Instance.Clean [] p) (ms₁ : List (Moment σ)) (m : Moment σ)
      {i : Instance} (hi : m.act.arrival? m.world (p.run ms₁) = some i) :
      i.Clean ↔ i.id ∉ p.overlooked [] (ms₁ ++ [m]) := by
    have hm : Marks [] p := by
      refine ⟨fun x hx _ => ?_, fun _ hn => nomatch hn⟩
      obtain ⟨j, hj, rfl⟩ := eq_idle_of_filled hfilled hx
      exact ⟨fun hp => absurd hp (j.clean_iff.mp (h.idle j hj)), fun hn => nomatch hn⟩
    have hidle : i ∈ (p.run (ms₁ ++ [m])).idle := by
      rw [run_append]
      exact ((perform_moves m.world (p.run ms₁) m.act).arrives hi).1
    have hmem := mem_holdings_idle.mpr hidle
    rw [i.clean_iff]
    exact not_congr ((hm.run hk (ms₁ ++ [m])).poisoned _ hmem (fit_run hfilled (ms₁ ++ [m]) _ hmem))
  rw [← hfirst]
  constructor
  · intro h
    obtain ⟨hp, harrivals⟩ := hrun.mp h
    exact ⟨hp, fun ms₁ m ms₂ i hms hi => (hmarks hp ms₁ m hi).mp (harrivals ms₁ m ms₂ i hms hi)⟩
  · rintro ⟨hp, harrivals⟩
    exact hrun.mpr
      ⟨hp, fun ms₁ m ms₂ i hms hi => (hmarks hp ms₁ m hi).mpr (harrivals ms₁ m ms₂ i hms hi)⟩

end Pool

/-! ## A spoilt instance that is noticed -/

/-- A world in which every host call is answered with one byte. -/
def World.answering : World Unit :=
  { callback := fun _ _ _ => { state := (), reply := .ok (.mk #[0]) }, state := () }

/-- A blueprint whose guests make a host call when they are called and find no room for the answer. -/
def Blueprint.narrow : Blueprint :=
  { name := "narrow"
    program :=
      { Body.relay.program with
        code := Body.relay.program.code.set! 0
          ⟨Body.allocatorType, #[], #[.plain (.const .i32 0), .ret]⟩ }
    contentHash := ""
    linker := { hostCall := some "allocate" }
    execution := {} }

namespace Pool

/-- **A spoilt instance is replaced**: it is leased and called, the answer to the host call of its
entrypoint cannot be placed, and the next one to be leased is another one, and clean. -/
theorem narrow_run_clean :
    let p := filled .answering .narrow []
    let call : List (Moment Unit) := [⟨.answering, .tryCheckout⟩,
      ⟨.answering, .beginCall 0 default "run" ByteArray.empty⟩, ⟨.answering, .proceedCall 99 0⟩]
    let ms := call ++ [⟨.answering, .release 0⟩, ⟨.answering, .proceedRestoration 0 1⟩,
      ⟨.answering, .tryCheckout⟩]
    Filling.turns .narrow 1 none World.answering [] = .ended (.ok p) ∧
      (p.run call).leases.map (fun l => (l.held.id, l.held.guest.poisoned)) =
        [(1, some "host call result copy failed: Memory fault: guest allocator returned null")] ∧
      (p.run ms).destroyed = 1 ∧ (p.run ms).replaced = 1 ∧
      (p.run ms).leases.map (·.held.id) = [2] ∧ (p.run ms).Upholds Instance.Clean (p.called ms) := by
  intro p call ms
  have hfilled : Filling.turns .narrow 1 none World.answering [] = .ended (.ok p) := rfl
  have hpoisoned : (p.run call).leases.map (fun l => (l.held.id, l.held.guest.poisoned)) =
      [(1, some "host call result copy failed: Memory fault: guest allocator returned null")] := by
    decide +kernel
  have hcounts : (p.run ms).destroyed = 1 ∧ (p.run ms).replaced = 1 ∧
      (p.run ms).leases.map (·.held.id) = [2] := by
    decide +kernel
  -- The one instance that arrives is made in the place of the one that was spoilt.
  let clean (ms₁ : List (Moment Unit)) (m : Moment Unit) : Prop :=
    ((m.act.arrival? m.world (p.run ms₁)).all fun i => i.id ∉ p.overlooked [] (ms₁ ++ [m])) = true
  have harrivals : ∀ k : Fin ms.length, clean (ms.take k) (ms.get k) := by
    decide +kernel
  refine ⟨hfilled, hpoisoned, hcounts.1, hcounts.2.1, hcounts.2.2,
    (clean_run_iff hfilled ms).mpr ⟨rfl, fun ms₁ m ms₂ i hms hi => ?_⟩ ms []
      (List.append_nil ms).symm⟩
  have hclean : clean ms₁ m := of_places harrivals hms
  simpa [clean, hi] using hclean

end Pool

/-! ## A spoilt instance that nobody notices -/

/-- A blueprint whose guests make a host call when they tidy up and find no room for the answer. -/
def Blueprint.cramped : Blueprint :=
  { name := "cramped"
    program :=
      { module :=
          { types := #[Body.allocatorType, Linker.hostCallType, Body.actionType]
            imports := #[⟨Linker.hostSpace, Linker.hostCallName, .func 1⟩]
            funcs := #[0, 2]
            memories := #[⟨0, none⟩]
            exports := #[⟨"memory", .memory 0⟩, ⟨"allocate", .func 1⟩, ⟨"reset", .func 2⟩] }
        importedFuncs := 1
        funcTypes := #[Linker.hostCallType, Body.allocatorType, Body.actionType]
        code := #[⟨Body.allocatorType, #[], #[.plain (.const .i32 0), .ret]⟩,
          ⟨Body.actionType, #[], Array.replicate 8 (.plain (.const .i32 0)) ++
            #[.call 0, .plain .drop, .ret]⟩] }
    contentHash := ""
    linker := { hostCall := some "allocate" }
    execution := {} }

namespace Pool

/-- **A spoilt instance is handed out**: it is leased and given back at once, while it tidies up the
answer to its host call cannot be placed, and still it becomes idle and is leased again. -/
theorem cramped_run_poisoned :
    let p := filled .answering .cramped []
    let ms : List (Moment Unit) := [⟨.answering, .tryCheckout⟩, ⟨.answering, .release 0⟩,
      ⟨.answering, .proceedRestoration 0 1⟩, ⟨.answering, .proceedRestoration 16 1⟩,
      ⟨.answering, .tryCheckout⟩]
    Filled Unit .cramped 1 none p ∧ (∀ m ∈ ms, m.act.Orderly) ∧
      (p.run ms).leases.map (·.held.guest.poisoned) =
        [some "host call result copy failed: Memory fault: guest allocator returned null"] ∧
      ¬ (p.run ms).Upholds Instance.Clean (p.called ms) := by
  intro p ms
  have hpoisoned : (p.run ms).leases.map (·.held.guest.poisoned) =
      [some "host call result copy failed: Memory fault: guest allocator returned null"] := by
    decide +kernel
  have huncalled : p.called ms = [] := by decide +kernel
  refine ⟨⟨.answering, [], rfl⟩, by simp [ms, PoolAct.Orderly], hpoisoned, fun h => ?_⟩
  obtain ⟨l, hl, hmessage⟩ := List.mem_map.mp (hpoisoned ▸ List.mem_singleton_self _)
  have hclean := (h.leases l hl (huncalled ▸ List.not_mem_nil)).2
  rw [Instance.Clean, hmessage] at hclean
  cases hclean

end Pool
end FunctionHost

import FunctionHost.Proofs.Pool.Holdings

/-!
# What is handed out

Whoever leases an instance wants it to be in order.  What is handed out is idle before, and an
instance is idle because it was when the pool was filled or because it became so at the end of a
restoration: it **arrived**.  Whatever is to hold of every instance that is handed out, until its
next call begins, holds throughout a run if and only if it holds of what the pool was filled with
and of what arrives (`upholds_run_iff`).
-/
namespace FunctionHost

variable {σ : Type}

namespace PoolAct

/-- The instance that becomes idle by an act, if one does. -/
def arrival? (w : World σ) (p : Pool) (a : PoolAct) : Option Instance :=
  match a.restored? w p with
  | some (.kept i) | some (.replaced i) => some i
  | _ => none

/-- The lease on which an act begins a call, if it does. -/
def called (p : Pool) : PoolAct → List Nat
  | .beginCall lease _ _ _ => (p.lease? lease).toList.map Lease.number
  | _ => []

end PoolAct

namespace Pool

/-- The leases on which calls began in a run. -/
def called (p : Pool) : List (Moment σ) → List Nat
  | [] => []
  | m :: ms => m.act.called p ++ (m.act.perform m.world p).called ms

/-- **What holds of every instance that is idle or handed out**, but for those that were called. -/
structure Upholds (X : Instance → Prop) (called : List Nat) (p : Pool) : Prop where
  idle : ∀ i ∈ p.idle, X i
  leases : ∀ l ∈ p.leases, l.number ∉ called → l.call = none ∧ X l.held

variable {w : World σ} {p q : Pool} {a : PoolAct} {X : Instance → Prop} {called : List Nat}

/-- What holds of one instance, as far as it is idle or handed out. -/
def Holding.Upholds (X : Instance → Prop) (called : List Nat) : Holding → Prop
  | .idle i => X i
  | .leased l => l.number ∉ called → l.call = none ∧ X l.held
  | .returning _ => True

theorem upholds_iff :
    Upholds X called p ↔ ∀ x ∈ p.holdings, Holding.Upholds X called x := by
  constructor
  · rintro ⟨hidle, hleases⟩ x hx
    cases x with
    | idle i => exact hidle i (mem_holdings_idle.mp hx)
    | leased l => exact hleases l (mem_holdings_leased.mp hx)
    | returning r => trivial
  · intro h
    exact ⟨fun i hi => h _ (mem_holdings_idle.mpr hi), fun l hl => h _ (mem_holdings_leased.mpr hl)⟩

theorem Becomes.upholds (hX : ∀ i s, X i → X (i.setState s)) {x y : Holding} {n : Nat}
    (h : Becomes w p a x y n) (hx : Holding.Upholds X called x)
    (ha : ∀ i, a.arrival? w p = some i → X i) : Holding.Upholds X (called ++ a.called p) y := by
  cases h with
  | lent hs => exact fun _ => ⟨rfl, hX _ _ hx⟩
  | @called _ l l' hl hc =>
    intro hn
    have hn : l.number ∉ called ++ a.called p := hc.number ▸ hn
    have hold := hx fun hm => hn (List.mem_append_left _ hm)
    cases hc with
    | begun h =>
      refine absurd (List.mem_append_right _ ?_) hn
      rw [PoolAct.called, hl]
      exact List.mem_singleton_self _
    | further hcall h =>
      rw [hold.1] at hcall
      cases hcall
    | dropped => exact ⟨rfl, hold.2⟩
  | returned => trivial
  | abandoned => trivial
  | tidying hr h hx => trivial
  | replacing hr h hx => trivial
  | kept hr h ho => exact ha _ (by rw [PoolAct.arrival?, ho])
  | replaced hr h ho => exact ha _ (by rw [PoolAct.arrival?, ho])

/-- **An act hands out what is in order** if what it makes idle is. -/
theorem Upholds.moves (hX : ∀ i s, X i → X (i.setState s)) (hn : WellNumbered p)
    (h : Upholds X called p) (hm : Moves w p a q) (ha : ∀ i, a.arrival? w p = some i → X i) :
    Upholds X (called ++ a.called p) q := by
  rw [upholds_iff] at h ⊢
  -- The more leases were called, the less is asked of them.
  have hold : ∀ x ∈ p.holdings, Holding.Upholds X (called ++ a.called p) x := by
    intro x hx
    cases x with
    | idle i => exact h _ hx
    | leased l => exact fun hl => h _ hx fun hm => hl (List.mem_append_left _ hm)
    | returning r => trivial
  exact (hm.shifts hn).all hold fun x hx y n hb => hb.upholds hX (h x hx) ha

/-- **How an instance arrives**: it tidied up, or it was made. -/
inductive Arrives (rounds : Nat) (w : World σ) (p : Pool) (r : Restoration) : Instance → Prop
  | kept {j : Instance} (h : Tidies rounds w r.stage j (.ended (.ok ()))) :
      Arrives rounds w p r (j.setState .idle)
  | replaced {i : Instance} (h : Bears rounds w p r.stage (.ended (.ok i))) :
      Arrives rounds w p r i

/-- **Whatever arrives ends a restoration** and is idle. -/
theorem Moves.arrives {i : Instance} (hm : Moves w p a q) (h : a.arrival? w p = some i) :
    i ∈ q.idle ∧ ∃ rounds r, p.restoration? r.number = some r ∧ Arrives rounds w p r i := by
  have quiet (hq : a.Quiet w p) : a.arrival? w p ≠ some i := by
    rw [PoolAct.arrival?, hq.restored]
    exact fun h => nomatch h
  cases hm with
  | still hq => exact absurd h (quiet hq.toQuiet)
  | queued hq hx hg => exact absurd h (quiet hq.toQuiet)
  | unqueued hq hx => exact absurd h (quiet hq.toQuiet)
  | starved hq hp hi => exact absurd h (quiet hq.toQuiet)
  | lent hq hp ho hi => exact absurd h (quiet hq.toQuiet)
  | called hq hl hc => exact absurd h (quiet hq)
  | returned hl => cases h
  | abandoned hl => cases h
  | forsaken hl => cases h
  | @restored rounds r q o hr hR ho =>
    rw [PoolAct.arrival?, ho] at h
    cases hR with
    | kept ht hopen =>
      cases h
      exact ⟨List.mem_cons_self, rounds, r, hr, .kept ht⟩
    | replaced hb hopen =>
      cases h
      exact ⟨List.mem_cons_self, rounds, r, hr, .replaced hb⟩
    | _ => cases h
  | interrupted hr => cases h
  | closed deadline => cases h
  | emptied deadline => cases h

/-- **What is handed out is in order throughout a run if and only if what the pool begins with and
whatever arrives is.** -/
theorem upholds_run_iff (called : List Nat) (hX : ∀ i s, X i → X (i.setState s))
    (hn : WellNumbered p) (ms : List (Moment σ)) :
    (∀ ms₁ ms₂, ms = ms₁ ++ ms₂ → Upholds X (called ++ p.called ms₁) (p.run ms₁)) ↔
      Upholds X called p ∧
        ∀ ms₁ m ms₂ i, ms = ms₁ ++ m :: ms₂ →
          m.act.arrival? m.world (p.run ms₁) = some i → X i := by
  constructor
  · intro h
    refine ⟨by simpa [Pool.called] using h [] ms rfl, fun ms₁ m ms₂ i hms hi => ?_⟩
    -- What arrives is idle at the next moment, where all that is idle is in order.
    have hnext := (h (ms₁ ++ [m]) ms₂ (by rw [hms, List.append_assoc]; rfl)).idle
    rw [run_append] at hnext
    exact hnext i ((perform_moves m.world (p.run ms₁) m.act).arrives hi).1
  · rintro ⟨hp, harrivals⟩
    induction ms generalizing p called with
    | nil =>
      intro ms₁ ms₂ hms
      obtain ⟨rfl, rfl⟩ := List.append_eq_nil_iff.mp hms.symm
      simpa [Pool.called] using hp
    | cons m ms ih =>
      have hm := perform_moves m.world p m.act
      have hq := hp.moves hX hn hm fun i hi => harrivals [] m ms i rfl hi
      intro ms₁ ms₂ hms
      cases ms₁ with
      | nil => simpa [Pool.called] using hp
      | cons m' ms₁ =>
        obtain ⟨rfl, rfl⟩ := List.cons.inj hms
        rw [Pool.called, ← List.append_assoc]
        refine ih _ (hn.moves hm) hq (fun ms₃ m' ms₄ i hms hi => ?_) ms₁ ms₂ rfl
        exact harrivals (m :: ms₃) m' ms₄ i (by rw [hms]; rfl) hi

/-- A law of each moment of a run and of those before it can be checked place by place. -/
theorem of_places {X : List (Moment σ) → Moment σ → Prop} {ms ms₁ ms₂ : List (Moment σ)}
    {m : Moment σ} (h : ∀ k : Fin ms.length, X (ms.take k) (ms.get k))
    (hms : ms = ms₁ ++ m :: ms₂) : X ms₁ m := by
  subst hms
  have hlength : ms₁.length < (ms₁ ++ m :: ms₂).length := by simp
  simpa using h ⟨ms₁.length, hlength⟩

end Pool
end FunctionHost

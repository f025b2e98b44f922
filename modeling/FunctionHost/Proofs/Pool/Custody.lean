import FunctionHost.Proofs.Pool.Holdings

/-!
# In whose hands a pool is

Whoever uses a pool holds numbers that it gave out, each for a lease or for a restoration.
`InHands` says which numbers are held, and that the accounts of the pool are right but for
restorations that were broken off.  The operations of a pool give out numbers, take them back or
exchange them; all of them leave alone what others hold.

Only one of them costs the pool anything: whoever drops a restoration (`InHands.dropRestoration`).
-/
namespace FunctionHost
namespace Pool

variable {σ : Type}

/-- **A pool in somebody's hands**: the numbers of its leases and restorations, so many of which
were broken off before. -/
structure InHands (broken : Nat) (p : Pool) (leases restorations : List Nat) : Prop where
  numbered : WellNumbered p
  accounts : ∃ givenUp vanished, Accounts p givenUp broken vanished
  leases : (p.leases.map Lease.number).Perm leases
  restorations : (p.restorations.map Restoration.number).Perm restorations

namespace InHands

variable {broken : Nat} {p q : Pool} {w : World σ} {a : PoolAct} {n : Nat}
  {ls ls' rs rs' : List Nat}

theorem perm (h : InHands broken p ls rs) (hl : ls.Perm ls') (hr : rs.Perm rs') :
    InHands broken p ls' rs' :=
  ⟨h.numbered, h.accounts, h.leases.trans hl, h.restorations.trans hr⟩

/-- An act that breaks nothing off leaves only numbers to be looked at. -/
theorem after (h : InHands broken p ls rs) (w : World σ) (a : PoolAct)
    (ha : a.interrupts p = false)
    (hl : ((a.perform w p).leases.map Lease.number).Perm ls')
    (hr : ((a.perform w p).restorations.map Restoration.number).Perm rs') :
    InHands broken (a.perform w p) ls' rs' := by
  obtain ⟨g, v, hacc⟩ := h.accounts
  have hm := perform_moves w p a
  have hnext := hacc.moves h.numbered hm
  rw [ha] at hnext
  exact ⟨h.numbered.moves hm, ⟨_, _, hnext⟩, hl, hr⟩

theorem exists_lease (h : InHands broken p (n :: ls) rs) : ∃ l, p.lease? n = some l := by
  obtain ⟨l, hl, hn⟩ := List.mem_map.mp (h.leases.mem_iff.mpr List.mem_cons_self)
  have hfound : (p.lease? n).isSome := List.find?_isSome.mpr ⟨l, hl, decide_eq_true hn⟩
  exact Option.isSome_iff_exists.mp hfound

theorem exists_restoration (h : InHands broken p ls (n :: rs)) :
    ∃ r, p.restoration? n = some r := by
  obtain ⟨r, hr, hn⟩ := List.mem_map.mp (h.restorations.mem_iff.mpr List.mem_cons_self)
  have hfound : (p.restoration? n).isSome := List.find?_isSome.mpr ⟨r, hr, decide_eq_true hn⟩
  exact Option.isSome_iff_exists.mp hfound

/-! ## Checking out -/

theorem lend_numbers (w : World σ) (p : Pool) :
    ((lend w p).2.1.leases.map Lease.number).Perm
        ((lend w p).2.2.toOption.toList ++ p.leases.map Lease.number) ∧
      (lend w p).2.1.restorations = p.restorations := by
  unfold lend
  split
  · exact ⟨.refl _, rfl⟩
  · split
    · exact ⟨.refl _, rfl⟩
    · refine ⟨?_, rfl⟩
      rw [List.map_append]
      exact List.perm_append_singleton _ _

/-- **Asking for an instance** may give out a lease. -/
theorem checkout (h : InHands broken p ls rs) (w : World σ) (c : Context) :
    InHands broken (p.checkout w c).2.1
      (((p.checkout w c).2.2.result?.bind Except.toOption).toList ++ ls) rs := by
  have hnumbers : ((p.checkout w c).2.1.leases.map Lease.number).Perm
        (((p.checkout w c).2.2.result?.bind Except.toOption).toList ++ p.leases.map Lease.number) ∧
      (p.checkout w c).2.1.restorations = p.restorations := by
    unfold Pool.checkout
    split
    · exact ⟨.refl _, rfl⟩
    · dsimp only
      split
      · exact ⟨.refl _, rfl⟩
      · split
        · exact lend_numbers w _
        · exact ⟨.refl _, rfl⟩
  exact h.after w (.checkout c) rfl (hnumbers.1.trans (h.leases.append_left _))
    (hnumbers.2 ▸ h.restorations)

/-- **Looking whether a wait is over** may give out a lease. -/
theorem pollCheckout (h : InHands broken p ls rs) (w : World σ) (ticket : Nat) :
    InHands broken (p.pollCheckout w ticket).2.1
      (((p.pollCheckout w ticket).2.2.result?.bind Except.toOption).toList ++ ls) rs := by
  have hnumbers : ((p.pollCheckout w ticket).2.1.leases.map Lease.number).Perm
        (((p.pollCheckout w ticket).2.2.result?.bind Except.toOption).toList ++
          p.leases.map Lease.number) ∧
      (p.pollCheckout w ticket).2.1.restorations = p.restorations := by
    unfold Pool.pollCheckout
    split
    · exact ⟨.refl _, rfl⟩
    · split
      · exact ⟨.refl _, rfl⟩
      · split
        · exact lend_numbers w _
        · split <;> exact ⟨.refl _, rfl⟩
  exact h.after w (.pollCheckout ticket) rfl (hnumbers.1.trans (h.leases.append_left _))
    (hnumbers.2 ▸ h.restorations)

theorem leaveQueue (h : InHands broken p ls rs) (ticket : Nat) :
    InHands broken (p.leaveQueue ticket) ls rs := by
  have hsame : (p.leaveQueue ticket).leases = p.leases ∧
      (p.leaveQueue ticket).restorations = p.restorations := by
    unfold Pool.leaveQueue
    split <;> exact ⟨rfl, rfl⟩
  exact h.after World.silent (.leaveQueue ticket) rfl (hsame.1 ▸ h.leases)
    (hsame.2 ▸ h.restorations)

/-! ## Calling -/

theorem map_number_setLease (p : Pool) (l : Lease) :
    (p.setLease l).leases.map Lease.number = p.leases.map Lease.number :=
  Numbered.map_number_set rfl

theorem beginCall (h : InHands broken p ls rs) (w : World σ) (lease : Nat) (c : Context)
    (entrypoint : String) (payload : Bytes) :
    InHands broken (p.beginCall w lease c entrypoint payload).2.1 ls rs := by
  have hsame : (p.beginCall w lease c entrypoint payload).2.1.leases.map Lease.number =
        p.leases.map Lease.number ∧
      (p.beginCall w lease c entrypoint payload).2.1.restorations = p.restorations := by
    unfold Pool.beginCall
    split
    · exact ⟨rfl, rfl⟩
    · dsimp only
      rw [afterCall_eq]
      exact ⟨map_number_setLease _ _, rfl⟩
  exact h.after w (.beginCall lease c entrypoint payload) rfl (.trans (.of_eq hsame.1) h.leases)
    (hsame.2 ▸ h.restorations)

theorem proceedCall (h : InHands broken p ls rs) (rounds : Nat) (w : World σ) (lease : Nat) :
    InHands broken (p.proceedCall rounds w lease).2.1 ls rs := by
  have hsame : (p.proceedCall rounds w lease).2.1.leases.map Lease.number =
        p.leases.map Lease.number ∧
      (p.proceedCall rounds w lease).2.1.restorations = p.restorations := by
    unfold Pool.proceedCall
    split
    · exact ⟨rfl, rfl⟩
    · split
      · exact ⟨rfl, rfl⟩
      · dsimp only
        rw [afterCall_eq]
        exact ⟨map_number_setLease _ _, rfl⟩
  exact h.after w (.proceedCall rounds lease) rfl (.trans (.of_eq hsame.1) h.leases)
    (hsame.2 ▸ h.restorations)

/-! ## Giving back -/

/-- A lease that is given back becomes a restoration. -/
theorem giveBack_numbers (h : InHands broken p (n :: ls) rs) {l : Lease}
    (hl : p.lease? n = some l) (l' : Lease) (hn : l'.number = l.number) :
    ((p.giveBack l').1.leases.map Lease.number).Perm ls ∧
      ((p.giveBack l').1.restorations.map Restoration.number).Perm ((p.giveBack l').2 :: rs) := by
  obtain rfl := lease?_number hl
  constructor
  · have hperm := (leases_perm h.numbered hl).map Lease.number
    rw [Pool.giveBack, hn]
    exact (hperm.symm.trans h.leases).cons_inv
  · simp only [Pool.giveBack, List.map_append, List.map_cons, List.map_nil]
    exact (List.perm_append_singleton _ _).trans (h.restorations.cons _)

/-- **Giving an instance back** exchanges a lease for a restoration. -/
theorem release (h : InHands broken p (n :: ls) rs) :
    ∃ q r, p.release n = (q, some r) ∧ InHands broken q ls (r :: rs) := by
  obtain ⟨l, hl⟩ := h.exists_lease
  have heq : p.release n = ((p.giveBack { l with call := none }).1,
      some (p.giveBack { l with call := none }).2) := by
    simp only [Pool.release, hl]
  have hnumbers := h.giveBack_numbers hl { l with call := none } rfl
  have hperform : (PoolAct.release n).perform World.silent p =
      (p.giveBack { l with call := none }).1 := by
    rw [PoolAct.perform, heq]
  have hnext := h.after World.silent (.release n) rfl (hperform ▸ hnumbers.1)
    (hperform ▸ hnumbers.2)
  exact ⟨_, _, heq, hperform ▸ hnext⟩

/-- **Dropping a lease** exchanges it for a restoration. -/
theorem abandon (h : InHands broken p (n :: ls) rs) (w : World σ) :
    ∃ v q r, p.abandon w n = (v, q, some r) ∧ InHands broken q ls (r :: rs) := by
  obtain ⟨l, hl⟩ := h.exists_lease
  let l' : Lease := { l with held := l.held.setState .faulted, call := none }
  have heq : (p.abandon w n).2 = ((p.giveBack l').1, some (p.giveBack l').2) := by
    simp only [Pool.abandon, hl, l']
  have hnumbers := h.giveBack_numbers hl l' rfl
  have hperform : (PoolAct.abandon n).perform w p = (p.giveBack l').1 := by
    rw [PoolAct.perform, heq]
  have hnext := h.after w (.abandon n) rfl (hperform ▸ hnumbers.1) (hperform ▸ hnumbers.2)
  exact ⟨_, _, _, Prod.ext rfl heq, hperform ▸ hnext⟩

/-! ## Restoring -/

theorem removeRestoration_numbers (h : InHands broken p ls (n :: rs)) {r : Restoration}
    (hr : p.restoration? n = some r) :
    ((p.removeRestoration n).restorations.map Restoration.number).Perm rs := by
  obtain rfl := restoration?_number hr
  have hperm := (restorations_perm h.numbered hr).map Restoration.number
  exact (hperm.symm.trans h.restorations).cons_inv

/-- What a turn of a restoration makes of the numbers. -/
theorem restores_numbers (h : InHands broken p ls (n :: rs)) {rounds : Nat} {r : Restoration}
    {o : Option Restored} (hr : p.restoration? n = some r) (hR : Restores rounds w p r q o) :
    q.leases = p.leases ∧
      (q.restorations.map Restoration.number).Perm (if o = none then n :: rs else rs) := by
  have hremoved := h.removeRestoration_numbers hr
  obtain rfl := restoration?_number hr
  have hset (p : Pool) (stage : RestorationStage) :
      (p.setRestoration { r with stage := stage }).restorations.map Restoration.number =
        p.restorations.map Restoration.number :=
    Numbered.map_number_set rfl
  cases hR with
  | tidying ht hx => exact ⟨rfl, .trans (.of_eq (hset p _)) h.restorations⟩
  | replacing hb hx => exact ⟨rfl, .trans (.of_eq (hset (p.parted r.stage) _)) h.restorations⟩
  | kept ht ho => exact ⟨rfl, hremoved⟩
  | discarded hc => exact ⟨rfl, hremoved⟩
  | replaced hb ho => exact ⟨rfl, hremoved⟩
  | lost hb => exact ⟨rfl, hremoved⟩

/-- **Taking a restoration further** takes its number back once it is over. -/
theorem proceedRestoration (h : InHands broken p ls (n :: rs)) (rounds : Nat) (w : World σ) :
    InHands broken (p.proceedRestoration rounds w n).2.1 ls
      (if (p.proceedRestoration rounds w n).2.2.result? = none then n :: rs else rs) := by
  obtain ⟨r, hr⟩ := h.exists_restoration
  obtain rfl := restoration?_number hr
  have hrestores : Restores rounds w p r (p.proceedRestoration rounds w r.number).2.1
      (p.proceedRestoration rounds w r.number).2.2.result? := proceedRestoration_restores hr
  have hnumbers := h.restores_numbers hr hrestores
  exact h.after w (.proceedRestoration rounds r.number) rfl (hnumbers.1 ▸ h.leases) hnumbers.2

/-- **Dropping a restoration** breaks it off. -/
theorem dropRestoration (h : InHands broken p ls (n :: rs)) (w : World σ) :
    InHands (broken + 1) (p.dropRestoration w n).2 ls rs := by
  obtain ⟨r, hr⟩ := h.exists_restoration
  have hinterrupts : (PoolAct.dropRestoration n).interrupts p = true := by
    rw [PoolAct.interrupts, hr]; rfl
  obtain ⟨g, v, hacc⟩ := h.accounts
  have hm := perform_moves w p (.dropRestoration n)
  have hnext := hacc.moves h.numbered hm
  rw [hinterrupts] at hnext
  have hremoved := h.removeRestoration_numbers hr
  have heq : (p.dropRestoration w n).2 = (p.removeRestoration n).releasePermit := by
    simp only [Pool.dropRestoration, hr]
  refine ⟨h.numbered.moves hm, ⟨_, _, hnext⟩, ?_, ?_⟩
  · rw [heq]
    exact h.leases
  · rw [heq]
    exact hremoved

/-! ## Draining -/

theorem close (h : InHands broken p ls rs) : InHands broken p.close ls rs := by
  obtain ⟨g, v, hacc⟩ := h.accounts
  have hm : Moves World.silent p (.drain none) p.close := .closed none
  exact ⟨h.numbered.moves hm, ⟨_, _, hacc.moves h.numbered hm⟩, h.leases, h.restorations⟩

/-- **Draining a closed pool** leaves alone what is in somebody's hands. -/
theorem pollDrain (h : InHands broken p ls rs) (hc : p.closed = true) (w : World σ)
    (deadline : Option Nat) : InHands broken (p.pollDrain w deadline).2.1 ls rs := by
  have hclose : p.close = p := by
    cases p
    simp only [Pool.closed] at hc
    rw [Pool.close, Permits.close, ← hc]
  obtain ⟨g, v, hacc⟩ := h.accounts
  have hm : Moves w p (.drain deadline)
      { p.close with idle := [], destroyed := p.destroyed + p.idle.length } := .emptied deadline
  have hnumbered := h.numbered.moves hm
  have hnext := hacc.moves h.numbered hm
  rw [hclose] at hnumbered hnext
  unfold Pool.pollDrain
  split
  · exact ⟨hnumbered, ⟨_, _, hnext⟩, h.leases, h.restorations⟩
  · exact h

end InHands

/-! ## Filling -/

/-- Nothing of a new pool is in anybody's hands. -/
theorem inHands_pool {f : Filling} {made : List Instance} (hm : made.length = f.size) :
    InHands 0 (f.pool made) [] [] := by
  obtain ⟨hn, hacc⟩ := accounts_pool f made hm
  exact ⟨hn, ⟨0, 0, hacc⟩, .refl _, .refl _⟩

end Pool

/-- What is known of the filling of a pool: as long as it goes on, instances are missing. -/
def Filling.Fine : Standing Filling Filling.Result → Prop
  | .busy f | .blocked f => f.made.length < f.size
  | .ended (.ok p) => Pool.InHands 0 p [] []
  | .ended (.error _) => True

namespace Filling

variable {σ : Type}

theorem Obeys.fine {b : Blueprint} {size : Nat} {timeout : Option Nat}
    {J : List Instance → Standing Birth Birth.Result → Prop} {s : Standing Filling Result}
    (h : Obeys b size timeout J s) : Fine s := by
  match s with
  | .busy f | .blocked f =>
    obtain ⟨-, rfl, -, hlt, -⟩ := h
    exact hlt
  | .ended (.error e) => trivial
  | .ended (.ok p) =>
    obtain ⟨f, made, i, -, -, rfl, -, hm, rfl⟩ := h
    exact Pool.inHands_pool hm

theorem fine_begin (w : World σ) (b : Blueprint) (size : Nat) (timeout : Option Nat) :
    Fine (begin w b size timeout).2 :=
  (obeys_begin (J := fun _ _ => True) (fun _ _ _ _ => trivial) w trivial).fine

theorem fine_proceed (rounds : Nat) (w : World σ) {f : Filling} (h : f.made.length < f.size) :
    Fine (proceed rounds w f).2 := by
  have hbusy : Obeys f.blueprint f.size f.checkoutTimeout (fun _ _ => True) (.busy f) :=
    ⟨rfl, rfl, rfl, h, .busy f.birth, trivial, rfl⟩
  exact (obeys_proceed (σ := σ) (K := fun _ _ => True) (fun _ _ _ _ => trivial) rounds w hbusy rfl
    fun _ _ _ _ => trivial).fine

end Filling
end FunctionHost

import FunctionHost.Proofs.Server.Requests
import FunctionHost.Proofs.Server.Running

/-!
# Servers that keep requests apart

Nothing that a server does breaks a call off and keeps the instance, and calls begin under numbers
that nobody has.  So in every turn its pools keep requests apart (`Server.begin_keepsApart`,
`Server.proceed_keepsApart`, `Server.drop_keepsApart`), and a request that gets an instance has its
lease for itself (`Server.serves_begin`, `Server.serves_proceed`).
-/
namespace FunctionHost

variable {σ : Type}

namespace Server

variable {s t u : Server σ} {w : World σ} {p : Pool} {k n base : Nat}
  {begins : Option (Context × String × Bytes)}

/-- **What becomes of the pools of a server** in a turn. -/
structure KeepsApart (s t : Server σ) : Prop where
  old : ∀ n < s.pools.size, (s.pool n).Keeps (s.pool n).nextNumber (t.pool n)
  new : ∀ n, s.pools.size ≤ n → (t.pool n).Clear

theorem clear_default : (default : Pool).Clear := fun _ hx => nomatch hx

/-- A turn after which there are no other pools. -/
theorem KeepsApart.of_size (hsize : t.pools.size = s.pools.size)
    (h : ∀ n < s.pools.size, (s.pool n).Keeps (s.pool n).nextNumber (t.pool n)) :
    KeepsApart s t := by
  refine ⟨h, fun n hn => ?_⟩
  rw [pool_of_size_le (hsize ▸ hn)]
  exact clear_default

theorem KeepsApart.clear (h : KeepsApart s t) (n : Nat) : (t.pool n).Clear := by
  rcases Nat.lt_or_ge n s.pools.size with hn | hn
  · exact (h.old n hn).clear
  · exact h.new n hn

theorem KeepsApart.of_pools (hs : ∀ n, (s.pool n).Clear) (hp : t.pools = s.pools) :
    KeepsApart s t := by
  refine .of_size (congrArg Array.size hp) fun n _ => ?_
  have hpool : t.pool n = s.pool n := by rw [pool, hp, pool]
  rw [hpool]
  exact .refl _ (hs n)

/-! ## Draining -/

/-- **What draining leaves of a server**: idle instances go, and nothing else. -/
structure Drained (s t : Server σ) : Prop where
  size : t.pools.size = s.pools.size
  pools : ∀ n, (s.pool n).Drained (t.pool n)

namespace Drained

theorem of_pools (hp : t.pools = s.pools) : Drained s t := by
  refine ⟨congrArg Array.size hp, fun n => ?_⟩
  have hpool : t.pool n = s.pool n := by rw [pool, hp, pool]
  rw [hpool]
  exact .refl _

theorem refl (s : Server σ) : Drained s s := .of_pools rfl

theorem trans (h : Drained s t) (h' : Drained t u) : Drained s u :=
  ⟨h'.size.trans h.size, fun n => (h.pools n).trans (h'.pools n)⟩

theorem after (w : World σ) (h : (s.pool k).Drained p) : Drained s (s.after k w p) := by
  refine ⟨size_after, fun n => ?_⟩
  rcases Nat.lt_or_ge n s.pools.size with hn | hn
  · by_cases hk : n = k
    · subst hk
      rw [pool_after hn]
      exact h
    · rw [pool_after_ne hk]
      exact .refl _
  · have hafter : (s.after k w p).pool n = default := pool_of_size_le (size_after.symm ▸ hn)
    rw [hafter, pool_of_size_le hn]
    exact .refl _

theorem keepsApart (h : Drained s t) (hs : ∀ n, (s.pool n).Clear) : KeepsApart s t :=
  .of_size h.size fun n _ => (Pool.Keeps.refl _ (hs n)).drained (h.pools n)

end Drained

theorem drained_pollUnload (s : Server σ) (k : Nat) (deadline : Option Nat) :
    Drained s (s.pollUnload k deadline).1 := by
  have hdrain := Pool.drained_pollDrain s.world (s.pool k) deadline
  unfold pollUnload
  generalize (s.pool k).pollDrain s.world deadline = turn at hdrain
  obtain ⟨v, q, outcome⟩ := turn
  cases outcome with
  | none => exact .after v hdrain
  | some outcome => exact (Drained.after v hdrain).trans (.of_pools rfl)

theorem drained_pollDrains (s : Server σ) (drains : List Draining) :
    Drained s (s.pollDrains drains).1 := by
  induction drains generalizing s with
  | nil => exact .refl s
  | cons d drains ih =>
    have hdrain := Pool.drained_pollDrain s.world (s.pool d.pool) d.wait.deadline
    rw [pollDrains]
    generalize (s.pool d.pool).pollDrain s.world d.wait.deadline = turn at hdrain
    obtain ⟨v, q, outcome⟩ := turn
    have hrest := (Drained.after v hdrain).trans (ih (s.after d.pool v q))
    cases outcome <;> exact hrest

theorem pools_reportDrained (outcomes : List (String × DrainOutcome)) (s : Server σ) :
    (outcomes.foldl reportDrained s).pools = s.pools := by
  induction outcomes generalizing s with
  | nil => rfl
  | cons d outcomes ih =>
    rw [List.foldl_cons, ih]
    obtain ⟨name, outcome⟩ := d
    rw [reportDrained]
    split <;> rfl

theorem drained_pollClose (s : Server σ) (drains : List Draining) :
    Drained s (s.pollClose drains).1 := by
  have hdrains := drained_pollDrains s drains
  unfold pollClose
  generalize s.pollDrains drains = turn at hdrains
  obtain ⟨u, outcomes, waiting⟩ := turn
  have hreported : Drained s (outcomes.foldl reportDrained u) :=
    hdrains.trans (.of_pools (pools_reportDrained outcomes u))
  dsimp only
  split
  · exact hreported.trans (.of_pools rfl)
  · exact hreported

theorem drained_closePool (s : Server σ) (k : Nat) : Drained s (s.closePool k) :=
  .after s.world (Pool.drained_close _)

theorem drained_shutDown (s : Server σ) : Drained s s.shutDown.1 := by
  have hclose (entries : List (String × Served)) (t : Server σ) :
      Drained t (entries.foldl (fun s e => s.closePool e.2.pool) t) := by
    induction entries generalizing t with
    | nil => exact .refl t
    | cons e entries ih => exact (drained_closePool t e.2.pool).trans (ih _)
  unfold shutDown
  split
  · exact .of_pools rfl
  · refine Drained.trans ?_ (drained_pollClose _ _)
    refine Drained.trans (t := Server.report { s with closed := true, registry := _ } _) ?_
      (hclose _ _)
    exact .of_pools rfl

theorem drained_unload (s : Server σ) (name : String) : Drained s (s.unload name).1 := by
  unfold unload
  split
  · exact .refl s
  · rename_i registry served _
    have htaken : Drained s { s with registry := registry } := .of_pools rfl
    exact (htaken.trans (drained_closePool _ served.pool)).trans (drained_pollUnload _ _ _)

/-! ## Requests -/

theorem Follows.keeps (h : Follows k base begins s t) (hk : k < s.pools.size)
    (hp : p.Keeps base (s.pool k)) (hn : (s.pool k).WellNumbered) : p.Keeps base (t.pool k) := by
  refine (h.pool_induction (I := fun q => q.WellNumbered ∧ p.Keeps base q) hk ⟨hn, hp⟩ ?_).2
  intro w q a ha hf hq
  refine ⟨hq.1.moves (Pool.perform_moves w q a), hq.2.perform hq.1 w hf ?_⟩
  rintro lease c e payload rfl
  exact ha.1

/-- **A turn of a request** that begins with an act on its pool. -/
theorem keepsApart_of_follows {a : PoolAct} (hk : k < s.pools.size)
    (hs : ∀ n, (s.pool n).Clear) (hn : (s.pool k).WellNumbered) (ha : a.LetsFinish (s.pool k))
    (hbegin : ∀ lease c e payload, a ≠ .beginCall lease c e payload)
    (h : Follows k (s.pool k).nextNumber begins (s.act k a) t) : KeepsApart s t := by
  refine .of_size (h.size.trans size_after) fun n hlt => ?_
  by_cases hne : n = k
  · subst hne
    have hpool : (s.act n a).pool n = a.perform s.world (s.pool n) := pool_after hk
    refine h.keeps (size_after.symm ▸ hk) ?_ ?_
    · rw [hpool]
      exact (Pool.Keeps.refl _ (hs n)).perform hn s.world ha
        fun lease c e payload he => absurd he (hbegin lease c e payload)
    · rw [hpool]
      exact hn.moves (Pool.perform_moves s.world (s.pool n) a)
  · have hpool : t.pool n = s.pool n := (h.pool_ne hne).trans (pool_after_ne hne)
    rw [hpool]
    exact .refl _ (hs n)

/-! ## Loading -/

end Server

namespace ServerWork

/-- **What some work has of a request**, or of the module that it loads.

* A pool is filled with instances of its module that serve no request.
* A request waits for an instance of its module, to be served in its own context.
* A request that is served has its lease for itself. -/
def Serves (s : Server σ) (q : Option Request) : ServerWork → Prop
  | .filling name _ f => f.Free ∧ f.blueprint.name = name
  | .waiting pool _ c entrypoint payload => ∃ r, q = some r ∧ c = r.served ∧
      entrypoint = r.entrypoint ∧ payload = r.payload ∧ (s.pool pool).name = r.name
  | .calling pool lease => ∃ r, q = some r ∧ (s.pool pool).name = r.name ∧
      (s.pool pool).Reserved lease r.served r.entrypoint
  | _ => True

end ServerWork

namespace Server

variable {s : Server σ} {w : World σ} {p : Pool} {k : Nat}

theorem clear_of_frees {module : String} {standing : Standing Filling Filling.Result}
    (h : Filling.Frees module standing)
    (hp : standing.result?.bind Except.toOption = some p) : p.Clear := by
  match standing with
  | .busy f | .blocked f => cases hp
  | .ended (.error e) => cases hp
  | .ended (.ok q) =>
    cases hp
    obtain ⟨hname, hleases, hrestorations, hidle⟩ := h
    intro x hx
    rw [hname]
    cases x with
    | idle i => exact hidle i (Pool.mem_holdings_idle.mp hx)
    | leased l => exact nomatch hleases ▸ Pool.mem_holdings_leased.mp hx
    | returning r => exact nomatch hrestorations ▸ Pool.mem_holdings_returning.mp hx

/-- **What a load has filled** keeps requests apart. -/
theorem clear_of_fills? {x : ServerWork} {q : Option Request} (hx : x.Serves s q)
    (h : s.fills? x = some p) : p.Clear := by
  cases x with
  | compiling plan =>
    simp only [fills?] at h
    split at h
    · exact clear_of_frees (Filling.frees_begin ..) h
    · cases h
  | filling name hash f => exact clear_of_frees (Filling.frees_proceed hx.1 s.world) h
  | _ => cases h

/-- **A turn of a load** leaves the pools as they are, or there is one more. -/
theorem keepsApart_of_loading {x : ServerWork} {q : Option Request} {name : String} {size : Nat}
    {turn : Turn σ} (hs : ∀ n, (s.pool n).Clear) (hx : x.Serves s q)
    (h : Loading s x name size turn) : KeepsApart s turn.1 := by
  cases h with
  | goesOn hfull hy hl hg hw => exact .of_pools hs rfl
  | failed hfull hw => exact .of_pools hs rfl
  | late hfull hc hw => exact .of_pools hs rfl
  | taken hfull ho ht hw => exact .of_pools hs rfl
  | @published w p b timeout hash hfull hp hb ho hf hw =>
    refine ⟨fun n hn => ?_, fun n hn => ?_⟩
    · rw [pool_publishing_of_lt hn]
      exact .refl _ (hs n)
    · rcases Nat.eq_or_lt_of_le hn with rfl | hlt
      · rw [pool_publishing]
        exact clear_of_fills? hx hfull
      · rw [pool_of_size_le ((Array.size_push p).symm ▸ hlt)]
        exact clear_default

/-! ## All turns -/

/-- **A command keeps requests apart.** -/
theorem begin_keepsApart (hs : ∀ n, (s.pool n).Clear) (h : s.Proper) (c : Context)
    (command : ServerCommand) : KeepsApart s (s.begin c command).1 := by
  cases command with
  | load plan =>
    rcases load_begins s plan with hload | ⟨e, hload⟩ <;>
      (rw [begin, hload]; exact .of_pools hs rfl)
  | execute name entrypoint payload =>
    rw [begin]
    unfold execute
    split
    · exact .of_pools hs rfl
    · exact .of_pools hs rfl
    · rename_i served _ hget
      have hk := (h.named _ (Registry.mem_of_get hget).2).1
      have hn := (h.kindred served.pool).numbered
      exact keepsApart_of_follows (a := .checkout (c.serving name entrypoint)) hk hs hn trivial
        (by rintro _ _ _ _ ⟨⟩) (follows_checkout hk hn)
  | unload name => exact (drained_unload s name).keepsApart hs
  | shutDown => exact (drained_shutDown s).keepsApart hs
  | tick count => exact .of_pools hs rfl

/-- **Work that goes on keeps requests apart.** -/
theorem proceed_keepsApart (hs : ∀ n, (s.pool n).Clear) (h : s.Proper) {x : ServerWork}
    {q : Option Request} (hx : x.Sound s) (hg : x.Genuine σ) (hq : x.Serves s q) :
    KeepsApart s (s.proceed x).1 := by
  have hrequest {k : Nat} {a : PoolAct} (ha : x.act? = some (k, a)) (hk : k < s.pools.size)
      (hf : a.LetsFinish (s.pool k))
      (hbegin : ∀ lease c e payload, a ≠ .beginCall lease c e payload) :
      KeepsApart s (s.proceed x).1 :=
    keepsApart_of_follows hk hs (h.kindred k).numbered hf hbegin
      (follows_proceed ha hk (h.kindred k).numbered)
  cases x with
  | compiling plan => exact keepsApart_of_loading hs hq (loading_proceed rfl hg)
  | filling name hash f => exact keepsApart_of_loading hs hq (loading_proceed rfl hg)
  | waiting pool ticket c entrypoint payload =>
    exact hrequest rfl hx trivial (by rintro _ _ _ _ ⟨⟩)
  | calling pool lease => exact hrequest rfl hx trivial (by rintro _ _ _ _ ⟨⟩)
  | restoring pool number outcome => exact hrequest rfl hx trivial (by rintro _ _ _ _ ⟨⟩)
  | unloading pool wait => exact (drained_pollUnload s pool wait.deadline).keepsApart hs
  | closing drains => exact (drained_pollClose s drains).keepsApart hs

/-- **Work that is given up keeps requests apart.** -/
theorem drop_keepsApart (hs : ∀ n, (s.pool n).Clear) (h : s.Proper) {x : ServerWork}
    (hx : x.Sound s) : KeepsApart s (s.drop x) := by
  have hact {k : Nat} {a : PoolAct} {t : Server σ} (hk : k < s.pools.size)
      (hf : a.LetsFinish (s.pool k))
      (hbegin : ∀ lease c e payload, a ≠ .beginCall lease c e payload)
      (ht : t.pools = (s.act k a).pools) : KeepsApart s t := by
    have hkeeps : KeepsApart s (s.act k a) :=
      keepsApart_of_follows hk hs (h.kindred k).numbered hf hbegin
        (.refl : Follows k _ none _ _)
    refine .of_size ((congrArg Array.size ht).trans size_after) fun n hn => ?_
    have hpool : t.pool n = (s.act k a).pool n := by rw [pool, ht, pool]
    rw [hpool]
    exact hkeeps.old n hn
  cases x with
  | waiting pool ticket c entrypoint payload =>
    exact hact (a := .leaveQueue ticket) hx trivial (by rintro _ _ _ _ ⟨⟩) rfl
  | calling pool lease =>
    exact hact (a := .abandon lease) hx trivial (by rintro _ _ _ _ ⟨⟩) rfl
  | restoring pool number outcome =>
    exact hact (a := .dropRestoration number) hx trivial (by rintro _ _ _ _ ⟨⟩) rfl
  | _ => exact .of_pools hs rfl

/-! ## What a request is left with -/

variable {rounds : Nat} {c : Context} {entrypoint : String} {payload : Bytes}

/-- **What a turn of a call leaves**: the call goes on, or its instance is given back. -/
theorem calling_of_afterCall (hk : k < s.pools.size) {lease : Nat}
    {standing : Standing Unit Call.Result} :
    ∀ y ∈ (s.afterCall rounds k lease (w, p, standing)).2.work?,
      (y = .calling k lease ∧ (s.afterCall rounds k lease (w, p, standing)).1.pool k = p) ∨
        ∃ number r, y = .restoring k number r := by
  intro y hy
  match standing with
  | .busy _ | .blocked _ =>
    cases hy
    exact .inl ⟨rfl, pool_after hk⟩
  | .ended result =>
    rcases afterCall_ended s lease result with hturn | ⟨number, -, hturn⟩
    · rw [hturn, work?_answer] at hy
      cases hy
    · rw [hturn] at hy
      exact .inr ⟨number, _, work?_restore y hy⟩

/-- **A request that is served**, or whose instance is given back, in a pool that keeps requests
apart. -/
theorem serves_afterCall (hk : k < s.pools.size) {lease : Nat} {r : Request}
    {standing : Standing Unit Call.Result} (hp : p.Reserved lease r.served r.entrypoint)
    (hname : p.name = r.name) {y : ServerWork}
    (hy : (s.afterCall rounds k lease (w, p, standing)).2.work? = some y) :
    y.Serves (s.afterCall rounds k lease (w, p, standing)).1 (some r) := by
  rcases calling_of_afterCall hk y hy with ⟨rfl, hpool⟩ | ⟨number, o, rfl⟩
  · exact ⟨r, rfl, hpool.symm ▸ hname, hpool.symm ▸ hp⟩
  · trivial

/-- **A request that waits**, or is served once it has an instance. -/
theorem serves_afterCheckout (hk : k < s.pools.size) {r : Request}
    {standing : Standing Nat (Except HostError Nat)} (hn : p.WellNumbered) (hclear : p.Clear)
    (hname : p.name = r.name)
    (hlent : ∀ lease, standing = .ended (.ok lease) → ∀ l ∈ p.lease? lease, l.call = none)
    {y : ServerWork}
    (hy : (s.afterCheckout rounds k r.served r.entrypoint r.payload (w, p, standing)).2.work? =
      some y) :
    y.Serves (s.afterCheckout rounds k r.served r.entrypoint r.payload (w, p, standing)).1
      (some r) := by
  match standing with
  | .busy _ | .blocked _ =>
    cases hy
    exact ⟨r, rfl, rfl, rfl, rfl, (congrArg Pool.name (pool_after hk)).trans hname⟩
  | .ended (.error e) => cases hy
  | .ended (.ok lease) =>
    have hreserved := Pool.reserved_beginCall hn hclear w lease r.served r.entrypoint r.payload
      (hlent lease rfl)
    have hmoves := Pool.beginCall_moves (w := w) (p := p) lease r.served r.entrypoint r.payload
    have hsame : (p.beginCall w lease r.served r.entrypoint r.payload).2.1.name = p.name :=
      congrArg Blueprint.name hmoves.fixed.1
    rw [afterCheckout] at hy ⊢
    generalize p.beginCall w lease r.served r.entrypoint r.payload = turn at hy hreserved hsame
    obtain ⟨v, q, standing⟩ := turn
    exact serves_afterCall hk hreserved (hsame.trans hname) hy

/-- **A request that begins** is served in its own context, under its own lease. -/
theorem serves_request (hs : ∀ n, (s.pool n).Clear) (h : s.Proper) (r : Request) {y : ServerWork}
    (hy : (s.begin r.context r.command).2.work? = some y) :
    y.Serves (s.begin r.context r.command).1 (some r) := by
  rw [Request.command, begin] at hy ⊢
  cases ho : s.ensureOpen with
  | error e =>
    simp only [execute, ho] at hy
    cases hy
  | ok _ =>
    cases hget : s.registry.get r.name with
    | error e =>
      simp only [execute, ho, hget] at hy
      cases hy
    | ok served =>
      obtain ⟨hk, hname⟩ := h.named _ (Registry.mem_of_get hget).2
      have hn := (h.kindred served.pool).numbered
      have hkeeps := (Pool.Keeps.refl 0 (hs served.pool)).perform hn s.world
        (a := .checkout r.served) trivial (by rintro _ _ _ _ ⟨⟩)
      have hnumbered := hn.moves (Pool.perform_moves s.world _ (.checkout r.served))
      have hlent : ∀ lease,
          ((s.pool served.pool).checkout s.world r.served).2.2 = .ended (.ok lease) →
          ∀ l ∈ ((s.pool served.pool).checkout s.world r.served).2.1.lease? lease,
            l.call = none := fun _ => Pool.call_checkout hn
      rw [PoolAct.perform] at hkeeps hnumbered
      simp only [execute, ho, hget] at hy ⊢
      rw [← Request.served] at hy ⊢
      generalize (s.pool served.pool).checkout s.world r.served = turn
        at hy hkeeps hnumbered hlent ⊢
      obtain ⟨v, q, standing⟩ := turn
      exact serves_afterCheckout hk hnumbered hkeeps.clear (hkeeps.name.trans hname) hlent hy

/-- A load that goes on fills its pool with instances that serve no request. -/
theorem serves_afterFilling {name hash : String} {o : Option Request}
    {turn : World σ × Standing Filling Filling.Result} (hturn : Filling.Frees name turn.2)
    {y : ServerWork} (hy : (s.afterFilling name hash turn).2.work? = some y) :
    y.Serves (s.afterFilling name hash turn).1 o := by
  obtain ⟨v, standing⟩ := turn
  match standing with
  | .busy f | .blocked f =>
    cases hy
    exact hturn
  | .ended (.error e) => cases hy
  | .ended (.ok p) =>
    rw [afterFilling, publish] at hy
    split at hy <;> cases hy

/-- Draining has nothing of any request. -/
theorem serves_pollUnload {deadline : Option Nat} {y : ServerWork} {t : Server σ}
    {o : Option Request} (hy : (s.pollUnload k deadline).2.work? = some y) : y.Serves t o := by
  rw [pollUnload] at hy
  split at hy
  · cases hy
    trivial
  · cases hy

theorem serves_pollClose {drains : List Draining} {y : ServerWork} {t : Server σ}
    {o : Option Request} (hy : (s.pollClose drains).2.work? = some y) : y.Serves t o := by
  rw [pollClose] at hy
  dsimp only at hy
  split at hy
  · cases hy
  · cases hy
    trivial

/-- **What goes on** has what it had of its request. -/
theorem serves_proceed (hs : ∀ n, (s.pool n).Clear) (h : s.Proper) {x y : ServerWork}
    {o : Option Request} (hx : x.Sound s) (hq : x.Serves s o)
    (hlt : ∀ n lease, x = .calling n lease → lease < (s.pool n).nextNumber)
    (hy : (s.proceed x).2.work? = some y) : y.Serves (s.proceed x).1 o := by
  cases x with
  | compiling plan =>
    rw [proceed, fill] at hy ⊢
    split at hy
    · cases hy
    · exact serves_afterFilling (Filling.frees_begin ..) hy
  | filling name hash f =>
    obtain ⟨hf, hname⟩ := hq
    exact serves_afterFilling (hname ▸ Filling.frees_proceed hf s.world) hy
  | waiting pool ticket c entrypoint payload =>
    obtain ⟨r, rfl, rfl, rfl, rfl, hname⟩ := hq
    have hn := (h.kindred pool).numbered
    have hkeeps := (Pool.Keeps.refl 0 (hs pool)).perform hn s.world
      (a := .pollCheckout ticket) trivial (by rintro _ _ _ _ ⟨⟩)
    have hnumbered := hn.moves (Pool.perform_moves s.world _ (.pollCheckout ticket))
    -- What has just been lent is not called yet.
    have hlent : ∀ lease, ((s.pool pool).pollCheckout s.world ticket).2.2 = .ended (.ok lease) →
        ∀ l ∈ ((s.pool pool).pollCheckout s.world ticket).2.1.lease? lease, l.call = none :=
      fun _ => Pool.call_pollCheckout hn
    rw [PoolAct.perform] at hkeeps hnumbered
    rw [proceed] at hy ⊢
    generalize (s.pool pool).pollCheckout s.world ticket = turn at hy hkeeps hnumbered hlent ⊢
    obtain ⟨v, q, standing⟩ := turn
    exact serves_afterCheckout hx hnumbered hkeeps.clear (hkeeps.name.trans hname) hlent hy
  | calling pool lease =>
    obtain ⟨r, rfl, hname, hreserved⟩ := hq
    have hkeeps := (Pool.Keeps.refl (s.pool pool).nextNumber (hs pool)).perform
      (h.kindred pool).numbered s.world (a := .proceedCall quantum lease) trivial
      (by rintro _ _ _ _ ⟨⟩)
    have hstays := hkeeps.reserved lease (hlt pool lease rfl) _ _ hreserved
    have hsame := hkeeps.name
    rw [PoolAct.perform] at hstays hsame
    rw [proceed] at hy ⊢
    generalize (s.pool pool).proceedCall quantum s.world lease = turn at hy hstays hsame ⊢
    obtain ⟨v, q, standing⟩ := turn
    exact serves_afterCall hx hstays (hsame.trans hname) hy
  | restoring pool number outcome =>
    obtain rfl := work?_restore y hy
    trivial
  | unloading pool wait => exact serves_pollUnload hy
  | closing drains => exact serves_pollClose hy

/-- **What a command leaves to do** has what there is of the request, if it makes one. -/
theorem serves_begin (hs : ∀ n, (s.pool n).Clear) (h : s.Proper) (command : ServerCommand)
    {o : Option Request} (ho : ∀ name entrypoint payload,
      command = .execute name entrypoint payload → o = some ⟨c, name, entrypoint, payload⟩)
    {y : ServerWork} (hy : (s.begin c command).2.work? = some y) :
    y.Serves (s.begin c command).1 o := by
  cases command with
  | load plan =>
    rw [begin] at hy
    rcases load_begins s plan with hload | ⟨e, hload⟩ <;> (rw [hload] at hy; cases hy)
    trivial
  | execute name entrypoint payload =>
    rw [ho name entrypoint payload rfl]
    exact serves_request hs h ⟨c, name, entrypoint, payload⟩ hy
  | unload name =>
    rw [begin, unload] at hy
    split at hy
    · cases hy
    · exact serves_pollUnload hy
  | shutDown =>
    rw [begin, shutDown] at hy
    split at hy
    · cases hy
    · exact serves_pollClose hy
  | tick count => cases hy

/-- **What others do** leaves it what it has. -/
theorem serves_of_keepsApart {t : Server σ} (h : KeepsApart s t) {x : ServerWork}
    {o : Option Request} (hx : x.Sound s) (hq : x.Serves s o)
    (hlt : ∀ n lease, x = .calling n lease → lease < (s.pool n).nextNumber) : x.Serves t o := by
  cases x with
  | filling name hash f => exact hq
  | waiting pool ticket c entrypoint payload =>
    obtain ⟨r, ho, hc, he, hp, hname⟩ := hq
    exact ⟨r, ho, hc, he, hp, (h.old pool hx).name.trans hname⟩
  | calling pool lease =>
    obtain ⟨r, ho, hname, hreserved⟩ := hq
    have hkeeps := h.old pool hx
    exact ⟨r, ho, hkeeps.name.trans hname,
      hkeeps.reserved lease (hlt pool lease rfl) _ _ hreserved⟩
  | _ => trivial

end Server
end FunctionHost

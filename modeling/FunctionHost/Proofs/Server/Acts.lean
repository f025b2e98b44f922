import FunctionHost.Proofs.Pool.Owned
import FunctionHost.Proofs.Pool.Room
import FunctionHost.Proofs.Server.Turns
import Mathlib.Algebra.GroupWithZero.Nat

/-!
# What work does to pools

A turn of work that is not about loading comes down to acts on pools and reports.  The acts are about
numbers: the one that the work holds, and such as it is given in the same turn.  `Acts` says so, and
whatever is kept by acts on a pool is kept by turns of a server: nothing is published or taken back,
no pool changes what it is made for, what others hold stays theirs, and as many places are taken as
there are instances.
-/
namespace FunctionHost

variable {σ : Type}

/-- Whether an act drains the pool. -/
def PoolAct.drains : PoolAct → Bool
  | .drain _ => true
  | _ => false

/-- The number of a pool that some work holds. -/
def ServerWork.number? (n : Nat) : ServerWork → Option Nat
  | .waiting pool number _ _ _ | .calling pool number | .restoring pool number _ =>
    if pool = n then some number else none
  | _ => none

/-- How many instances some work has made, or is making, for a pool that is not there yet. -/
def ServerWork.births : ServerWork → Nat
  | .filling _ _ f => f.made.length + 1
  | _ => 0

theorem ServerWork.At.births {k : Nat} {x : ServerWork} (h : x.At k) : x.births = 0 := by
  cases x <;> first | exact h.elim | rfl

theorem ServerWork.At.number?_of_ne {k n : Nat} {x : ServerWork} (h : x.At k) (hn : n ≠ k) :
    x.number? n = none := by
  cases x <;> first | exact h.elim | exact if_neg (h ▸ hn.symm)

namespace Pool

variable {w : World σ} {p q : Pool} {a : PoolAct}

theorem close_of_closed (hc : p.closed = true) : p.close = p := by
  cases p
  simp only [Pool.closed] at hc
  rw [Pool.close, Permits.close, ← hc]

/-- **Only draining closes a pool.** -/
theorem Moves.closed_eq (h : Moves w p a q) (ha : a.drains = false) : q.closed = p.closed := by
  cases h with
  | still hq => rfl
  | queued hq hx hg hf hb => rfl
  | unqueued hq hx => exact Permits.closed_withdraw _ _
  | starved hq h hi => exact (Permits.closed_release _).trans (closed_of_obtained h)
  | lent hq h ho hi => exact closed_of_obtained h
  | called hq hl h => rfl
  | returned hl => rfl
  | abandoned hl => rfl
  | forsaken hl => rfl
  | restored hr h ho => exact h.closed
  | interrupted hr => exact Permits.closed_release _
  | closed deadline => cases ha
  | emptied deadline => cases ha

end Pool

namespace Server

variable {s t u : Server σ} {x : Option ServerWork} {drained : Nat → Prop} {k n : Nat}

/-- The server after an act on a pool. -/
def act (s : Server σ) (n : Nat) (a : PoolAct) : Server σ :=
  s.after n (a.world s.world (s.pool n)) (a.perform s.world (s.pool n))

/-- How many instances the pools have. -/
def stock (s : Server σ) : Nat := (s.pools.toList.map fun p => p.holdings.length).sum

/-- **What some work does in a turn**, if any: it acts on pools under its own number, or under one
that it got in this turn; and it drains some pools, after which epochs may stop passing. -/
inductive Acts (x : Option ServerWork) (drained : Nat → Prop) (s : Server σ) : Server σ → Prop
  | refl : Acts x drained s s
  | report {t : Server σ} (h : Acts x drained s t) (e : Event) : Acts x drained s (t.report e)
  | act {t : Server σ} (h : Acts x drained s t) {n : Nat} (hn : n < t.pools.size) {a : PoolAct}
      (hd : a.drains = true → drained n)
      (ha : ∀ m, a.about? = some m → x.bind (·.number? n) = some m ∨ (s.pool n).nextNumber ≤ m) :
      Acts x drained s (t.act n a)
  | close {t : Server σ} (h : Acts x drained s t) {n : Nat} (hn : n < t.pools.size)
      (hd : drained n) : Acts x drained s (t.closePool n)
  | halt {t : Server σ} (h : Acts x drained s t) : Acts x drained s { t with ticking := false }

namespace Acts

/-! ## What stays as it is -/

/-- Nothing is published or taken back, and the server is as open as before. -/
theorem listed (h : Acts x drained s t) :
    t.registry = s.registry ∧ t.closed = s.closed ∧ t.left = s.left := by
  induction h with
  | refl => exact ⟨rfl, rfl, rfl⟩
  | report h e ih => exact ih
  | act h hn hd ha ih => exact ih
  | close h hn hd ih => exact ih
  | halt h ih => exact ih

theorem size (h : Acts x drained s t) : t.pools.size = s.pools.size := by
  induction h with
  | refl => rfl
  | report h e ih => exact ih
  | act h hn hd ha ih => exact size_after.trans ih
  | close h hn hd ih => exact size_after.trans ih
  | halt h ih => exact ih

/-- **What is kept by acts on a pool**, under the number of some work or under new ones, and by
closing it is kept by the work. -/
theorem own_induction {I : Pool → Prop} (h : Acts x drained s t) (hs : I (s.pool n))
    (hperform : ∀ (w : World σ) p (a : PoolAct), I p → (a.drains = true → drained n) →
      (∀ m, a.about? = some m → x.bind (·.number? n) = some m ∨ (s.pool n).nextNumber ≤ m) →
        I (a.perform w p))
    (hclose : drained n → ∀ p, I p → I p.close) : I (t.pool n) := by
  induction h with
  | refl => exact hs
  | report h e ih => exact ih
  | @act t h k hk a hd ha ih =>
    by_cases hn : n = k
    · subst hn
      rw [Server.act, pool_after hk]
      exact hperform t.world _ a ih hd ha
    · rw [Server.act, pool_after_ne hn]
      exact ih
  | @close t h k hk hd ih =>
    by_cases hn : n = k
    · subst hn
      rw [closePool, pool_after hk]
      exact hclose hd _ ih
    · rw [closePool, pool_after_ne hn]
      exact ih
  | halt h ih => exact ih

/-- **What every act keeps of a pool**, work keeps. -/
theorem pool_induction {I : Pool → Prop} (h : Acts x drained s t) (hs : I (s.pool n))
    (hstep : ∀ (w : World σ) p a q, I p → Pool.Moves w p a q → (a.drains = true → drained n) → I q) :
    I (t.pool n) :=
  h.own_induction hs (fun w p a hp hd _ => hstep w p a _ hp (Pool.perform_moves w p a) hd)
    fun hd p hp => hstep s.world p _ _ hp (.closed none) fun _ => hd

/-- **No pool changes what it is made for.** -/
theorem fixed (h : Acts x drained s t) (n : Nat) :
    (t.pool n).blueprint = (s.pool n).blueprint ∧ (t.pool n).size = (s.pool n).size :=
  h.pool_induction (I := fun p => p.blueprint = (s.pool n).blueprint ∧ p.size = (s.pool n).size)
    ⟨rfl, rfl⟩ fun _ _ _ _ hp hm _ => ⟨hm.fixed.1.trans hp.1, hm.fixed.2.trans hp.2⟩

theorem kindred (h : Acts x drained s t) (hs : (s.pool n).Kindred) : (t.pool n).Kindred :=
  h.pool_induction hs fun _ _ _ _ hp hm _ => hp.moves hm

theorem nextNumber_le (h : Acts x drained s t) (n : Nat) :
    (s.pool n).nextNumber ≤ (t.pool n).nextNumber :=
  h.pool_induction (I := fun p => (s.pool n).nextNumber ≤ p.nextNumber) (Nat.le_refl _)
    fun _ _ _ _ hp hm _ => Nat.le_trans hp hm.nextNumber_le

/-- **A pool that nobody drains is as open as before.** -/
theorem closed_eq (h : Acts x drained s t) (hn : ¬ drained n) :
    (t.pool n).closed = (s.pool n).closed := by
  refine h.pool_induction (I := fun p => p.closed = (s.pool n).closed) rfl
    fun _ _ _ _ hp hm hd => (hm.closed_eq ?_).trans hp
  exact Bool.eq_false_iff.mpr fun ha => hn (hd ha)

theorem closed_of_closed (h : Acts x drained s t) (hc : (s.pool n).closed = true) :
    (t.pool n).closed = true :=
  h.pool_induction (I := fun p => p.closed = true) hc fun _ _ _ _ hp hm _ =>
    hm.closed_of_closed hp

end Acts

/-! ## Places -/

/-- Exchanging one entry of a list of numbers changes the sum by what that entry changes. -/
theorem sum_set {l : List Nat} {a b : Nat} (hk : l[k]? = some a) :
    ∃ rest, l.sum = rest + a ∧ (l.set k b).sum = rest + b := by
  induction l generalizing k with
  | nil => cases hk
  | cons c l ih =>
    cases k with
    | zero =>
      cases hk
      exact ⟨l.sum, by simp [Nat.add_comm], by simp [Nat.add_comm]⟩
    | succ k =>
      obtain ⟨rest, hl, hset⟩ := ih hk
      refine ⟨c + rest, ?_, ?_⟩
      · rw [List.sum_cons, hl, Nat.add_assoc]
      · rw [List.set_cons_succ, List.sum_cons, hset, Nat.add_assoc]

/-- The instances of one pool, and all others. -/
theorem stock_after (hk : k < s.pools.size) (p : Pool) :
    ∃ rest, s.stock = rest + (s.pool k).holdings.length ∧
      ∀ w : World σ, (s.after k w p).stock = rest + p.holdings.length := by
  have hget : (s.pools.toList.map fun p => p.holdings.length)[k]? =
      some (s.pool k).holdings.length := by
    simp [pool, hk]
  obtain ⟨rest, hsum, hset⟩ := sum_set (b := p.holdings.length) hget
  refine ⟨rest, hsum, fun w => ?_⟩
  rw [← hset, stock, after, Array.toList_setIfInBounds, List.map_set]

/-- What an act does to one pool changes how many places all of them take. -/
theorem trades_after (hk : k < s.pools.size) {w : World σ} {p : Pool}
    (h : s.world.Trades (s.pool k).holdings.length w p.holdings.length) :
    s.world.Trades s.stock w (s.after k w p).stock := by
  obtain ⟨rest, hstock, hafter⟩ := stock_after hk p
  rw [hstock, hafter w]
  exact h.more rest

/-- **Work takes and gives back as many places as it makes and destroys instances.** -/
theorem Acts.trades (h : Acts x drained s t) (hs : ∀ n, (s.pool n).Kindred) :
    s.world.Trades s.stock t.world t.stock := by
  induction h with
  | refl => exact .of_slots rfl
  | report h e ih => exact ih.trans (.of_slots rfl)
  | act h hn hd ha ih =>
    exact ih.trans (trades_after hn (Pool.trades_perform (h.kindred (hs _)).numbered _ _))
  | close h hn hd ih => exact ih.trans (trades_after hn (.of_slots rfl))
  | halt h ih => exact ih

/-! ## Requests -/

variable {rounds : Nat} {w : World σ} {p : Pool} {outcome : Option Call.Result}

theorem Acts.answer (h : Acts x drained s t) (result : Call.Result) :
    Acts x drained s (t.answer result).1 := by
  cases result <;> exact h.report _

/-- **What a turn of giving an instance back comes to**, after its act on the pool: it goes on, or is
over; then the call is answered for which the instance was leased, if there is one. -/
inductive GivesBack (t : Server σ) (k number : Nat) : Option Call.Result → Turn σ → Prop
  | goesOn {outcome : Option Call.Result} {standing : Standing ServerWork ServerReply}
      (hwork : standing.work? = some (.restoring k number outcome)) :
      GivesBack t k number outcome (t, standing)
  | done : GivesBack t k number none (t, .ended .done)
  | answered (result : Call.Result) : GivesBack t k number (some result) (t.answer result)

theorem restore_givesBack (s : Server σ) (rounds k number : Nat) (outcome : Option Call.Result) :
    GivesBack (s.act k (.proceedRestoration rounds number)) k number outcome
      (s.restore rounds k number outcome) := by
  rw [Server.act, PoolAct.world, PoolAct.perform, Server.restore]
  generalize (s.pool k).proceedRestoration rounds s.world number = turn
  obtain ⟨v, q, standing⟩ := turn
  cases standing with
  | busy _ | blocked _ => exact .goesOn rfl
  | ended _ =>
    cases outcome with
    | none => exact .done
    | some result => exact .answered result

/-- Some acts, and a restoration under a number that the work has or was given. -/
theorem Acts.restore {number : Nat} (h : Acts x drained s t) (hk : k < s.pools.size)
    (hnumber : x.bind (·.number? k) = some number ∨ (s.pool k).nextNumber ≤ number) :
    Acts x drained s (t.restore rounds k number outcome).1 := by
  have hnext : Acts x drained s (t.act k (.proceedRestoration rounds number)) :=
    h.act (h.size.symm ▸ hk) (fun hd => by cases hd) fun m hm => by cases hm; exact hnumber
  have hturn := restore_givesBack t rounds k number outcome
  generalize t.restore rounds k number outcome = turn at hturn ⊢
  cases hturn with
  | goesOn hwork => exact hnext
  | done => exact hnext
  | answered result => exact hnext.answer result

theorem release_number {lease number : Nat} {q : Pool} (h : p.release lease = (q, some number)) :
    number = p.nextNumber := by
  unfold Pool.release at h
  split at h
  · cases h
  · cases h
    rfl

/-- **What follows a call that is over**: its instance is given back under a number made up for that,
or the call is answered at once. -/
theorem afterCall_ended (t : Server σ) (lease : Nat) (result : Call.Result) :
    t.afterCall rounds k lease (w, p, .ended result) =
        (t.after k w (p.release lease).1).answer result ∨
      ∃ number, p.release lease = ((p.release lease).1, some number) ∧
        t.afterCall rounds k lease (w, p, .ended result) =
          (t.after k w (p.release lease).1).restore rounds k number (some result) := by
  rw [Server.afterCall]
  obtain ⟨q, number⟩ := p.release lease
  cases number with
  | none => exact .inl rfl
  | some number => exact .inr ⟨number, rfl, rfl⟩

/-- Some acts, and what follows a turn of a call under a number that the work has or was given. -/
theorem Acts.afterCall {lease : Nat} {standing : Standing Unit Call.Result}
    (h : Acts x drained s (t.after k w p)) (hk : k < s.pools.size)
    (hlease : x.bind (·.number? k) = some lease ∨ (s.pool k).nextNumber ≤ lease) :
    Acts x drained s (t.afterCall rounds k lease (w, p, standing)).1 := by
  have hsize : k < (t.after k w p).pools.size := h.size.symm ▸ hk
  have hpool : (t.after k w p).pool k = p := pool_after (size_after ▸ hsize)
  match standing with
  | .busy _ | .blocked _ => exact h
  | .ended result =>
    have hnext : Acts x drained s ((t.after k w p).act k (.release lease)) :=
      h.act hsize (fun hd => nomatch hd) fun m hm => by cases hm; exact hlease
    rw [Server.act, PoolAct.world, PoolAct.perform, hpool, after_after] at hnext
    have hle := h.nextNumber_le k
    rw [hpool] at hle
    rcases afterCall_ended t lease result with hturn | ⟨number, hrelease, hturn⟩
    · rw [hturn]
      exact hnext.answer result
    · rw [hturn]
      exact hnext.restore hk (.inr (release_number hrelease ▸ hle))

theorem lend_number {lease : Nat} (h : (Pool.lend w p).2.2 = .ok lease) :
    lease = p.nextNumber := by
  unfold Pool.lend at h
  split at h
  · cases h
  · split at h
    · cases h
    · cases h
      rfl

/-- Some acts, and what follows a look at a wait: a lease is given out under a new number. -/
theorem Acts.afterCheckout {c : Context} {entrypoint : String} {payload : Bytes}
    {standing : Standing Nat (Except HostError Nat)}
    (h : Acts x drained s (t.after k w p)) (hk : k < s.pools.size)
    (hlease : ∀ lease, standing = .ended (.ok lease) → (s.pool k).nextNumber ≤ lease) :
    Acts x drained s (t.afterCheckout rounds k c entrypoint payload (w, p, standing)).1 := by
  have hsize : k < (t.after k w p).pools.size := h.size.symm ▸ hk
  have hpool : (t.after k w p).pool k = p := pool_after (size_after ▸ hsize)
  match standing with
  | .busy _ | .blocked _ => exact h
  | .ended (.error e) => exact h
  | .ended (.ok lease) =>
    have hfresh := hlease lease rfl
    have hnext : Acts x drained s
        ((t.after k w p).act k (.beginCall lease c entrypoint payload)) :=
      h.act hsize (fun hd => nomatch hd) fun m hm => by cases hm; exact .inr hfresh
    have hworld : (t.after k w p).world = w := rfl
    rw [Server.act, PoolAct.world, PoolAct.perform, hpool, hworld, after_after] at hnext
    rw [Server.afterCheckout]
    generalize p.beginCall w lease c entrypoint payload = turn at hnext
    obtain ⟨v, q, standing⟩ := turn
    exact hnext.afterCall hk (.inr hfresh)

theorem checkout_number {c : Context} {lease : Nat}
    (h : (p.checkout w c).2.2 = .ended (.ok lease)) : lease = p.nextNumber := by
  have hasks := Pool.checkout_asks w p c
  generalize p.checkout w c = r at hasks h
  cases hasks with
  | refused hc => cases h
  | interrupted ho hi => cases h
  | @obtained q ho hq => exact lend_number (p := { p with permits := q }) (Standing.ended.inj h)
  | blocked ho hf => cases h

theorem pollCheckout_number {ticket lease : Nat}
    (h : (p.pollCheckout w ticket).2.2 = .ended (.ok lease)) : lease = p.nextNumber := by
  have hlooks := Pool.pollCheckout_looks w p ticket
  generalize p.pollCheckout w ticket = r at hlooks h
  cases hlooks with
  | gone hx => cases h
  | refused hx hc => cases h
  | obtained hx ho hg =>
    exact lend_number (p := { p with permits := p.permits.remove ticket }) (Standing.ended.inj h)
  | interrupted hx ho hg hi => cases h
  | blocked hx ho hg hi => cases h

/-- **A request that begins acts on the pool of its module.** -/
theorem acts_checkout {c c' : Context} {entrypoint : String} {payload : Bytes}
    (hk : k < s.pools.size) :
    Acts none drained s (s.afterCheckout rounds k c' entrypoint payload
      ((s.pool k).checkout s.world c)).1 := by
  have hnext : Acts none drained s (s.act k (.checkout c)) :=
    Acts.refl.act hk (fun hd => nomatch hd) fun m hm => nomatch hm
  have hfresh : ∀ lease, ((s.pool k).checkout s.world c).2.2 = .ended (.ok lease) →
      (s.pool k).nextNumber ≤ lease := fun lease h => Nat.le_of_eq (checkout_number h).symm
  rw [Server.act, PoolAct.world, PoolAct.perform] at hnext
  generalize (s.pool k).checkout s.world c = turn at hnext hfresh
  obtain ⟨v, q, standing⟩ := turn
  exact hnext.afterCheckout hk hfresh

/-- **A request that goes on acts under its own number.** -/
theorem acts_proceed {x : ServerWork} (hx : x.At k) (hk : k < s.pools.size) :
    Acts (some x) drained s (s.proceed x).1 := by
  have hown {number : Nat} (h : x.number? k = some number) :
      (some x).bind (·.number? k) = some number ∨ (s.pool k).nextNumber ≤ number := .inl h
  cases x with
  | waiting pool ticket c entrypoint payload =>
    obtain rfl := hx
    have hnext : Acts (some _) drained s (s.act pool (.pollCheckout ticket)) :=
      Acts.refl.act hk (fun hd => by cases hd) fun m hm => by cases hm; exact hown (if_pos rfl)
    have hfresh : ∀ lease, ((s.pool pool).pollCheckout s.world ticket).2.2 = .ended (.ok lease) →
        (s.pool pool).nextNumber ≤ lease := fun lease h => Nat.le_of_eq (pollCheckout_number h).symm
    rw [Server.act, PoolAct.world, PoolAct.perform] at hnext
    rw [Server.proceed]
    generalize (s.pool pool).pollCheckout s.world ticket = turn at hnext hfresh
    obtain ⟨v, q, standing⟩ := turn
    exact hnext.afterCheckout hk hfresh
  | calling pool lease =>
    obtain rfl := hx
    have hnext : Acts (some _) drained s (s.act pool (.proceedCall quantum lease)) :=
      Acts.refl.act hk (fun hd => by cases hd) fun m hm => by cases hm; exact hown (if_pos rfl)
    rw [Server.act, PoolAct.world, PoolAct.perform] at hnext
    rw [Server.proceed]
    generalize (s.pool pool).proceedCall quantum s.world lease = turn at hnext
    obtain ⟨v, q, standing⟩ := turn
    exact hnext.afterCall hk (hown (if_pos rfl))
  | restoring pool number outcome =>
    obtain rfl := hx
    exact Acts.refl.restore hk (hown (if_pos rfl))
  | _ => exact hx.elim

/-! ### What is left of a request -/

theorem work?_answer (result : Call.Result) : (s.answer result).2.work? = none := by
  cases result <;> rfl

/-- A restoration that is not over goes on under its number. -/
theorem work?_restore {number : Nat} :
    ∀ y ∈ (s.restore rounds k number outcome).2.work?, y = .restoring k number outcome := by
  intro y hy
  have hturn := restore_givesBack s rounds k number outcome
  generalize s.restore rounds k number outcome = turn at hturn hy
  cases hturn with
  | goesOn hwork => exact Option.some.inj (hy.symm.trans hwork)
  | done => cases hy
  | answered result =>
    rw [work?_answer] at hy
    cases hy

theorem at_restore {number : Nat} :
    ∀ y ∈ (s.restore rounds k number outcome).2.work?, y.At k :=
  fun y hy => work?_restore y hy ▸ rfl

theorem at_afterCall {lease : Nat} {standing : Standing Unit Call.Result} :
    ∀ y ∈ (s.afterCall rounds k lease (w, p, standing)).2.work?, y.At k := by
  intro y hy
  match standing with
  | .busy _ | .blocked _ =>
    cases hy
    rfl
  | .ended result =>
    rcases afterCall_ended s lease result with hturn | ⟨number, -, hturn⟩
    · rw [hturn, work?_answer] at hy
      cases hy
    · rw [hturn] at hy
      exact at_restore y hy

theorem at_afterCheckout {c : Context} {entrypoint : String} {payload : Bytes}
    {standing : Standing Nat (Except HostError Nat)} :
    ∀ y ∈ (s.afterCheckout rounds k c entrypoint payload (w, p, standing)).2.work?, y.At k := by
  intro y hy
  match standing with
  | .busy _ | .blocked _ =>
    cases hy
    rfl
  | .ended (.error e) => cases hy
  | .ended (.ok lease) =>
    rw [afterCheckout] at hy
    generalize p.beginCall w lease c entrypoint payload = turn at hy
    obtain ⟨v, q, standing⟩ := turn
    exact at_afterCall y hy

/-- **A request stays one**, and with its pool, until it is over. -/
theorem at_proceed {x : ServerWork} (hx : x.At k) : ∀ y ∈ (s.proceed x).2.work?, y.At k := by
  cases x with
  | waiting pool ticket c entrypoint payload =>
    obtain rfl := hx
    exact at_afterCheckout
  | calling pool lease =>
    obtain rfl := hx
    exact at_afterCall
  | restoring pool number outcome =>
    obtain rfl := hx
    exact at_restore
  | _ => exact hx.elim

/-! ## Draining -/

/-- A look at a pool that is closed. -/
theorem act_drain (hc : (s.pool k).closed = true) (deadline : Option Nat) :
    s.act k (.drain deadline) = s.after k ((s.pool k).pollDrain s.world deadline).1
      ((s.pool k).pollDrain s.world deadline).2.1 := by
  rw [Server.act, PoolAct.world, PoolAct.perform, Pool.close_of_closed hc]

theorem Acts.drain (h : Acts x drained s t) (hk : k < s.pools.size)
    (hc : (t.pool k).closed = true) (hd : drained k) (deadline : Option Nat) :
    Acts x drained s (t.after k ((t.pool k).pollDrain t.world deadline).1
      ((t.pool k).pollDrain t.world deadline).2.1) := by
  rw [← act_drain hc]
  exact h.act (h.size.symm ▸ hk) (fun _ => hd) fun m hm => nomatch hm

theorem Acts.pollUnload (h : Acts x drained s t) (hk : k < s.pools.size)
    (hc : (t.pool k).closed = true) (hd : drained k) (deadline : Option Nat) :
    Acts x drained s (t.pollUnload k deadline).1 := by
  have hnext := h.drain hk hc hd deadline
  rw [Server.pollUnload]
  generalize (t.pool k).pollDrain t.world deadline = turn at hnext
  obtain ⟨v, q, outcome⟩ := turn
  cases outcome with
  | none => exact hnext
  | some outcome => exact hnext.report _

theorem Acts.pollDrains {drains : List Draining} (h : Acts x drained s t)
    (hd : ∀ d ∈ drains, d.pool < s.pools.size ∧ (t.pool d.pool).closed = true ∧ drained d.pool) :
    Acts x drained s (t.pollDrains drains).1 := by
  induction drains generalizing t with
  | nil => exact h
  | cons d drains ih =>
    obtain ⟨hk, hc, hdrained⟩ := hd d List.mem_cons_self
    have hnext := h.drain hk hc hdrained d.wait.deadline
    have hmore : Acts none drained t _ :=
      Acts.refl.drain (h.size.symm ▸ hk) hc hdrained d.wait.deadline
    rw [Server.pollDrains]
    generalize (t.pool d.pool).pollDrain t.world d.wait.deadline = turn at hnext hmore
    obtain ⟨v, q, outcome⟩ := turn
    have hrest := ih hnext fun e he =>
      ⟨(hd e (List.mem_cons_of_mem d he)).1,
        hmore.closed_of_closed (hd e (List.mem_cons_of_mem d he)).2.1,
        (hd e (List.mem_cons_of_mem d he)).2.2⟩
    cases outcome <;> exact hrest

theorem Acts.reportDrained (h : Acts x drained s t) (outcomes : List (String × DrainOutcome)) :
    Acts x drained s (outcomes.foldl Server.reportDrained t) := by
  induction outcomes generalizing t with
  | nil => exact h
  | cons d outcomes ih =>
    refine ih ?_
    obtain ⟨name, outcome⟩ := d
    rw [Server.reportDrained]
    split
    · exact h
    · exact h.report _

theorem Acts.pollClose {drains : List Draining} (h : Acts x drained s t)
    (hd : ∀ d ∈ drains, d.pool < s.pools.size ∧ (t.pool d.pool).closed = true ∧ drained d.pool) :
    Acts x drained s (t.pollClose drains).1 := by
  have hdrains := h.pollDrains hd
  unfold Server.pollClose
  generalize t.pollDrains drains = turn at hdrains
  obtain ⟨u, outcomes, waiting⟩ := turn
  dsimp only
  split
  · exact (hdrains.reportDrained outcomes).halt.report _
  · exact hdrains.reportDrained outcomes

theorem births_pollUnload {deadline : Option Nat} :
    ∀ y ∈ (s.pollUnload k deadline).2.work?, y.births = 0 := by
  intro y hy
  rw [pollUnload] at hy
  generalize (s.pool k).pollDrain s.world deadline = turn at hy
  obtain ⟨v, q, outcome⟩ := turn
  cases outcome with
  | none =>
    cases hy
    rfl
  | some outcome => cases hy

theorem births_pollClose {drains : List Draining} :
    ∀ y ∈ (s.pollClose drains).2.work?, y.births = 0 := by
  intro y hy
  unfold pollClose at hy
  generalize s.pollDrains drains = turn at hy
  obtain ⟨u, outcomes, waiting⟩ := turn
  dsimp only at hy
  split at hy
  · cases hy
  · cases hy
    rfl

/-- Closing some pools. -/
theorem acts_closePools {entries : List (String × Served)}
    (hentries : ∀ e ∈ entries, e.2.pool < s.pools.size) :
    Acts none (fun _ => True) s (entries.foldl (fun s e => s.closePool e.2.pool) s) ∧
      ∀ e ∈ entries,
        ((entries.foldl (fun s e => s.closePool e.2.pool) s).pool e.2.pool).closed = true := by
  suffices hall : ∀ t, Acts none (fun _ => True) s t →
      Acts none (fun _ => True) s (entries.foldl (fun s e => s.closePool e.2.pool) t) ∧
        (∀ n, (t.pool n).closed = true →
          ((entries.foldl (fun s e => s.closePool e.2.pool) t).pool n).closed = true) ∧
        ∀ e ∈ entries,
          ((entries.foldl (fun s e => s.closePool e.2.pool) t).pool e.2.pool).closed = true from
    ⟨(hall s .refl).1, (hall s .refl).2.2⟩
  induction entries with
  | nil => exact fun t h => ⟨h, fun _ hc => hc, fun _ he => nomatch he⟩
  | cons e entries ih =>
    intro t h
    have hk : e.2.pool < t.pools.size := h.size.symm ▸ hentries e List.mem_cons_self
    have hfirst : Acts none (fun _ => True) t (t.closePool e.2.pool) := Acts.refl.close hk trivial
    obtain ⟨hacts, hstays, hclosed⟩ :=
      ih (fun e' he => hentries e' (List.mem_cons_of_mem e he)) _ (h.close hk trivial)
    refine ⟨hacts, fun n hc => hstays n (hfirst.closed_of_closed hc), fun e' he => ?_⟩
    rcases List.mem_cons.mp he with rfl | he
    · exact hstays _ (congrArg Pool.closed (pool_after hk))
    · exact hclosed e' he

/-- **Work that does not load** makes no instances but for pools that are there. -/
theorem births_turn {x : ServerWork}
    (hload : ∀ plan, x ≠ .compiling plan) (hfill : ∀ name hash f, x ≠ .filling name hash f) :
    ∀ y ∈ (s.proceed x).2.work?, y.births = 0 := by
  have hrequest {k : Nat} (hx : x.At k) : ∀ y ∈ (s.proceed x).2.work?, y.births = 0 :=
    fun y hy => (at_proceed hx y hy).births
  cases x with
  | compiling plan => exact absurd rfl (hload plan)
  | filling name hash f => exact absurd rfl (hfill name hash f)
  | waiting pool ticket c entrypoint payload => exact hrequest (k := pool) rfl
  | calling pool lease => exact hrequest (k := pool) rfl
  | restoring pool number outcome => exact hrequest (k := pool) rfl
  | unloading pool wait => exact births_pollUnload
  | closing drains => exact births_pollClose

/-- **Work that goes on** acts under its own number and drains closed pools, unless it loads. -/
theorem acts_turn {x : ServerWork} (hx : x.Sound s)
    (hload : ∀ plan, x ≠ .compiling plan) (hfill : ∀ name hash f, x ≠ .filling name hash f) :
    Acts (some x) (fun n => (s.pool n).closed = true) s (s.proceed x).1 := by
  cases x with
  | compiling plan => exact absurd rfl (hload plan)
  | filling name hash f => exact absurd rfl (hfill name hash f)
  | waiting pool ticket c entrypoint payload => exact acts_proceed rfl hx
  | calling pool lease => exact acts_proceed rfl hx
  | restoring pool number outcome => exact acts_proceed rfl hx
  | unloading pool wait => exact Acts.refl.pollUnload hx.1 hx.2 hx.2 wait.deadline
  | closing drains =>
    exact Acts.refl.pollClose fun d hd => ⟨(hx d hd).1, (hx d hd).2, (hx d hd).2⟩

/-- **Work that is given up** acts under its own number, unless it loads; a lease that it held is
left to be restored. -/
theorem acts_drop {x : ServerWork} (hx : x.Sound s) (hfill : ∀ name hash f, x ≠ .filling name hash f) :
    ∃ t left, Acts (some x) (fun _ => False) s t ∧ s.drop x = { t with left := left } := by
  cases x with
  | filling name hash f => exact absurd rfl (hfill name hash f)
  | waiting pool ticket c entrypoint payload =>
    have hnext : Acts (some (.waiting pool ticket c entrypoint payload)) (fun _ => False) s
        (s.act pool (.leaveQueue ticket)) :=
      Acts.refl.act hx (fun hd => nomatch hd) fun m hm => by cases hm; exact .inl (if_pos rfl)
    exact ⟨_, s.left, hnext, rfl⟩
  | calling pool lease =>
    have hnext : Acts (some (.calling pool lease)) (fun _ => False) s
        (s.act pool (.abandon lease)) :=
      Acts.refl.act hx (fun hd => nomatch hd) fun m hm => by cases hm; exact .inl (if_pos rfl)
    exact ⟨_, _, hnext, rfl⟩
  | restoring pool number outcome =>
    have hnext : Acts (some (.restoring pool number outcome)) (fun _ => False) s
        (s.act pool (.dropRestoration number)) :=
      Acts.refl.act hx (fun hd => nomatch hd) fun m hm => by cases hm; exact .inl (if_pos rfl)
    exact ⟨_, s.left, hnext, rfl⟩
  | compiling plan => exact ⟨s, s.left, .refl, rfl⟩
  | unloading pool wait => exact ⟨s, s.left, .refl, rfl⟩
  | closing drains => exact ⟨s, s.left, .refl, rfl⟩

end Server
end FunctionHost

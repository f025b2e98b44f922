import FunctionHost.Proofs.Dictionary
import FunctionHost.Proofs.Pool.Custody
import FunctionHost.Server.Session

/-!
# Turns of a server

Whatever a server does in a turn, it does for one piece of work, and between two turns the work says
what it holds: a lease while an instance is called, a restoration while one is being given back,
nothing else.  `InOrder` says that all pools of a server are in the hands of its work (`InHands`),
and that is kept by whatever begins (`keeps_begin`) and by whatever goes on (`keeps_proceed`).
-/
namespace FunctionHost

variable {σ : Type}

/-! ## What work holds -/

namespace ServerWork

/-- The lease of a pool that some work holds. -/
def lease? (n : Nat) : ServerWork → Option Nat
  | .calling pool lease => if pool = n then some lease else none
  | _ => none

/-- The restoration of a pool that some work holds. -/
def restoration? (n : Nat) : ServerWork → Option Nat
  | .restoring pool number _ => if pool = n then some number else none
  | _ => none

/-- The leases of a pool that are held by some of much work. -/
def leases (n : Nat) (xs : List ServerWork) : List Nat := xs.filterMap (lease? n)

/-- The restorations of a pool that are held by some of much work. -/
def restorations (n : Nat) (xs : List ServerWork) : List Nat := xs.filterMap (restoration? n)

section

variable {n k : Nat} {x : ServerWork} {xs ys : List ServerWork}

theorem leases_append : leases n (xs ++ ys) = leases n xs ++ leases n ys := List.filterMap_append

/-- Work that holds nothing of a pool does not show. -/
theorem cons_of_none (h : x.lease? n = none ∧ x.restoration? n = none) :
    leases n (x :: xs) = leases n xs ∧ restorations n (x :: xs) = restorations n xs :=
  ⟨List.filterMap_cons_none h.1, List.filterMap_cons_none h.2⟩

@[simp] theorem leases_calling {lease : Nat} :
    leases n (.calling n lease :: xs) = lease :: leases n xs :=
  List.filterMap_cons_some (if_pos rfl)

@[simp] theorem restorations_calling {lease : Nat} :
    restorations n (.calling k lease :: xs) = restorations n xs :=
  List.filterMap_cons_none rfl

@[simp] theorem leases_restoring {number : Nat} {outcome : Option Call.Result} :
    leases n (.restoring k number outcome :: xs) = leases n xs :=
  List.filterMap_cons_none rfl

@[simp] theorem restorations_restoring {number : Nat} {outcome : Option Call.Result} :
    restorations n (.restoring n number outcome :: xs) = number :: restorations n xs :=
  List.filterMap_cons_some (if_pos rfl)

@[simp] theorem leases_waiting {ticket : Nat} {c : Context} {entrypoint : String}
    {payload : Bytes} :
    leases n (.waiting k ticket c entrypoint payload :: xs) = leases n xs :=
  List.filterMap_cons_none rfl

@[simp] theorem restorations_waiting {ticket : Nat} {c : Context} {entrypoint : String}
    {payload : Bytes} :
    restorations n (.waiting k ticket c entrypoint payload :: xs) = restorations n xs :=
  List.filterMap_cons_none rfl

end

/-- Whether some work is for a request, or for an instance, of a pool. -/
def At (n : Nat) : ServerWork → Prop
  | .waiting pool _ _ _ _ | .calling pool _ | .restoring pool _ _ => pool = n
  | _ => False

theorem At.of_mem_none {k : Nat} : ∀ z ∈ (none : Option ServerWork), z.At k :=
  fun _ hz => nomatch hz

theorem At.of_mem_some {k : Nat} {x : ServerWork} (h : x.At k) : ∀ z ∈ some x, z.At k := by
  rintro z ⟨⟩
  exact h

theorem At.none_of_ne {k n : Nat} {x : ServerWork} (h : x.At k) (hn : n ≠ k) :
    x.lease? n = none ∧ x.restoration? n = none := by
  cases x with
  | calling pool lease => exact ⟨if_neg (h ▸ hn.symm), rfl⟩
  | restoring pool number outcome => exact ⟨rfl, if_neg (h ▸ hn.symm)⟩
  | _ => exact ⟨rfl, rfl⟩

/-- What is known of some work of a server: the pool that it is about is there, is still to be
filled, or is closed for good. -/
def Sound (s : Server σ) : ServerWork → Prop
  | .compiling _ => True
  | .filling _ _ f => f.made.length < f.size
  | .waiting pool _ _ _ _ | .calling pool _ | .restoring pool _ _ => pool < s.pools.size
  | .unloading pool _ => pool < s.pools.size ∧ (s.pool pool).closed = true
  | .closing drains => ∀ d ∈ drains, d.pool < s.pools.size ∧ (s.pool d.pool).closed = true

theorem At.sound {s : Server σ} {x : ServerWork} {k : Nat} (h : x.At k) (hk : k < s.pools.size) :
    x.Sound s := by
  cases x <;> first | exact h.elim | exact h.symm ▸ hk

theorem Sound.none_of_le {s : Server σ} {x : ServerWork} {n : Nat} (h : x.Sound s)
    (hn : s.pools.size ≤ n) : x.lease? n = none ∧ x.restoration? n = none := by
  cases x with
  | calling pool lease => exact ⟨if_neg (Nat.ne_of_lt (Nat.lt_of_lt_of_le h hn)), rfl⟩
  | restoring pool number outcome =>
    exact ⟨rfl, if_neg (Nat.ne_of_lt (Nat.lt_of_lt_of_le h hn))⟩
  | _ => exact ⟨rfl, rfl⟩

end ServerWork

namespace Server

/-! ## Servers in order -/

/-- What may become of the pools of a server: there are more of them, and closed ones stay so. -/
structure Grows (s t : Server σ) : Prop where
  size : s.pools.size ≤ t.pools.size
  closed : ∀ n, n < s.pools.size → (s.pool n).closed = true → (t.pool n).closed = true

theorem Grows.sound {s t : Server σ} (h : Grows s t) {x : ServerWork} (hx : x.Sound s) :
    x.Sound t := by
  cases x with
  | compiling plan => trivial
  | filling name hash f => exact hx
  | unloading pool wait => exact ⟨Nat.lt_of_lt_of_le hx.1 h.size, h.closed _ hx.1 hx.2⟩
  | closing drains =>
    exact fun d hd =>
      ⟨Nat.lt_of_lt_of_le (hx d hd).1 h.size, h.closed _ (hx d hd).1 (hx d hd).2⟩
  | _ => exact Nat.lt_of_lt_of_le hx h.size

/-- **A server in order**: its pools are in the hands of its work, so many restorations of each
having been broken off.  What nobody has taken up is the same all the time. -/
structure InOrder (broken : Nat → Nat) (left : List (Nat × Nat)) (s : Server σ)
    (xs : List ServerWork) : Prop where
  hands : ∀ n, n < s.pools.size →
    (s.pool n).InHands (broken n) (ServerWork.leases n xs) (ServerWork.restorations n xs)
  works : ∀ x ∈ xs, x.Sound s
  registered : ∀ e ∈ s.registry.entries.entries, e.2.pool < s.pools.size
  unbroken : ∀ n, s.pools.size ≤ n → broken n = 0
  left : s.left = left

variable {broken : Nat → Nat} {left : List (Nat × Nat)} {s t : Server σ} {xs ys : List ServerWork}
  {w : World σ} {p : Pool} {k : Nat}

theorem pool_after (hk : k < s.pools.size) : (s.after k w p).pool k = p := by
  simp [pool, after, hk]

theorem pool_after_ne {n : Nat} (hn : n ≠ k) : (s.after k w p).pool n = s.pool n := by
  simp [pool, after, Array.getD_eq_getD_getElem?, Array.getElem?_setIfInBounds_ne hn.symm]

@[simp] theorem size_after : (s.after k w p).pools.size = s.pools.size :=
  Array.size_setIfInBounds

theorem after_after {v : World σ} {q : Pool} : (s.after k v q).after k w p = s.after k w p := by
  simp [after]

theorem grows_after (hk : k < s.pools.size) (hclosed : (s.pool k).closed = true → p.closed = true) :
    Grows s (s.after k w p) := by
  refine ⟨Nat.le_of_eq size_after.symm, fun n hn hc => ?_⟩
  by_cases hnk : n = k
  · subst hnk
    rw [pool_after hn]
    exact hclosed hc
  · rw [pool_after_ne hnk]
    exact hc

namespace InOrder

/-- Nothing is held of a pool that is not there. -/
theorem nothing_of_le (h : InOrder broken left s xs) {n : Nat} (hn : s.pools.size ≤ n) :
    ServerWork.leases n xs = [] ∧ ServerWork.restorations n xs = [] :=
  ⟨List.filterMap_eq_nil_iff.mpr fun x hx => ((h.works x hx).none_of_le hn).1,
    List.filterMap_eq_nil_iff.mpr fun x hx => ((h.works x hx).none_of_le hn).2⟩

/-- What does not touch the pools keeps a server in order. -/
theorem transfer (h : InOrder broken left s xs) (hp : t.pools = s.pools) (hl : t.left = s.left)
    (hr : ∀ e ∈ t.registry.entries.entries, e ∈ s.registry.entries.entries) :
    InOrder broken left t xs := by
  have hpool (n : Nat) : t.pool n = s.pool n := by rw [pool, pool, hp]
  have hgrows : Grows s t := ⟨Nat.le_of_eq (by rw [hp]), fun n _ hc => hpool n ▸ hc⟩
  refine ⟨fun n hn => ?_, fun x hx => hgrows.sound (h.works x hx), fun e he => ?_, fun n hn => ?_,
    hl.trans h.left⟩
  · rw [hpool]
    exact h.hands n (hp ▸ hn)
  · rw [hp]
    exact h.registered e (hr e he)
  · exact h.unbroken n (hp ▸ hn)

theorem world (h : InOrder broken left s xs) (w : World σ) :
    InOrder broken left { s with world := w } xs :=
  h.transfer rfl rfl fun _ he => he

theorem report (h : InOrder broken left s xs) (e : Event) : InOrder broken left (s.report e) xs :=
  h.world _

/-- The order of the work does not matter. -/
theorem perm (h : InOrder broken left s xs) (hp : xs.Perm ys) : InOrder broken left s ys :=
  ⟨fun n hn => (h.hands n hn).perm (hp.filterMap _) (hp.filterMap _),
    fun x hx => h.works x (hp.mem_iff.mpr hx), h.registered, h.unbroken, h.left⟩

/-- Work that holds nothing may be added. -/
theorem cons {x : ServerWork} (h : InOrder broken left s xs) (hx : x.Sound s)
    (hnone : ∀ n, x.lease? n = none ∧ x.restoration? n = none) :
    InOrder broken left s (x :: xs) := by
  refine ⟨fun n hn => ?_, fun y hy => ?_, h.registered, h.unbroken, h.left⟩
  · rw [(ServerWork.cons_of_none (hnone n)).1, (ServerWork.cons_of_none (hnone n)).2]
    exact h.hands n hn
  · rcases List.mem_cons.mp hy with rfl | hy
    · exact hx
    · exact h.works y hy

/-- Work that holds nothing may be given up. -/
theorem tail {x : ServerWork} (h : InOrder broken left s (x :: xs))
    (hnone : ∀ n, x.lease? n = none ∧ x.restoration? n = none) : InOrder broken left s xs := by
  refine ⟨fun n hn => ?_, fun y hy => h.works y (List.mem_cons_of_mem x hy), h.registered,
    h.unbroken, h.left⟩
  have hands := h.hands n hn
  rw [(ServerWork.cons_of_none (hnone n)).1, (ServerWork.cons_of_none (hnone n)).2] at hands
  exact hands

/-- A pool that is not there is in nobody's hands. -/
theorem hands_all (h : InOrder broken left s xs) (n : Nat) :
    (s.pool n).InHands (broken n) (ServerWork.leases n xs) (ServerWork.restorations n xs) := by
  rcases Nat.lt_or_ge n s.pools.size with hn | hn
  · exact h.hands n hn
  · have hnothing := h.nothing_of_le hn
    have hpool : s.pool n = Filling.pool default [] := by
      simp [pool, Array.getD_eq_getD_getElem?, hn]
      rfl
    rw [hnothing.1, hnothing.2, h.unbroken n hn, hpool]
    exact Pool.inHands_pool rfl

/-- What nobody has taken up is not looked at. -/
theorem withLeft (h : InOrder broken left s xs) (left' : List (Nat × Nat)) :
    InOrder broken left' { s with left := left' } xs :=
  ⟨h.hands, h.works, h.registered, h.unbroken, rfl⟩

/-- **A turn on one pool** keeps a server in order if the pool is in the hands of the work that is
there afterwards, be it that restorations of it are broken off. -/
theorem exchange_broken {broken' : Nat → Nat} {x y : Option ServerWork}
    (h : InOrder broken left s (x.toList ++ xs)) (hk : k < s.pools.size)
    (hb : ∀ n, n ≠ k → broken' n = broken n) (hx : ∀ z ∈ x, z.At k) (hy : ∀ z ∈ y, z.At k)
    (hclosed : (s.pool k).closed = true → p.closed = true)
    (hands : p.InHands (broken' k) (ServerWork.leases k (y.toList ++ xs))
      (ServerWork.restorations k (y.toList ++ xs))) :
    InOrder broken' left (s.after k w p) (y.toList ++ xs) := by
  have hgrows : Grows s (s.after k w p) := grows_after hk hclosed
  -- Of other pools neither the old work nor the new one holds anything.
  have hnothing {n : Nat} (hnk : n ≠ k) {u : Option ServerWork} (hu : ∀ z ∈ u, z.At k) :
      ServerWork.leases n (u.toList ++ xs) = ServerWork.leases n xs ∧
        ServerWork.restorations n (u.toList ++ xs) = ServerWork.restorations n xs := by
    cases u with
    | none => exact ⟨rfl, rfl⟩
    | some z => exact ServerWork.cons_of_none ((hu z rfl).none_of_ne hnk)
  refine ⟨fun n hn => ?_, fun z hmem => ?_, ?_, fun n hn => ?_, h.left⟩
  · rw [size_after] at hn
    by_cases hnk : n = k
    · subst hnk
      rw [pool_after hn]
      exact hands
    · have hold := h.hands n hn
      rw [(hnothing hnk hx).1, (hnothing hnk hx).2] at hold
      rw [pool_after_ne hnk, (hnothing hnk hy).1, (hnothing hnk hy).2, hb n hnk]
      exact hold
  · rcases List.mem_append.mp hmem with hmem | hmem
    · exact (hy z (Option.mem_toList.mp hmem)).sound (size_after.symm ▸ hk)
    · exact hgrows.sound (h.works z (List.mem_append_right _ hmem))
  · rw [size_after]
    exact h.registered
  · rw [size_after] at hn
    rw [hb n (Nat.ne_of_gt (Nat.lt_of_lt_of_le hk hn))]
    exact h.unbroken n hn

theorem exchange {x y : Option ServerWork} (h : InOrder broken left s (x.toList ++ xs))
    (hk : k < s.pools.size) (hx : ∀ z ∈ x, z.At k) (hy : ∀ z ∈ y, z.At k)
    (hclosed : (s.pool k).closed = true → p.closed = true)
    (hands : p.InHands (broken k) (ServerWork.leases k (y.toList ++ xs))
      (ServerWork.restorations k (y.toList ++ xs))) :
    InOrder broken left (s.after k w p) (y.toList ++ xs) :=
  h.exchange_broken hk (fun _ _ => rfl) hx hy hclosed hands

end InOrder

/-- **A turn that keeps a server in order**, with what is left to do. -/
def Keeps (broken : Nat → Nat) (left : List (Nat × Nat)) (xs : List ServerWork) (t : Turn σ) :
    Prop :=
  InOrder broken left t.1 (t.2.work?.toList ++ xs)

variable {rounds : Nat} {outcome : Option Call.Result}

/-! ## Restoring -/

theorem keeps_answer (h : InOrder broken left s xs) (result : Call.Result) :
    Keeps broken left xs (s.answer result) := by
  cases result with
  | ok bytes => exact h.report _
  | error e => exact h.report _

/-- What a restoration does to a closed pool leaves it closed. -/
theorem closed_perform {a : PoolAct} (hc : p.closed = true) : (a.perform w p).closed = true :=
  (Pool.perform_moves w p a).closed_of_closed hc

theorem keeps_restore {number : Nat}
    (h : InOrder broken left s (.restoring k number outcome :: xs)) :
    Keeps broken left xs (s.restore rounds k number outcome) := by
  have hk : k < s.pools.size := h.works _ List.mem_cons_self
  have hands := h.hands k hk
  simp only [ServerWork.leases_restoring, ServerWork.restorations_restoring] at hands
  have hnext := hands.proceedRestoration rounds s.world
  have hclosed := closed_perform (w := s.world) (p := s.pool k)
    (a := .proceedRestoration rounds number)
  rw [PoolAct.perform] at hclosed
  rw [restore]
  generalize (s.pool k).proceedRestoration rounds s.world number = turn at hnext hclosed
  obtain ⟨v, q, standing⟩ := turn
  have hx : ∀ z ∈ some (ServerWork.restoring k number outcome), z.At k :=
    ServerWork.At.of_mem_some rfl
  -- A restoration that is not over keeps its number.
  have hbusy (hq : q.InHands (broken k) (ServerWork.leases k xs)
      (number :: ServerWork.restorations k xs)) :
      InOrder broken left (s.after k v q) (.restoring k number outcome :: xs) :=
    h.exchange (x := some _) (y := some _) hk hx hx hclosed (by simpa using hq)
  cases standing with
  | busy _ => exact hbusy hnext
  | blocked _ => exact hbusy hnext
  | ended result =>
    have hdone : InOrder broken left (s.after k v q) xs :=
      h.exchange (x := some _) (y := none) hk hx ServerWork.At.of_mem_none hclosed hnext
    cases outcome with
    | none => exact hdone
    | some result => exact keeps_answer hdone result

/-! ## Calling -/

/-- **A call that is over is followed by a restoration.** -/
theorem keeps_afterCall {lease : Nat} {standing : Standing Unit Call.Result}
    (h : InOrder broken left (s.after k w p) (.calling k lease :: xs)) :
    Keeps broken left xs (s.afterCall rounds k lease (w, p, standing)) := by
  cases standing with
  | busy _ => exact h
  | blocked _ => exact h
  | ended result =>
    have hsize : k < (s.after k w p).pools.size := h.works _ List.mem_cons_self
    have hk : k < s.pools.size := size_after ▸ hsize
    have hands := h.hands k hsize
    simp only [pool_after hk, ServerWork.leases_calling, ServerWork.restorations_calling] at hands
    obtain ⟨q, number, hrelease, hq⟩ := hands.release
    have hclosed := closed_perform (w := w) (p := p) (a := .release lease)
    rw [PoolAct.perform, hrelease] at hclosed
    rw [afterCall, hrelease]
    refine keeps_restore ?_
    have hx : ∀ z ∈ some (ServerWork.calling k lease), z.At k :=
      ServerWork.At.of_mem_some rfl
    have hy : ∀ z ∈ some (ServerWork.restoring k number (some result)), z.At k :=
      ServerWork.At.of_mem_some rfl
    have hnext := h.exchange (x := some _) (y := some _) (w := w) hsize hx hy
      (fun hc => hclosed ((congrArg Pool.closed (pool_after hk)).symm.trans hc)) (by simpa using hq)
    rw [after_after] at hnext
    exact hnext

/-- The lease that a look at a wait gave out, if it did. -/
def obtained (standing : Standing Nat (Except HostError Nat)) : Option Nat :=
  standing.result?.bind Except.toOption

/-- **A wait that is over is followed by a call.** -/
theorem keeps_afterCheckout {x : Option ServerWork} {c : Context} {entrypoint : String}
    {payload : Bytes} {standing : Standing Nat (Except HostError Nat)}
    (h : InOrder broken left s (x.toList ++ xs)) (hk : k < s.pools.size) (hx : ∀ z ∈ x, z.At k)
    (hclosed : (s.pool k).closed = true → p.closed = true)
    (hands : p.InHands (broken k) ((obtained standing).toList ++ ServerWork.leases k xs)
      (ServerWork.restorations k xs)) :
    Keeps broken left xs (s.afterCheckout rounds k c entrypoint payload (w, p, standing)) := by
  have hwaiting (ticket : Nat) (hq : p.InHands (broken k) (ServerWork.leases k xs)
      (ServerWork.restorations k xs)) :
      InOrder broken left (s.after k w p) (.waiting k ticket c entrypoint payload :: xs) := by
    have hy : ∀ z ∈ some (ServerWork.waiting k ticket c entrypoint payload), z.At k :=
      ServerWork.At.of_mem_some rfl
    exact h.exchange (y := some _) hk hx hy hclosed (by simpa using hq)
  match standing with
  | .busy ticket => exact hwaiting ticket hands
  | .blocked ticket => exact hwaiting ticket hands
  | .ended (.error e) =>
    exact h.exchange (y := none) hk hx ServerWork.At.of_mem_none hclosed hands
  | .ended (.ok lease) =>
    have hnext : (p.beginCall w lease c entrypoint payload).2.1.InHands (broken k)
        (lease :: ServerWork.leases k xs) (ServerWork.restorations k xs) :=
      Pool.InHands.beginCall hands w lease c entrypoint payload
    have hstays := closed_perform (w := w) (p := p) (a := .beginCall lease c entrypoint payload)
    rw [PoolAct.perform] at hstays
    rw [afterCheckout]
    generalize p.beginCall w lease c entrypoint payload = turn at hnext hstays
    obtain ⟨v, q, standing⟩ := turn
    have hy : ∀ z ∈ some (ServerWork.calling k lease), z.At k :=
      ServerWork.At.of_mem_some rfl
    exact keeps_afterCall (h.exchange (y := some _) hk hx hy (fun hc => hstays (hclosed hc))
      (by simpa using hnext))

/-- **A request that begins.** -/
theorem keeps_execute (h : InOrder broken left s xs) (name entrypoint : String) (payload : Bytes)
    (c : Context) : Keeps broken left xs (s.execute rounds name entrypoint payload c) := by
  unfold execute
  split
  · exact h
  · exact h
  · rename_i served _ hget
    have hk : served.pool < s.pools.size := by
      unfold Registry.get at hget
      split at hget
      · cases hget
      · split at hget
        · rename_i hfound
          cases hget
          obtain ⟨e, he, rfl⟩ := Dictionary.mem_of_find? hfound
          exact h.registered e he
        · cases hget
    exact keeps_afterCheckout (x := none) h hk ServerWork.At.of_mem_none
      (closed_perform (a := .checkout _)) ((h.hands _ hk).checkout s.world _)

/-! ## Loading -/

/-- **A new pool is in nobody's hands.** -/
theorem keeps_publish (h : InOrder broken left s xs) (name hash : String)
    (hp : p.InHands 0 [] []) : Keeps broken left xs (s.publish name hash p) := by
  rw [publish]
  split
  · rename_i registry hpublish
    let t : Server σ := { s with registry := registry, pools := s.pools.push p }
    have hsize : t.pools.size = s.pools.size + 1 := Array.size_push p
    have hold (n : Nat) (hn : n < s.pools.size) : t.pool n = s.pool n := by
      simp [t, pool, Array.getD_eq_getD_getElem?, Array.getElem?_push_lt, hn]
    have hnew : t.pool s.pools.size = p := by
      simp [t, pool, Array.getD_eq_getD_getElem?]
    have hgrows : Grows s t :=
      ⟨hsize ▸ Nat.le_succ _, fun n hn hc => (congrArg Pool.closed (hold n hn)).trans hc⟩
    have hnothing := h.nothing_of_le (Nat.le_refl s.pools.size)
    -- No work is about the new pool yet, for all of it is about pools that were there.
    have ht : InOrder broken left t xs := by
      refine ⟨fun n hn => ?_, fun x hx => hgrows.sound (h.works x hx), fun e he => ?_,
        fun n hn => ?_, h.left⟩
      · rcases Nat.lt_succ_iff_lt_or_eq.mp (hsize ▸ hn) with hn | rfl
        · rw [hold n hn]
          exact h.hands n hn
        · rw [hnew, hnothing.1, hnothing.2, h.unbroken _ (Nat.le_refl _)]
          exact hp
      · unfold Registry.publish at hpublish
        split at hpublish
        · cases hpublish
          rw [hsize]
          rcases Dictionary.mem_insertEntry he with rfl | he
          · exact Nat.lt_succ_self _
          · exact Nat.lt_succ_of_lt (h.registered e he)
        · cases hpublish
      · exact h.unbroken n (by omega)
    exact ht.report _
  · exact h.world _

/-- **What follows a turn of filling a pool**: the module is published once its pool is full. -/
theorem keeps_afterFilling (h : InOrder broken left s xs) (name hash : String)
    {standing : Standing Filling Filling.Result} (hf : Filling.Fine standing) :
    Keeps broken left xs (s.afterFilling name hash (w, standing)) := by
  have hbusy {f : Filling} (hf : f.made.length < f.size) :
      InOrder broken left { s with world := w } (.filling name hash f :: xs) :=
    (h.world w).cons hf fun _ => ⟨rfl, rfl⟩
  match standing with
  | .busy f => exact hbusy hf
  | .blocked f => exact hbusy hf
  | .ended (.error e) => exact h.world w
  | .ended (.ok p) => exact keeps_publish (h.world w) name hash hf

theorem keeps_fill (h : InOrder broken left s xs) (plan : LoadPlan) :
    Keeps broken left xs (s.fill plan) := by
  unfold fill
  split
  · exact h.world _
  · exact keeps_afterFilling h plan.name _ (Filling.fine_begin ..)

theorem keeps_load (h : InOrder broken left s xs) (plan : LoadPlan) :
    Keeps broken left xs (s.load plan) := by
  unfold load
  split
  · exact h
  · exact h
  · exact h
  · exact h.cons trivial fun _ => ⟨rfl, rfl⟩

/-! ## Closing pools -/

/-- A pool is closed. -/
theorem InOrder.close (h : InOrder broken left s xs) (hk : k < s.pools.size) (w : World σ) :
    InOrder broken left (s.after k w (s.pool k).close) xs :=
  h.exchange (x := none) (y := none) hk ServerWork.At.of_mem_none ServerWork.At.of_mem_none
    (fun _ => rfl) (h.hands k hk).close

theorem closed_pollDrain (hc : p.closed = true) (w : World σ) (deadline : Option Nat) :
    (p.pollDrain w deadline).2.1.closed = true := by
  unfold Pool.pollDrain
  split <;> exact hc

/-- A look at a pool that is being drained. -/
theorem InOrder.drain (h : InOrder broken left s xs) (hk : k < s.pools.size)
    (hc : (s.pool k).closed = true) (v w : World σ) (deadline : Option Nat) :
    InOrder broken left (s.after k v ((s.pool k).pollDrain w deadline).2.1) xs :=
  h.exchange (x := none) (y := none) hk ServerWork.At.of_mem_none ServerWork.At.of_mem_none
    (fun _ => closed_pollDrain hc w deadline) ((h.hands k hk).pollDrain hc w deadline)

theorem keeps_pollUnload (h : InOrder broken left s xs) (hk : k < s.pools.size)
    (hc : (s.pool k).closed = true) (deadline : Option Nat) :
    Keeps broken left xs (s.pollUnload k deadline) := by
  have hnext := fun v => h.drain hk hc v s.world deadline
  have hcloses := closed_pollDrain hc s.world deadline
  rw [pollUnload]
  generalize (s.pool k).pollDrain s.world deadline = turn at hnext hcloses
  obtain ⟨v, q, outcome⟩ := turn
  cases outcome with
  | none =>
    have hsound : (ServerWork.unloading k (q.await deadline)).Sound (s.after k v q) :=
      ⟨size_after.symm ▸ hk, (congrArg Pool.closed (pool_after hk)).trans hcloses⟩
    exact (hnext v).cons hsound fun _ => ⟨rfl, rfl⟩
  | some outcome => exact (hnext v).report _

theorem keeps_unload (h : InOrder broken left s xs) (name : String) :
    Keeps broken left xs (s.unload name) := by
  unfold unload
  split
  · exact h
  · rename_i registry served hremove
    obtain ⟨rfl, hfound⟩ := Prod.mk.inj hremove
    obtain ⟨e, he, rfl⟩ := Dictionary.mem_of_find? hfound
    have hk := h.registered e he
    let t : Server σ :=
      { s with registry := { s.registry with entries := s.registry.entries.erase name } }
    have ht : InOrder broken left t xs :=
      h.transfer rfl rfl fun _ he => (List.mem_filter.mp he).1
    have hclosed :
        ((t.after e.2.pool s.world (t.pool e.2.pool).close).pool e.2.pool).closed = true :=
      congrArg Pool.closed (pool_after (s := t) (w := s.world) hk)
    exact keeps_pollUnload (ht.close hk s.world) (size_after.symm ▸ hk) hclosed _

/-- **A look at all pools that are being drained.** -/
theorem pollDrains_inOrder (h : InOrder broken left s xs) {drains : List Draining}
    (hd : ∀ d ∈ drains, d.pool < s.pools.size ∧ (s.pool d.pool).closed = true) :
    InOrder broken left (s.pollDrains drains).1 xs ∧ Grows s (s.pollDrains drains).1 ∧
      ∀ d ∈ (s.pollDrains drains).2.2, ∃ e ∈ drains, e.pool = d.pool := by
  induction drains generalizing s with
  | nil => exact ⟨h, ⟨Nat.le_refl _, fun _ _ hc => hc⟩, fun _ hd => nomatch hd⟩
  | cons d drains ih =>
    obtain ⟨hk, hc⟩ := hd d List.mem_cons_self
    have hnext := fun v => h.drain hk hc v s.world d.wait.deadline
    have hcloses := closed_pollDrain hc s.world d.wait.deadline
    rw [pollDrains]
    generalize (s.pool d.pool).pollDrain s.world d.wait.deadline = turn at hnext hcloses
    obtain ⟨v, q, outcome⟩ := turn
    have hgrows : Grows s (s.after d.pool v q) := grows_after hk fun _ => hcloses
    obtain ⟨horder, hmore, hsub⟩ := ih (hnext v) fun e he =>
      ⟨Nat.lt_of_lt_of_le (hd e (List.mem_cons_of_mem d he)).1 hgrows.size,
        hgrows.closed _ (hd e (List.mem_cons_of_mem d he)).1 (hd e (List.mem_cons_of_mem d he)).2⟩
    have hall : Grows s ((s.after d.pool v q).pollDrains drains).1 :=
      ⟨Nat.le_trans hgrows.size hmore.size, fun n hn hc =>
        hmore.closed n (Nat.lt_of_lt_of_le hn hgrows.size) (hgrows.closed n hn hc)⟩
    have hrest : ∀ e ∈ ((s.after d.pool v q).pollDrains drains).2.2,
        ∃ e' ∈ d :: drains, e'.pool = e.pool := fun e he =>
      (hsub e he).imp fun _ he' => ⟨List.mem_cons_of_mem d he'.1, he'.2⟩
    cases outcome with
    | none =>
      refine ⟨horder, hall, fun e he => ?_⟩
      rcases List.mem_cons.mp he with rfl | he
      · exact ⟨d, List.mem_cons_self, rfl⟩
      · exact hrest e he
    | some outcome => exact ⟨horder, hall, hrest⟩

theorem foldl_reportDrained_inOrder (drained : List (String × DrainOutcome))
    (h : InOrder broken left s xs) :
    InOrder broken left (drained.foldl reportDrained s) xs ∧
      (drained.foldl reportDrained s).pools = s.pools := by
  induction drained generalizing s with
  | nil => exact ⟨h, rfl⟩
  | cons d drained ih =>
    have hd : InOrder broken left (s.reportDrained d) xs ∧ (s.reportDrained d).pools = s.pools := by
      obtain ⟨name, outcome⟩ := d
      simp only [reportDrained]
      split
      · exact ⟨h, rfl⟩
      · exact ⟨h.report _, rfl⟩
    exact ⟨(ih hd.1).1, (ih hd.1).2.trans hd.2⟩

theorem keeps_pollClose (h : InOrder broken left s xs) {drains : List Draining}
    (hd : ∀ d ∈ drains, d.pool < s.pools.size ∧ (s.pool d.pool).closed = true) :
    Keeps broken left xs (s.pollClose drains) := by
  obtain ⟨horder, hgrows, hsub⟩ := pollDrains_inOrder h hd
  unfold pollClose
  generalize s.pollDrains drains = turn at horder hgrows hsub
  obtain ⟨t, drained, waiting⟩ := turn
  obtain ⟨hreported, hpools⟩ := foldl_reportDrained_inOrder drained horder
  dsimp only
  split
  · exact (hreported.transfer (t := { drained.foldl reportDrained t with ticking := false })
      rfl rfl fun _ he => he).report _
  · refine hreported.cons (fun d hmem => ?_) fun _ => ⟨rfl, rfl⟩
    obtain ⟨e, he, hpool⟩ := hsub d hmem
    obtain ⟨hk, hc⟩ := hd e he
    rw [hpool] at hk hc
    rw [pool, hpools]
    exact ⟨Nat.lt_of_lt_of_le hk hgrows.size, hgrows.closed _ hk hc⟩

theorem foldl_closePool_inOrder (h : InOrder broken left s xs) {entries : List (String × Served)}
    (hentries : ∀ e ∈ entries, e.2.pool < s.pools.size) :
    InOrder broken left (entries.foldl (fun s e => s.closePool e.2.pool) s) xs ∧
      Grows s (entries.foldl (fun s e => s.closePool e.2.pool) s) ∧
      ∀ e ∈ entries,
        ((entries.foldl (fun s e => s.closePool e.2.pool) s).pool e.2.pool).closed = true := by
  induction entries generalizing s with
  | nil => exact ⟨h, ⟨Nat.le_refl _, fun _ _ hc => hc⟩, fun _ he => nomatch he⟩
  | cons e entries ih =>
    have hk := hentries e List.mem_cons_self
    have hgrows : Grows s (s.closePool e.2.pool) := grows_after hk fun _ => rfl
    have hclosed : ((s.closePool e.2.pool).pool e.2.pool).closed = true :=
      congrArg Pool.closed (pool_after hk)
    obtain ⟨horder, hmore, hall⟩ := ih (h.close hk s.world) fun e' he =>
      Nat.lt_of_lt_of_le (hentries e' (List.mem_cons_of_mem e he)) hgrows.size
    refine ⟨horder, ⟨Nat.le_trans hgrows.size hmore.size, fun n hn hc =>
      hmore.closed n (Nat.lt_of_lt_of_le hn hgrows.size) (hgrows.closed n hn hc)⟩, fun e' he => ?_⟩
    rcases List.mem_cons.mp he with rfl | he
    · exact hmore.closed _ (Nat.lt_of_lt_of_le hk hgrows.size) hclosed
    · exact hall e' he

theorem keeps_shutDown (h : InOrder broken left s xs) : Keeps broken left xs s.shutDown := by
  unfold shutDown
  split
  · exact h.report _
  · dsimp only
    -- Closing leaves an empty registry and hands out what was in it, once.
    have hregistry : (∀ e ∈ s.registry.close.1.entries.entries, e ∈ s.registry.entries.entries) ∧
        ∀ e ∈ s.registry.close.2.getD [], e ∈ s.registry.entries.entries := by
      unfold Registry.close
      split
      · exact ⟨fun _ he => he, fun _ he => nomatch he⟩
      · exact ⟨(fun _ he => nomatch he), fun _ he => he⟩
    have hshut := (h.transfer (t := { s with closed := true, registry := s.registry.close.1 })
      rfl rfl hregistry.1).report
        (event .info "Shutting down" [("modules", .number (s.registry.close.2.getD []).length)])
    obtain ⟨horder, hgrows, hclosed⟩ := foldl_closePool_inOrder hshut
      fun e he => h.registered e (hregistry.2 e he)
    refine keeps_pollClose horder fun d hd => ?_
    obtain ⟨e, he, rfl⟩ := List.mem_map.mp hd
    exact ⟨Nat.lt_of_lt_of_le (h.registered e (hregistry.2 e he)) hgrows.size, hclosed e he⟩

/-! ## All turns -/

/-- **Whatever begins keeps a server in order.** -/
theorem keeps_begin (h : InOrder broken left s xs) (c : Context) (command : ServerCommand) :
    Keeps broken left xs (s.begin c command) := by
  cases command with
  | load plan => exact keeps_load h plan
  | execute name entrypoint payload => exact keeps_execute h name entrypoint payload c
  | unload name => exact keeps_unload h name
  | shutDown => exact keeps_shutDown h
  | tick count => exact h.world _

/-- **Whatever goes on keeps a server in order.** -/
theorem keeps_proceed {x : ServerWork} (h : InOrder broken left s (x :: xs)) :
    Keeps broken left xs (s.proceed x) := by
  have hx := h.works x List.mem_cons_self
  cases x with
  | compiling plan => exact keeps_fill (h.tail fun _ => ⟨rfl, rfl⟩) plan
  | filling name hash f =>
    exact keeps_afterFilling (h.tail fun _ => ⟨rfl, rfl⟩) name hash (Filling.fine_proceed _ _ hx)
  | waiting k ticket c entrypoint payload =>
    have hat : ∀ z ∈ some (ServerWork.waiting k ticket c entrypoint payload), z.At k :=
      ServerWork.At.of_mem_some rfl
    have hands := h.hands k hx
    simp only [ServerWork.leases_waiting, ServerWork.restorations_waiting] at hands
    exact keeps_afterCheckout (x := some _) h hx hat (closed_perform (a := .pollCheckout ticket))
      (hands.pollCheckout s.world ticket)
  | calling k lease =>
    have hat : ∀ z ∈ some (ServerWork.calling k lease), z.At k :=
      ServerWork.At.of_mem_some rfl
    have hands := h.hands k hx
    have hnext := hands.proceedCall quantum s.world lease
    have hclosed := closed_perform (w := s.world) (p := s.pool k) (a := .proceedCall quantum lease)
    rw [PoolAct.perform] at hclosed
    rw [proceed]
    generalize (s.pool k).proceedCall quantum s.world lease = turn at hnext hclosed
    obtain ⟨v, q, standing⟩ := turn
    exact keeps_afterCall (h.exchange (x := some _) (y := some _) hx hat hat hclosed hnext)
  | restoring k number outcome => exact keeps_restore h
  | unloading k wait =>
    exact keeps_pollUnload (h.tail fun _ => ⟨rfl, rfl⟩) hx.1 hx.2 wait.deadline
  | closing drains => exact keeps_pollClose (h.tail fun _ => ⟨rfl, rfl⟩) hx

end Server
end FunctionHost

import FunctionHost.Proofs.Server.Requests
import FunctionHost.Proofs.Server.Running

/-!
# Requests that may be made again

A request has its turns between those of anybody else, so each of them may find the server in any
state.  Once it has an instance, its answer is that of a call: it never reads as if the request came
too late, too early or to the wrong place (`Spent`).  Until then it stands in a queue, and its turns
change nothing but its own place there and the journal (`Server.Unmarked`).

So an answer that may be retried, that tells of something closed or of a module that is not there
means that nothing was run (`Request.refused_without_trace`): whoever makes the request again has no
effect twice.
-/
namespace FunctionHost

variable {σ : Type}

/-! ## Queues -/

/-- **What becomes of a queue** of which somebody looks after their own place. -/
inductive Permits.Queues (p : Permits) : Permits → Prop
  | stays : Queues p p
  | joins (x : Waiter) : Queues p (p.enqueue x)
  | leaves (x : Waiter) : Queues p (p.withdraw x)

/-- **What a turn leaves behind** that runs nothing and takes nothing: the queues of pools, and a
line in the journal. -/
structure Server.Unmarked (s t : Server σ) : Prop where
  world : ∃ journal, t.world = { s.world with journal := journal }
  pools : ∀ n, ∃ permits number, (s.pool n).permits.Queues permits ∧
    t.pool n = { s.pool n with permits := permits, nextNumber := number }
  rest : t.registry = s.registry ∧ t.closed = s.closed ∧ t.left = s.left ∧
    t.pools.size = s.pools.size

namespace Server

variable {s : Server σ} {w : World σ} {p : Pool} {k rounds : Nat}

theorem Unmarked.refl (s : Server σ) : s.Unmarked s :=
  ⟨⟨_, rfl⟩, fun _ => ⟨_, _, .stays, rfl⟩, rfl, rfl, rfl, rfl⟩

/-- A pool of which only the queue changes. -/
theorem Unmarked.after {permits : Permits} {number : Nat}
    (hw : ∃ journal, w = { s.world with journal := journal })
    (hp : (s.pool k).permits.Queues permits) :
    s.Unmarked (s.after k w { s.pool k with permits := permits, nextNumber := number }) := by
  refine ⟨hw, fun n => ?_, rfl, rfl, rfl, size_after⟩
  by_cases hn : n = k
  · subst hn
    by_cases hk : n < s.pools.size
    · exact ⟨permits, number, hp, pool_after hk⟩
    · refine ⟨(s.pool n).permits, (s.pool n).nextNumber, .stays, ?_⟩
      rw [pool_of_size_le (size_after.symm ▸ Nat.le_of_not_lt hk),
        pool_of_size_le (Nat.le_of_not_lt hk)]
  · exact ⟨_, _, .stays, pool_after_ne hn⟩

/-! ## Requests that have an instance -/

/-- **A request that has got as far as an instance**: it is called, it comes back, or the answer is
that of a call. -/
def Spent : Standing ServerWork ServerReply → Prop
  | .busy (.calling _ _) | .blocked (.calling _ _) | .ended (.output _) => True
  | .busy (.restoring _ _ (some r)) | .blocked (.restoring _ _ (some r)) => Call.Own r
  | .ended (.refused e) => e.isOfCall = true
  | _ => False

theorem spent_answer {r : Call.Result} (hr : Call.Own r) : Spent (s.answer r).2 := by
  cases r with
  | ok bytes => trivial
  | error e => exact hr e rfl

theorem spent_restore {number : Nat} {r : Call.Result} (hr : Call.Own r) :
    Spent (s.restore rounds k number (some r)).2 := by
  have hturn := restore_givesBack s rounds k number (some r)
  generalize s.restore rounds k number (some r) = turn at hturn ⊢
  cases hturn with
  | @goesOn _ standing hwork =>
    cases standing with
    | busy _ | blocked _ =>
      obtain rfl := Option.some.inj hwork
      exact hr
    | ended _ => cases hwork
  | answered => exact spent_answer hr

theorem spent_afterCall {lease : Nat} {standing : Standing Unit Call.Result}
    (hr : ∀ r, standing = .ended r → Call.Own r) :
    Spent (s.afterCall rounds k lease (w, p, standing)).2 := by
  cases standing with
  | busy _ | blocked _ => trivial
  | ended r =>
    rcases afterCall_ended s lease r with hturn | ⟨number, -, hturn⟩
    · rw [hturn]
      exact spent_answer (hr r rfl)
    · rw [hturn]
      exact spent_restore (hr r rfl)

end Server

namespace Pool

theorem own_afterCall {p : Pool} {l : Lease} {i : Instance} {s : Standing Call Call.Result}
    {r : Call.Result} (hs : ∀ r, s = .ended r → Call.Own r)
    (h : (p.afterCall l i s).2 = .ended r) : Call.Own r := by
  cases s with
  | busy c | blocked c => cases h
  | ended r' =>
    cases h
    exact hs r rfl

theorem own_beginCall {w : World σ} {p : Pool} {lease : Nat} {c : Context} {entrypoint : String}
    {payload : Bytes} {r : Call.Result}
    (h : (p.beginCall w lease c entrypoint payload).2.2 = .ended r) : Call.Own r := by
  unfold beginCall at h
  split at h
  · cases h
    exact Call.own_error rfl
  · exact own_afterCall (fun _ => Call.begin_own) h

theorem own_proceedCall {rounds : Nat} {w : World σ} {p : Pool} {lease : Nat} {r : Call.Result}
    (h : (p.proceedCall rounds w lease).2.2 = .ended r) : Call.Own r := by
  unfold proceedCall at h
  split at h
  · cases h
    exact Call.own_error rfl
  · split at h
    · cases h
      exact Call.own_error rfl
    · exact own_afterCall (fun _ => Call.proceed_own) h

end Pool

namespace Server

variable {s : Server σ} {w : World σ} {p : Pool} {k rounds : Nat} {q : Request}

/-- **Whoever has got as far as an instance** stays so, whatever the server is like by then. -/
theorem spent_proceed {st : Standing ServerWork ServerReply} {x : ServerWork} (h : Spent st)
    (hx : st.work? = some x) (s : Server σ) : Spent (s.proceed x).2 := by
  have hwork : (∃ n lease, x = .calling n lease) ∨
      ∃ n number r, x = .restoring n number (some r) ∧ Call.Own r := by
    cases st with
    | busy y | blocked y =>
      cases hx
      cases x with
      | calling n lease => exact .inl ⟨n, lease, rfl⟩
      | restoring n number r =>
        cases r with
        | none => exact h.elim
        | some r => exact .inr ⟨n, number, r, rfl, h⟩
      | _ => exact h.elim
    | ended reply => cases hx
  rcases hwork with ⟨n, lease, rfl⟩ | ⟨n, number, r, rfl, hr⟩
  · have hown : ∀ r, ((s.pool n).proceedCall quantum s.world lease).2.2 = .ended r → Call.Own r :=
      fun _ => Pool.own_proceedCall
    rw [proceed]
    generalize (s.pool n).proceedCall quantum s.world lease = turn at hown
    obtain ⟨v, p, standing⟩ := turn
    exact spent_afterCall hown
  · exact spent_restore hr

/-- What an instance says of a request never reads as if the request may be made again. -/
theorem not_spent {e : HostError}
    (he : e.isRetryable = true ∨ e.isClosed = true ∨ ∃ name, e = .moduleNotFound name) :
    ¬ Spent (.ended (.refused e)) := by
  intro h
  have hcall : e.isOfCall = true := h
  rcases he with he | he | ⟨name, rfl⟩
  · cases e <;> cases he <;> cases hcall
  · cases e <;> cases he <;> cases hcall
  · cases hcall

/-! ## Requests that wait -/

/-- **A turn of a request without an instance**: it waits or is over, and there is no trace of it. -/
structure Waits (q : Request) (s : Server σ) (turn : Turn σ) : Prop where
  work : ∀ x ∈ turn.2.work?, ∃ n ticket, x = .waiting n ticket q.served q.entrypoint q.payload
  unmarked : s.Unmarked turn.1

theorem waits_refused {w : World σ} {permits : Permits} {number : Nat} (e : HostError)
    (hw : ∃ journal, w = { s.world with journal := journal })
    (hp : (s.pool k).permits.Queues permits) :
    Waits q s (s.afterCheckout rounds k q.served q.entrypoint q.payload
      (w, { s.pool k with permits := permits, nextNumber := number }, .ended (.error e))) :=
  ⟨(fun _ hx => nomatch hx), .after hw hp⟩

theorem world_interrupted (w : World σ) (p : Pool) (since : Nat) (why : Interruption) :
    ∃ journal, (Pool.interrupted w p since why).1 = { w with journal := journal } := by
  cases why <;> exact ⟨_, rfl⟩

/-- Whoever comes by a permit gets an instance, or is told that none is idle. -/
theorem spent_lent {w : World σ} {p : Pool} (ho : p.closed = false) :
    Spent (s.afterCheckout rounds k q.served q.entrypoint q.payload
      ((Pool.lend w p).1, (Pool.lend w p).2.1, .ended (Pool.lend w p).2.2)).2 := by
  have hlent : (Pool.lend w p).2.2 = .error (.execution "no idle instance available") ∨
      ∃ lease, (Pool.lend w p).2.2 = .ok lease := by
    rw [Pool.lend, ho]
    simp only [Bool.false_eq_true, if_false]
    split
    · exact .inl rfl
    · exact .inr ⟨_, rfl⟩
  generalize Pool.lend w p = turn at hlent
  obtain ⟨v, p', result⟩ := turn
  rcases hlent with hnone | ⟨lease, hlease⟩
  · obtain rfl : result = _ := hnone
    exact (rfl : HostError.isOfCall (.execution _) = true)
  · obtain rfl : result = _ := hlease
    have hown : ∀ r, (p'.beginCall v lease q.served q.entrypoint q.payload).2.2 = .ended r →
        Call.Own r := fun _ => Pool.own_beginCall
    rw [afterCheckout]
    generalize p'.beginCall v lease q.served q.entrypoint q.payload = turn at hown
    obtain ⟨u, p'', standing⟩ := turn
    exact spent_afterCall hown

/-- **A request that begins** waits, or has an instance at once. -/
theorem waits_begin (q : Request) (s : Server σ) :
    Waits q s (s.begin q.context q.command) ∨ Spent (s.begin q.context q.command).2 := by
  have hrefused (e : HostError) : Waits q s (s.refuse e) := ⟨(fun _ hx => nomatch hx), .refl s⟩
  rw [Request.command, begin]
  cases ho : s.ensureOpen with
  | error e =>
    simp only [execute, ho]
    exact .inl (hrefused e)
  | ok _ =>
    cases hget : s.registry.get q.name with
    | error e =>
      simp only [execute, ho, hget]
      exact .inl (hrefused e)
    | ok served =>
      have hasks := Pool.checkout_asks s.world (s.pool served.pool) q.served
      simp only [execute, ho, hget]
      rw [← Request.served]
      generalize (s.pool served.pool).checkout s.world q.served = turn at hasks
      cases hasks with
      | refused hc => exact .inl (waits_refused _ ⟨_, rfl⟩ .stays)
      | interrupted hopen hi => exact .inl (waits_refused _ (world_interrupted ..) .stays)
      | obtained hopen hps =>
        exact .inr (spent_lent ((Permits.take?_eq_some hps).2.2.2.trans hopen))
      | blocked hopen hf =>
        refine .inl ⟨?_, .after ⟨_, rfl⟩ (.joins _)⟩
        rintro x ⟨⟩
        exact ⟨_, _, rfl⟩

/-- **A request that waits** goes on waiting, is refused, or has an instance. -/
theorem waits_proceed (q : Request) (s : Server σ) (n ticket : Nat) :
    Waits q s (s.proceed (.waiting n ticket q.served q.entrypoint q.payload)) ∨
      Spent (s.proceed (.waiting n ticket q.served q.entrypoint q.payload)).2 := by
  have hlooks := Pool.pollCheckout_looks s.world (s.pool n) ticket
  rw [proceed]
  generalize (s.pool n).pollCheckout s.world ticket = turn at hlooks
  cases hlooks with
  | gone hx => exact .inl (waits_refused _ ⟨_, rfl⟩ .stays)
  | refused hx hc => exact .inl (waits_refused _ ⟨_, rfl⟩ (.leaves _))
  | obtained hx ho hg =>
    exact .inr (spent_lent (p := { s.pool n with permits := (s.pool n).permits.remove ticket }) ho)
  | interrupted hx ho hg hi => exact .inl (waits_refused _ (world_interrupted ..) (.leaves _))
  | blocked hx ho hg hi =>
    refine .inl ⟨?_, .after ⟨_, rfl⟩ .stays⟩
    rintro x ⟨⟩
    exact ⟨_, _, rfl⟩

end Server

/-! ## All turns of a request -/

/-- **A turn of a request**: what it finds, the work that it goes on with unless it begins, and what
comes of it. -/
structure Request.Turn (σ : Type) where
  /-- The server before. -/
  found : Server σ
  /-- The work that goes on. -/
  work : Option ServerWork
  /-- The server afterwards, and how the request stands. -/
  result : Server.Turn σ

namespace Request

/-- A turn and those after it: each of them finds the server in any state. -/
def Turn.follow : Turn σ → List (Server σ) → List (Turn σ)
  | u, [] => [u]
  | u, s :: later => u ::
    match u.result.2.work? with
    | some x => follow ⟨s, some x, s.proceed x⟩ later
    | none => []

/-- **The turns of a request** that begins in one state of the server and goes on in others, until
it is answered. -/
def turns (q : Request) (s : Server σ) (later : List (Server σ)) : List (Turn σ) :=
  Turn.follow ⟨s, none, s.begin q.context q.command⟩ later

/-- **A turn that leaves no trace** of the request.

* The request waits for an instance, unless it begins, and afterwards it waits still or is over; so it
  has no lease (`before`, `after`).
* No guest has its turn, and nothing is asked of the callback, not even when the request begins
  (`silent`, `unasked`).
* All pools have the instances, leases, restorations and counts that they had, and of what all guests
  share only the journal may have got a line (`unmarked`). -/
structure Turn.Traceless (q : Request) (u : Turn σ) : Prop where
  before : ∀ x ∈ u.work, ∃ n ticket, x = .waiting n ticket q.served q.entrypoint q.payload
  after : ∀ x ∈ u.result.2.work?,
    ∃ n ticket, x = .waiting n ticket q.served q.entrypoint q.payload
  silent : ∀ x ∈ u.work, u.found.running? x = none ∧ u.found.asks x = []
  unasked : u.found.world.Hears u.result.1.world u.found.world.state
  unmarked : u.found.Unmarked u.result.1

variable {q : Request} {u : Turn σ} {later : List (Server σ)} {e : HostError}

theorem Turn.traceless (hbefore : ∀ x ∈ u.work,
      ∃ n ticket, x = .waiting n ticket q.served q.entrypoint q.payload)
    (h : Server.Waits q u.found u.result) : u.Traceless q where
  before := hbefore
  after := h.work
  silent := by
    intro x hx
    obtain ⟨n, ticket, rfl⟩ := hbefore x hx
    exact ⟨rfl, rfl⟩
  unasked := by
    obtain ⟨journal, hworld⟩ := h.unmarked.world
    rw [hworld]
    exact ⟨rfl, rfl⟩
  unmarked := h.unmarked

/-- Once a request has an instance its answer is that of a call. -/
theorem Turn.spent_of_mem {v : Turn σ} (h : Server.Spent u.result.2) (hv : v ∈ u.follow later) :
    Server.Spent v.result.2 := by
  induction later generalizing u with
  | nil =>
    obtain rfl := List.mem_singleton.mp hv
    exact h
  | cons s later ih =>
    rw [follow] at hv
    rcases List.mem_cons.mp hv with rfl | hv
    · exact h
    · split at hv
      · rename_i x hx
        exact ih (Server.spent_proceed h hx s) hv
      · exact nomatch hv

/-- **As long as it has none**, a turn leaves no trace. -/
theorem Turn.traceless_of_mem (he : ¬ Server.Spent (.ended (.refused e)))
    (hu : Server.Waits q u.found u.result ∨ Server.Spent u.result.2)
    (hbefore : ∀ x ∈ u.work, ∃ n ticket, x = .waiting n ticket q.served q.entrypoint q.payload)
    (hend : ∃ v ∈ u.follow later, v.result.2 = .ended (.refused e)) :
    ∀ v ∈ u.follow later, v.Traceless q := by
  -- Whoever has got as far as an instance is not refused like this any more.
  have hwaits : Server.Waits q u.found u.result := by
    refine hu.resolve_right fun hspent => ?_
    obtain ⟨v, hv, hended⟩ := hend
    exact he (hended ▸ spent_of_mem hspent hv)
  induction later generalizing u with
  | nil =>
    intro v hv
    obtain rfl := List.mem_singleton.mp hv
    exact traceless hbefore hwaits
  | cons s later ih =>
    rw [follow] at hend ⊢
    intro v hv
    rcases List.mem_cons.mp hv with rfl | hv
    · exact traceless hbefore hwaits
    · split at hv
      · rename_i x hx
        obtain ⟨n, ticket, rfl⟩ := hwaits.work x hx
        simp only [hx] at hend
        obtain ⟨z, hz, hended⟩ := hend
        rcases List.mem_cons.mp hz with rfl | hz
        · rw [hended] at hx
          cases hx
        · have hnext := Server.waits_proceed q s n ticket
          have hmore : ∃ z ∈ Turn.follow ⟨s, some _, s.proceed _⟩ later,
              z.result.2 = .ended (.refused e) := ⟨z, hz, hended⟩
          refine ih hnext ?_ hmore ?_ v hv
          · rintro y ⟨⟩
            exact ⟨n, ticket, rfl⟩
          · refine hnext.resolve_right fun hspent => ?_
            exact he (hended ▸ spent_of_mem hspent hz)
      · exact nomatch hv

/-- **A request that is refused without an instance leaves no trace.**  Whatever the server is like
when it begins and at each of its turns: if the answer may be retried, tells that something is closed,
or that there is no such module, then no turn of the request has run or changed anything. -/
theorem refused_without_trace (q : Request) (s : Server σ) (later : List (Server σ)) (e : HostError)
    (he : e.isRetryable = true ∨ e.isClosed = true ∨ ∃ name, e = .moduleNotFound name)
    (hend : ∃ u ∈ q.turns s later, u.result.2 = .ended (.refused e)) :
    ∀ u ∈ q.turns s later, u.Traceless q :=
  Turn.traceless_of_mem (Server.not_spent he) (Server.waits_begin q s) (fun _ hx => nomatch hx) hend

/-- Whether some work has ended because no instance became idle within some milliseconds. -/
def timedOut (milliseconds : Nat) : Standing ServerWork ServerReply → Bool
  | .ended (.refused (.timeout waited)) => waited = milliseconds
  | _ => false

theorem eq_of_timedOut {milliseconds : Nat} {st : Standing ServerWork ServerReply}
    (h : timedOut milliseconds st = true) : st = .ended (.refused (.timeout milliseconds)) := by
  unfold timedOut at h
  split at h
  · rw [of_decide_eq_true h]
  · cases h

/-- Somebody waits for the only instance of a module, which somebody else has, until time is up. -/
theorem timed_out_without_trace :
    let t := Traffic.run ⟨.unused, []⟩ ServerAct.callOnce
    let q : Request :=
      ⟨{ request := .given "late", deadline := some 10 }, "tidy", "run", ByteArray.empty⟩
    let s := (t.server.begin q.context q.command).1
    let later := [{ s with world := s.world.advance 20 }]
    (∃ u ∈ q.turns t.server later, u.result.2 = .ended (.refused (.timeout 20))) ∧
      ∀ u ∈ q.turns t.server later, u.Traceless q := by
  intro t q s later
  have hruns : ((q.turns t.server later).any fun u => timedOut 20 u.result.2) = true := by
    decide +kernel
  obtain ⟨u, hu, htimeout⟩ := List.any_eq_true.mp hruns
  have hend : ∃ u ∈ q.turns t.server later, u.result.2 = .ended (.refused (.timeout 20)) :=
    ⟨u, hu, eq_of_timedOut htimeout⟩
  exact ⟨hend, refused_without_trace q t.server later (.timeout 20) (.inl rfl) hend⟩

end Request
end FunctionHost

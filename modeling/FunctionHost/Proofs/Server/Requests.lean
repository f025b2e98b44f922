import FunctionHost.Proofs.Guest.Course
import FunctionHost.Proofs.Server.Numbers

/-!
# How a request stands

A request waits for an instance, or it is served by one, or that is given back, or there is an
answer.  `Stands` says which, and what the request has in each case: its place among those who wait,
its lease with its own call in progress, its instance that comes back with the outcome of that call,
or the reason for its answer.  A turn takes a request from one to the next (`stands_begin`,
`stands_proceed`), whatever the server is like, as long as a pool is closed only with the server.

An answer is the outcome of the request's own call, the end of its own wait, or that the server is
closed.
-/
namespace FunctionHost

variable {σ : Type}

/-- **A request** for an entrypoint of a module. -/
structure Request where
  /-- Its context. -/
  context : Context
  /-- The name of the module. -/
  name : String
  /-- The entrypoint. -/
  entrypoint : String
  /-- The payload. -/
  payload : Bytes

/-- The error of a wait that was interrupted after some milliseconds. -/
def Interruption.ofWait (waited : Nat) : Interruption → HostError
  | .canceled => .canceled
  | .deadlineExceeded => .timeout waited

/-- What is answered to a request whose call is over. -/
def ServerReply.ofCall : Call.Result → ServerReply
  | .ok bytes => .output bytes
  | .error e => .refused e

namespace Request

/-- The command that makes the request. -/
def command (q : Request) : ServerCommand := .execute q.name q.entrypoint q.payload

/-- The context in which the request is served. -/
def served (q : Request) : Context := q.context.serving q.name q.entrypoint

/-- **Whether a context is that of the request while it is served**: it has the identity, the deadline
and the token of the request, and names the module and the entrypoint. -/
structure IsServedIn (q : Request) (c : Context) : Prop where
  request : c.request = q.context.request
  deadline : c.deadline = q.context.deadline
  token : c.token = q.context.token
  module : c.module = some q.name
  entrypoint : c.entrypoint = some q.entrypoint

theorem isServedIn_served (q : Request) : q.IsServedIn q.served := ⟨rfl, rfl, rfl, rfl, rfl⟩

/-- **The request's own call** on an instance that has the code of a blueprint: it began in one of
the request's turns and was taken further in all turns since. -/
structure OwnCall (q : Request) (b : Blueprint) (ws : List (World σ)) (i : Instance)
    (s : Instance × Standing Call Call.Result) : Prop where
  code : i.body.Of b
  course : ∃ before w later, ws = before ++ w :: later ∧
    Call.course Server.quantum i q.served q.entrypoint q.payload w later = s

/-- **A request that has its instance**: the instance is called, it comes back, or the request was
answered when it had come back; in a closed pool it is gone then. -/
inductive Engaged (q : Request) (n : Nat) (s : Server σ) (ws : List (World σ)) :
    Standing ServerWork ServerReply → Prop
  | calling {st : Standing ServerWork ServerReply} {l : Lease} {i : Instance}
      {standing : Standing Call Call.Result} (hst : st.work? = some (.calling n l.number))
      (hl : l ∈ (s.pool n).leases) (hown : q.OwnCall (s.pool n).blueprint ws i (l.held, standing))
      (hcall : standing.work? = l.call) (hon : l.call.isSome) : Engaged q n s ws st
  | restoring {st : Standing ServerWork ServerReply} {number : Nat} {i j : Instance}
      {r : Call.Result} (hst : st.work? = some (.restoring n number (some r)))
      (hown : q.OwnCall (s.pool n).blueprint ws i (j, .ended r))
      (hcomes : (s.pool n).Comes number i.id) : Engaged q n s ws st
  | answered {i j : Instance} {r : Call.Result}
      (hown : q.OwnCall (s.pool n).blueprint ws i (j, .ended r))
      (hgone : (s.pool n).closed = true → (s.pool n).Gone i.id) :
      Engaged q n s ws (.ended (.ofCall r))

/-- **How a request stands** that waits in some context and since some instant, if at all: it has had
turns in some worlds, and the last of them left the server as it is. -/
inductive Stands (q : Request) (n : Nat) (c : Context) (since : Nat) (s : Server σ)
    (ws : List (World σ)) : Standing ServerWork ServerReply → Prop
  | waiting {st : Standing ServerWork ServerReply} {ticket : Nat}
      (hst : st.work? = some (.waiting n ticket q.served q.entrypoint q.payload))
      (hx : (s.pool n).permits.Waits ticket c since) : Stands q n c since s ws st
  | engaged {st : Standing ServerWork ServerReply} (h : q.Engaged n s ws st) :
      Stands q n c since s ws st
  | interrupted {before : List (World σ)} {w : World σ} {why : Interruption}
      (hws : ws = before ++ [w]) (hi : c.interruption w.clock = some why) :
      Stands q n c since s ws (.ended (.refused (why.ofWait (w.clock.now - since))))
  | late (hc : s.closed = true) : Stands q n c since s ws (.ended (.refused .serverClosed))

variable {q : Request} {b : Blueprint} {ws : List (World σ)} {i j : Instance}
  {standing : Standing Call Call.Result} {r : Call.Result}

/-- A call that is over stays as it is. -/
theorem OwnCall.snoc (h : q.OwnCall b ws i (j, standing)) (v : World σ) :
    q.OwnCall b (ws ++ [v]) i (Call.further Server.quantum (j, standing) v) := by
  obtain ⟨hcode, before, w, later, rfl, hcourse⟩ := h
  refine ⟨hcode, before, w, later ++ [v], ?_, ?_⟩
  · rw [List.append_assoc, List.cons_append]
  · rw [Call.course_snoc, hcourse]

theorem OwnCall.same (h : q.OwnCall b ws i (j, standing)) : j.SameAs i := by
  obtain ⟨-, before, w, later, -, hcourse⟩ := h
  have hsame : (Call.course Server.quantum i q.served q.entrypoint q.payload w later).1.SameAs i :=
    Call.course_same
  rw [hcourse] at hsame
  exact hsame

theorem OwnCall.own (h : q.OwnCall b ws i (j, .ended r)) : Call.Own r := by
  obtain ⟨-, before, w, later, -, hcourse⟩ := h
  have hended : (Call.course Server.quantum i q.served q.entrypoint q.payload w later).2 =
      .ended r := by rw [hcourse]
  exact Call.course_own hended

/-- A request that is in progress holds a number. -/
theorem Engaged.number? {s : Server σ} {n : Nat} {st : Standing ServerWork ServerReply}
    {y : ServerWork} (h : q.Engaged n s ws st) (hy : st.work? = some y) :
    ∃ m, y.number? n = some m := by
  cases h with
  | calling hst hl hown hcall hon =>
    obtain rfl := Option.some.inj (hst.symm.trans hy)
    exact ⟨_, if_pos rfl⟩
  | restoring hst hown hcomes =>
    obtain rfl := Option.some.inj (hst.symm.trans hy)
    exact ⟨_, if_pos rfl⟩
  | answered hown hgone => cases hy

theorem Stands.number? {s : Server σ} {n since : Nat} {c : Context}
    {st : Standing ServerWork ServerReply} {y : ServerWork} (h : q.Stands n c since s ws st)
    (hy : st.work? = some y) : ∃ m, y.number? n = some m := by
  cases h with
  | waiting hst hx =>
    obtain rfl := Option.some.inj (hst.symm.trans hy)
    exact ⟨_, if_pos rfl⟩
  | engaged h => exact h.number? hy
  | interrupted hws hi => cases hy
  | late hc => cases hy

end Request

/-! ## Lending -/

namespace Pool

variable {w : World σ} {p : Pool} {lease : Nat}

/-- **Whoever gets an instance** gets one that was idle, and nothing else happens in the world. -/
theorem lend_lease (h : (lend w p).2.2 = .ok lease) :
    (lend w p).1 = w ∧ (lend w p).2.1.blueprint = p.blueprint ∧
      ∃ i ∈ p.idle, ∃ l ∈ (lend w p).2.1.leases,
        l.number = lease ∧ l.held = i.setState .leased ∧ l.call = none := by
  unfold lend at h ⊢
  split at h
  · cases h
  · rename_i hc
    rw [if_neg hc]
    split at h
    · cases h
    · rename_i i rest hi
      cases h
      refine ⟨rfl, rfl, i, hi ▸ List.mem_cons_self, _, List.mem_append_right _ ?_, rfl, rfl, rfl⟩
      exact List.mem_singleton_self _

theorem error_interrupted (w : World σ) (p : Pool) (since : Nat) (why : Interruption) :
    (interrupted w p since why).2 = why.ofWait (w.clock.now - since) := by
  cases why <;> rfl

end Pool

/-! ## Turns -/

namespace Server

open Request

variable {s : Server σ} {q : Request} {n since number : Nat} {c : Context} {w : World σ} {p : Pool}
  {ws : List (World σ)} {i j : Instance} {r : Call.Result}

theorem answer_ofCall (s : Server σ) (r : Call.Result) :
    (s.answer r).2 = .ended (.ofCall r) ∧ (s.answer r).1.pools = s.pools := by
  cases r <;> exact ⟨rfl, rfl⟩

/-- **A turn of giving an instance back**, once the call is over. -/
theorem engaged_restore (hn : n < s.pools.size) (hk : (s.pool n).Kindred)
    (hown : q.OwnCall (s.pool n).blueprint ws i (j, .ended r))
    (hcomes : (s.pool n).Comes number i.id) :
    q.Engaged n (s.restore quantum n number (some r)).1 ws
      (s.restore quantum n number (some r)).2 := by
  have hm : Pool.Moves s.world (s.pool n) (.proceedRestoration quantum number) _ :=
    Pool.perform_moves s.world (s.pool n) (.proceedRestoration quantum number)
  have hclosed := hm.closed_eq rfl
  have hblueprint := hm.fixed.1
  obtain ⟨hbusy, hended⟩ := hcomes.turn hk quantum s.world
  clear hm
  rw [PoolAct.perform] at hclosed hblueprint
  rw [restore]
  generalize (s.pool n).proceedRestoration quantum s.world number = turn
    at hclosed hblueprint hbusy hended
  obtain ⟨v, p, standing⟩ := turn
  have hpool : (s.after n v p).pool n = p := pool_after hn
  rw [← hblueprint] at hown
  -- Only when the restoration is over, the caller is told what the call came to.
  cases standing with
  | busy _ | blocked _ =>
    refine .restoring rfl (i := i) (j := j) ?_ ?_
    · rw [afterRestoration, hpool]
      exact hown
    · rw [afterRestoration, hpool]
      exact hbusy rfl
  | ended _ =>
    obtain ⟨hreply, hpools⟩ := (s.after n v p).answer_ofCall r
    have hpool : ((s.after n v p).answer r).1.pool n = p := by rw [pool, hpools]; exact hpool
    rw [afterRestoration, hreply]
    refine .answered (i := i) (j := j) ?_ fun hc => ?_
    · rw [hpool]
      exact hown
    · rw [hpool] at hc ⊢
      exact hended (hclosed.symm.trans hc) fun hnone => by cases hnone

/-- **A turn of a call**: it goes on, or its instance is given back. -/
theorem engaged_afterCall {l : Lease} {standing : Standing Call Call.Result}
    (hn : n < s.pools.size) (hk : p.Kindred) (hl : l ∈ p.leases)
    (hown : q.OwnCall p.blueprint ws i (l.held, standing)) (hcall : standing.work? = l.call) :
    q.Engaged n (s.afterCall quantum n l.number (w, p, standing.lift fun _ => ())).1 ws
      (s.afterCall quantum n l.number (w, p, standing.lift fun _ => ())).2 := by
  have hgoesOn {x : Call} (hx : standing.work? = some x) {st : Standing ServerWork ServerReply}
      (hst : st.work? = some (.calling n l.number)) : q.Engaged n (s.after n w p) ws st := by
    have hpool : (s.after n w p).pool n = p := pool_after hn
    refine .calling hst (hpool.symm ▸ hl) (hpool.symm ▸ hown) hcall ?_
    rw [← hcall, hx]
    rfl
  cases standing with
  | busy x => exact hgoesOn rfl rfl
  | blocked x => exact hgoesOn rfl rfl
  | ended r =>
    obtain ⟨p', hrelease, hcomes⟩ := hk.release hl
    have hm : Pool.Moves w p (.release l.number) p' := by
      have hperform := Pool.perform_moves w p (.release l.number)
      rw [PoolAct.perform, hrelease] at hperform
      exact hperform
    have hpool : (s.after n w p').pool n = p' := pool_after hn
    rw [Standing.lift, afterCall, hrelease]
    refine engaged_restore (size_after.symm ▸ hn) ?_ (i := i) (j := l.held) ?_ ?_
    · rw [hpool]
      exact hk.moves hm
    · rw [hpool, hm.fixed.1]
      exact hown
    · rw [hpool, ← hown.same.id]
      exact hcomes

/-- **Whoever has just got an instance** begins the call. -/
theorem engaged_lent {l : Lease} {before : List (World σ)} (hn : n < s.pools.size)
    (hk : p.Kindred) (hl : l ∈ p.leases) (hi : l.held.body.Of p.blueprint) :
    q.Engaged n
      (s.afterCall quantum n l.number
        (p.beginCall w l.number q.served q.entrypoint q.payload)).1 (before ++ [w])
      (s.afterCall quantum n l.number
        (p.beginCall w l.number q.served q.entrypoint q.payload)).2 := by
  have hm := Pool.beginCall_moves (w := w) (p := p) l.number q.served q.entrypoint q.payload
  have hbegin : p.beginCall w l.number q.served q.entrypoint q.payload =
      ((Call.begin w l.held q.served q.entrypoint q.payload).1,
        p.afterCall l (Call.begin w l.held q.served q.entrypoint q.payload).2.1
          (Call.begin w l.held q.served q.entrypoint q.payload).2.2) := by
    simp only [Pool.beginCall, hk.numbered.lease? hl]
  have hown : q.OwnCall p.blueprint (before ++ [w]) l.held
      (Call.begin w l.held q.served q.entrypoint q.payload).2 := ⟨hi, before, w, [], rfl, rfl⟩
  rw [hbegin] at hm ⊢
  generalize Call.begin w l.held q.served q.entrypoint q.payload = turn at hm hown ⊢
  obtain ⟨v, j, standing⟩ := turn
  rw [Pool.afterCall_turn] at hm ⊢
  exact engaged_afterCall (l := { l with held := j, call := standing.work? }) hn (hk.moves hm)
    (Pool.mem_setLease hl rfl) hown rfl

/-- **Whoever comes by a permit** gets an instance if one is idle. -/
theorem engaged_obtained {ps : Permits} {a : PoolAct} (before : List (World σ))
    (hn : n < s.pools.size) (hk : p.Kindred) (ho : ps.closed = false) (hidle : p.idle ≠ [])
    (hm : Pool.Moves s.world p a (Pool.lend s.world { p with permits := ps }).2.1) :
    let turn := Pool.lend s.world { p with permits := ps }
    q.Engaged n
      (s.afterCheckout quantum n q.served q.entrypoint q.payload
        (turn.1, turn.2.1, .ended turn.2.2)).1 (before ++ [s.world])
      (s.afterCheckout quantum n q.served q.entrypoint q.payload
        (turn.1, turn.2.1, .ended turn.2.2)).2 := by
  intro turn
  obtain ⟨lease, hlease⟩ := Pool.lend_of_idle (p := { p with permits := ps }) ho hidle s.world
  obtain ⟨hworld, hblueprint, i, hi, l, hl, rfl, hheld, -⟩ := Pool.lend_lease hlease
  have hk' := hk.moves hm
  have hbody : l.held.body.Of p.blueprint := by
    rw [hheld, Instance.body_setState]
    exact hk.bodies (.idle i) (Pool.mem_holdings_idle.mpr hi)
  change turn.2.2 = _ at hlease
  change turn.1 = _ at hworld
  change turn.2.1.blueprint = p.blueprint at hblueprint
  change l ∈ turn.2.1.leases at hl
  change turn.2.1.Kindred at hk'
  clear_value turn
  obtain ⟨v, p', result⟩ := turn
  obtain rfl : result = .ok l.number := hlease
  obtain rfl : v = s.world := hworld
  rw [afterCheckout]
  exact engaged_lent hn hk' hl (hblueprint.symm ▸ hbody)

/-- A pool that reads as closed from outside belongs to a server that was shut down. -/
theorem stands_refused (w : World σ) (p : Pool) (hc : s.closed = true) :
    q.Stands n c since
      (s.afterCheckout quantum n q.served q.entrypoint q.payload
        (w, p, .ended (.error p.closedError))).1 ws
      (s.afterCheckout quantum n q.served q.entrypoint q.payload
        (w, p, .ended (.error p.closedError))).2 := by
  have hseen : s.seenFromOutside p.closedError = .serverClosed := if_pos hc
  rw [afterCheckout, refuse, hseen]
  exact .late hc

/-- A wait that its context has ended. -/
theorem stands_interrupted {why : Interruption} (before : List (World σ)) (p p' : Pool)
    (hi : c.interruption s.world.clock = some why) :
    let turn := Pool.interrupted s.world p since why
    q.Stands n c since
      (s.afterCheckout quantum n q.served q.entrypoint q.payload
        (turn.1, p', .ended (.error turn.2))).1 (before ++ [s.world])
      (s.afterCheckout quantum n q.served q.entrypoint q.payload
        (turn.1, p', .ended (.error turn.2))).2 := by
  have hseen : s.seenFromOutside (why.ofWait (s.world.clock.now - since)) =
      why.ofWait (s.world.clock.now - since) := by cases why <;> rfl
  intro turn
  have hturn : turn.2 = why.ofWait (s.world.clock.now - since) :=
    Pool.error_interrupted s.world p since why
  rw [hturn, afterCheckout, refuse, hseen]
  exact .interrupted rfl hi

/-- **What a request needs of its pool**: no instance of it was lost sight of, and it is closed only
with the server. -/
structure Serves (s : Server σ) (n : Nat) : Prop where
  there : n < s.pools.size
  kindred : (s.pool n).Kindred
  accounts : ∃ g v, (s.pool n).Accounts g 0 v
  late : (s.pool n).closed = true → s.closed = true

/-- **A request that has its instance keeps it** until its answer. -/
theorem engaged_proceed (h : Serves s n) {y : ServerWork} {st : Standing ServerWork ServerReply}
    (hq : q.Engaged n s ws st) (hy : st.work? = some y) :
    q.Engaged n (s.proceed y).1 (ws ++ [s.world]) (s.proceed y).2 := by
  cases hq with
  | @calling _ l i standing hst hl hown hcall hon =>
    obtain rfl := Option.some.inj (hst.symm.trans hy)
    obtain ⟨x, hx⟩ := Option.isSome_iff_exists.mp hon
    have hm : Pool.Moves s.world (s.pool n) (.proceedCall quantum l.number) _ :=
      Pool.perform_moves s.world (s.pool n) (.proceedCall quantum l.number)
    have hproceed : (s.pool n).proceedCall quantum s.world l.number =
        ((Call.proceed quantum s.world l.held x).1,
          (s.pool n).afterCall l (Call.proceed quantum s.world l.held x).2.1
            (Call.proceed quantum s.world l.held x).2.2) := by
      simp only [Pool.proceedCall, h.kindred.numbered.lease? hl, hx]
    have hnext := hown.snoc s.world
    have hfurther : Call.further quantum (l.held, standing) s.world =
        (Call.proceed quantum s.world l.held x).2 := by
      rw [Call.further, hcall, hx]
    rw [hfurther] at hnext
    rw [PoolAct.perform, hproceed] at hm
    rw [proceed, hproceed]
    generalize Call.proceed quantum s.world l.held x = turn at hm hnext ⊢
    obtain ⟨w, j, standing⟩ := turn
    rw [Pool.afterCall_turn] at hm ⊢
    exact engaged_afterCall (l := { l with held := j, call := standing.work? }) h.there
      (h.kindred.moves hm) (Pool.mem_setLease hl rfl) hnext rfl
  | restoring hst hown hcomes =>
    obtain rfl := Option.some.inj (hst.symm.trans hy)
    exact engaged_restore h.there h.kindred (hown.snoc s.world) hcomes
  | answered hown hgone => cases hy

/-- **A turn takes a request further**, or to its answer. -/
theorem stands_proceed (h : Serves s n) {y : ServerWork} {st : Standing ServerWork ServerReply}
    (hq : q.Stands n c since s ws st) (hy : st.work? = some y) :
    q.Stands n c since (s.proceed y).1 (ws ++ [s.world]) (s.proceed y).2 := by
  cases hq with
  | @waiting _ ticket hst hx =>
    obtain rfl := Option.some.inj (hst.symm.trans hy)
    obtain ⟨x, hx, rfl, rfl, rfl⟩ := hx
    obtain ⟨g, v, haccounts⟩ := h.accounts
    have hnodup := h.kindred.numbered.waiters.1
    -- The request is found under its number, so it is the one that is looked at.
    have hfound : (s.pool n).permits.waiter? x.ticket = some x := Numbered.find?_of_mem hnodup hx
    have hm : Pool.Moves s.world (s.pool n) (.pollCheckout x.ticket) _ :=
      Pool.perform_moves s.world (s.pool n) (.pollCheckout x.ticket)
    have hlooks := Pool.pollCheckout_looks s.world (s.pool n) x.ticket
    rw [PoolAct.perform] at hm
    rw [proceed]
    generalize (s.pool n).pollCheckout s.world x.ticket = turn at hm hlooks
    cases hlooks with
    | gone hz => cases hfound.symm.trans hz
    | refused hz hc => exact stands_refused s.world { s.pool n with permits := _ } (h.late hc)
    | obtained hz ho hg =>
      obtain rfl := Option.some.inj (hfound.symm.trans hz)
      have hidle := haccounts.idle_of_obtained h.kindred.numbered ho (.granted hx hg)
      exact .engaged (engaged_obtained ws h.there h.kindred ho hidle hm)
    | interrupted hz ho hg hi =>
      obtain rfl := Option.some.inj (hfound.symm.trans hz)
      exact stands_interrupted ws _ _ hi
    | blocked hz ho hg hi =>
      rw [afterCheckout]
      refine .waiting rfl ?_
      rw [pool_after h.there]
      exact ⟨x, hx, rfl, rfl, rfl⟩
  | engaged hq => exact .engaged (engaged_proceed h hq hy)
  | interrupted hws hi => cases hy
  | late hc => cases hy

/-- A request that begins asks the pool of its module for an instance. -/
theorem begin_request {served : Served} (ho : s.closed = false)
    (hget : s.registry.get q.name = .ok served) : s.begin q.context q.command =
      s.afterCheckout quantum served.pool q.served q.entrypoint q.payload
        ((s.pool served.pool).checkout s.world q.served) := by
  have hopen : s.ensureOpen = .ok () := if_neg (Bool.eq_false_iff.mp ho)
  simp only [Request.command, begin, execute, hopen, hget]
  rfl

/-- **A request that begins** gets an instance at once or waits for one. -/
theorem stands_begin {served : Served} (ho : s.closed = false)
    (hget : s.registry.get q.name = .ok served) (h : Serves s served.pool) :
    q.Stands served.pool ((s.pool served.pool).bounded s.world.clock q.served) s.world.clock.now
      (s.begin q.context q.command).1 [s.world] (s.begin q.context q.command).2 := by
  obtain ⟨g, v, haccounts⟩ := h.accounts
  have hm : Pool.Moves s.world (s.pool served.pool) (.checkout q.served) _ :=
    Pool.perform_moves s.world (s.pool served.pool) (.checkout q.served)
  have hasks := Pool.checkout_asks s.world (s.pool served.pool) q.served
  rw [PoolAct.perform] at hm
  rw [begin_request ho hget]
  generalize (s.pool served.pool).checkout s.world q.served = turn at hm hasks
  cases hasks with
  | refused hc => cases ho.symm.trans (h.late hc)
  | interrupted hopen hi => exact stands_interrupted [] _ _ hi
  | obtained hopen hps =>
    have hidle := haccounts.idle_of_obtained h.kindred.numbered hopen (.free hps)
    have hclosed := (Permits.take?_eq_some hps).2.2.2.trans hopen
    exact .engaged (engaged_obtained [] h.there h.kindred hclosed hidle hm)
  | blocked hopen hf =>
    rw [afterCheckout]
    refine .waiting rfl ?_
    rw [pool_after h.there]
    exact ⟨_, List.mem_append_right _ (List.mem_singleton_self _), rfl, rfl, rfl⟩

end Server
end FunctionHost

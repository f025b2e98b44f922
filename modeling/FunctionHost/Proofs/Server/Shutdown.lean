import FunctionHost.Proofs.Server.Requests

/-!
# Requests that race a shutdown

Between a request's turns anything may happen: others have their turns, modules are loaded, and the
server is shut down, its pools one after another.  None of that touches what the request has
(`Goes.stands`), so whatever it finds in its next turn is what `Server.stands_proceed` says, and its
answer is the outcome of its own call, the end of its own wait, or that the server is closed.
`Underway` follows a request through a run.

`Graceful` is what holds of every server at work from any point on at which nothing was given up.
A shutdown closes the server in one turn and its pools in others (`ServerStep`), and what becomes of
an instance is a matter of its pool.  Once that is closed, nobody else gets what is leased
(`Pool.Remains`).  Before, an instance that comes back may be leased again to somebody who waits,
although the server is closed (`reused_while_shut`).
-/
namespace FunctionHost

variable {σ : Type}

/-- Whether a step unloads a module. -/
def ServerStep.unloads (name : String) : ServerStep σ → Bool
  | .act (.begin _ (.unload other)) => other = name
  | _ => false

namespace Server

variable {s : Server σ}

/-- **A server that was shut down serves no requests.** -/
theorem begin_execute_late (hc : s.closed = true) (c : Context) (name entrypoint : String)
    (payload : Bytes) :
    s.begin c (.execute name entrypoint payload) = (s, .ended (.refused .serverClosed)) := by
  have hlate : s.ensureOpen = .error .serverClosed := if_pos hc
  simp only [begin, execute, hlate]
  rfl

/-- **A server that was shut down loads no modules.** -/
theorem begin_load_late (hc : s.closed = true) (c : Context) (plan : LoadPlan) :
    s.begin c (.load plan) = (s, .ended (.refused .serverClosed)) := by
  have hlate : s.ensureOpen = .error .serverClosed := if_pos hc
  simp only [begin, load, hlate]
  rfl

/-- **Whoever waits in a closed pool** is told that the server is closed. -/
theorem proceed_waiting_late {n : Nat} (h : s.Serves n) (hc : (s.pool n).closed = true)
    (ticket : Nat) (c : Context) (entrypoint : String) (payload : Bytes) :
    (s.proceed (.waiting n ticket c entrypoint payload)).2 = .ended (.refused .serverClosed) := by
  have hseen : s.seenFromOutside (s.pool n).closedError = .serverClosed := if_pos (h.late hc)
  have hlooks := Pool.pollCheckout_looks s.world (s.pool n) ticket
  rw [proceed]
  generalize (s.pool n).pollCheckout s.world ticket = turn at hlooks
  cases hlooks with
  | gone hx => rw [afterCheckout, refuse, hseen]
  | refused hx hc => rw [afterCheckout, refuse, hseen]
  | obtained hx ho hg => cases ho.symm.trans hc
  | interrupted hx ho hg hi => cases ho.symm.trans hc
  | blocked hx ho hg hi => cases ho.symm.trans hc

/-- **A load that is late publishes nothing**: it fails, or finds the server closed. -/
theorem Loading.late_of_closed {x : ServerWork} {name : String} {size : Nat} {turn : Turn σ}
    (h : s.Loading x name size turn) (hc : s.registry.closed = true) :
    turn.1.registry = s.registry ∧ turn.1.pools = s.pools ∧
      ∀ reply, turn.2 = .ended reply →
        ∃ e, reply = .refused e ∧ ((s.fills? x).isSome → e = .serverClosed) := by
  cases h with
  | goesOn hfull hy hl hg hw =>
    refine ⟨rfl, rfl, fun reply hreply => ?_⟩
    cases hreply
    cases hy
  | @failed w e hfull hw =>
    refine ⟨rfl, rfl, fun reply hreply => ?_⟩
    cases hreply
    exact ⟨e, rfl, fun hsome => by rw [hfull] at hsome; cases hsome⟩
  | late hfull hc hw =>
    refine ⟨rfl, rfl, fun reply hreply => ?_⟩
    cases hreply
    exact ⟨_, rfl, fun _ => rfl⟩
  | taken hfull ho ht hw => cases ho.symm.trans hc
  | published hfull hp hb ho hf hw => cases ho.symm.trans hc

end Server

namespace Traffic

open Request

/-! ## Modules that stay loaded -/

/-- **Steps in which nothing is given up** and a module is not unloaded. -/
def Quiet (name : String) (as : List (ServerStep σ)) : Prop :=
  ∀ a ∈ as, a.drops = false ∧ a.unloads name = false

/-- **A module is kept** in its pool: it is loaded, or the server was shut down. -/
structure Keeps (t : Traffic σ) (name : String) (served : Served) : Prop where
  there : served.pool < t.server.pools.size
  listed : t.server.closed = true ∨ (name, served) ∈ t.server.registry.entries.entries

variable {t u : Traffic σ} {a : ServerStep σ} {name : String} {served : Served} {n m : Nat}
  {y : ServerWork} {as : List (ServerStep σ)}

theorem Goes.size_le (hg : Goes t a u) : t.server.pools.size ≤ u.server.pools.size := by
  cases hg with
  | acts left new hs hd hworks hx hown hnew hno => exact Nat.le_of_eq hs.size.symm
  | passed hw hno => exact Nat.le_refl _
  | loading hx hl hturn hload =>
    cases hload with
    | published hfull hp hb ho hf hw => exact (Array.size_push _).symm ▸ Nat.le_succ _
    | _ => exact Nat.le_refl _
  | dropped hx hw => exact Nat.le_refl _
  | unloads he hname hs hnew => exact Nat.le_of_eq hs.size.symm
  | shuts new ha ho hs hnew =>
    have hpools : t.server.shut.pools = t.server.pools := by
      rw [Server.shut, ho]
      rfl
    rw [← hpools]
    exact Nat.le_of_eq hs.size.symm

/-- **Nobody opens a server again.** -/
theorem Goes.closed_of_closed (hg : Goes t a u) (hc : t.server.closed = true) :
    u.server.closed = true := by
  cases hg with
  | acts left new hs hd hworks hx hown hnew hno => exact hs.listed.2.1.trans hc
  | passed hw hno => exact hc
  | loading hx hl hturn hload => cases hload <;> exact hc
  | dropped hx hw => exact hc
  | unloads he hname hs hnew => exact hs.listed.2.1.trans hc
  | shuts new ha ho hs hnew => cases ho.symm.trans hc

/-- What the steps of a run keep of a pool that is there. -/
theorem Lawful.pool_induction {I : Pool → Prop} (h : Lawful t) (hn : n < t.server.pools.size)
    (ht : I (t.server.pool n)) (hstep : ∀ (w : World σ) p b q, I p → Pool.Moves w p b q → I q)
    (as : List (ServerStep σ)) : I ((t.steps as).server.pool n) := by
  refine (steps_induction (I := fun u => Lawful u ∧ n < u.server.pools.size ∧ I (u.server.pool n))
    ⟨h, hn, ht⟩ (fun u a hu => ?_) as).2.2
  have hg := goes_step hu.1 a
  exact ⟨hu.1.step a, Nat.lt_of_lt_of_le hu.2.1 hg.size_le,
    hg.pool_induction hu.2.1 hu.2.2 hstep⟩

/-- **What is gone stays gone**, whatever happens. -/
theorem Lawful.gone {id : Nat} (h : Lawful t) (hn : n < t.server.pools.size)
    (hgone : (t.server.pool n).Gone id)
    (as : List (ServerStep σ)) : ((t.steps as).server.pool n).Gone id :=
  (h.pool_induction (I := fun p => p.Kindred ∧ p.Gone id) hn ⟨h.proper.kindred n, hgone⟩
    (fun _ _ _ _ hp hm => ⟨hp.1.moves hm, hp.2.moves hp.1 hm⟩) as).2

theorem Lawful.closed_pool (h : Lawful t) (hn : n < t.server.pools.size)
    (hc : (t.server.pool n).closed = true) (as : List (ServerStep σ)) :
    ((t.steps as).server.pool n).closed = true :=
  h.pool_induction (I := fun p => p.closed = true) hn hc
    (fun _ _ _ _ hp hm => hm.closed_of_closed hp) as

/-- **Nobody else gets what is leased** from a closed pool. -/
theorem Lawful.remains (h : Lawful t) (hn : n < t.server.pools.size)
    (hc : (t.server.pool n).closed = true) (as : List (ServerStep σ)) :
    (t.server.pool n).Remains ((t.steps as).server.pool n) := by
  let I (p : Pool) : Prop := p.Kindred ∧ p.closed = true ∧ (t.server.pool n).Remains p
  have hkindred := h.proper.kindred n
  have hall : I ((t.steps as).server.pool n) :=
    h.pool_induction hn ⟨hkindred, hc, hkindred.remains⟩
      (fun _ _ _ _ ⟨hk, ho, hr⟩ hm => ⟨hk.moves hm, hm.closed_of_closed ho, hr.moves hk ho hm⟩) as
  exact hall.2.2

/-- **What is closed stays closed**, whatever happens. -/
theorem Lawful.closed (h : Lawful t) (hc : t.server.closed = true) (as : List (ServerStep σ)) :
    (t.steps as).server.closed = true :=
  (steps_induction (I := fun u => Lawful u ∧ u.server.closed = true) ⟨h, hc⟩
    (fun _ a hu => ⟨hu.1.step a, (goes_step hu.1 a).closed_of_closed hu.2⟩) as).2

/-- **A module is kept** until it is unloaded. -/
theorem Goes.keeps (hg : Goes t a u) (h : Keeps t name served) (ha : a.unloads name = false) :
    Keeps u name served := by
  refine ⟨Nat.lt_of_lt_of_le h.there hg.size_le, ?_⟩
  rcases h.listed with hc | he
  · exact .inl (hg.closed_of_closed hc)
  · cases hg with
    | acts left new hs hd hworks hx hown hnew hno =>
      refine .inr ?_
      rw [hs.listed.1]
      exact he
    | passed hw hno => exact .inr he
    | loading hx hl hturn hload =>
      cases hload with
      | published hfull hp hb ho hf hw =>
        -- The name that is published was free.
        refine .inr (Dictionary.mem_insertEntry_of_mem he fun hname => ?_)
        have hcontains := Dictionary.contains_iff.mpr ⟨_, he, hname⟩
        cases hf.symm.trans hcontains
      | _ => exact .inr he
    | dropped hx hw => exact .inr he
    | unloads he' hname hs hnew =>
      refine .inr ?_
      rw [hs.listed.1]
      have hne := of_decide_eq_false ha
      exact List.mem_filter.mpr ⟨he, decide_eq_true fun hsame => hne hsame.symm⟩
    | shuts new ha ho hs hnew =>
      exact .inl (hs.listed.2.1.trans (closed_shut _))

theorem Keeps.steps (hk : Keeps t name served) (h : Whole t) (has : Quiet name as) :
    Keeps (t.steps as) name served := by
  induction as generalizing t with
  | nil => exact hk
  | cons a as ih =>
    obtain ⟨ha, hunloads⟩ := has a List.mem_cons_self
    exact ih ((goes_step h.lawful a).keeps hk hunloads) (h.step ha)
      fun b hb => has b (List.mem_cons_of_mem a hb)

/-- **What is kept serves requests**: its pool is closed only with the server. -/
theorem Keeps.serves (hk : Keeps t name served) (h : Whole t) :
    t.server.Serves served.pool := by
  refine ⟨hk.there, h.lawful.proper.kindred _,
    (Server.InOrder.hands_all h.whole served.pool).accounts, fun hc => ?_⟩
  rcases hk.listed with hclosed | he
  · exact hclosed
  · cases (h.lawful.proper.usable _ he).symm.trans hc

/-- **A registry that is open knows what is kept.** -/
theorem Keeps.get (hk : Keeps t name served) (h : t.server.Proper) (ho : t.server.closed = false) :
    t.server.registry.get name = .ok served := by
  have he : (name, served) ∈ t.server.registry.entries.entries :=
    hk.listed.resolve_left (Bool.eq_false_iff.mp ho)
  have hopen : t.server.registry.closed = false := h.flags.trans ho
  have hfound : t.server.registry.entries.find? name = some served := by
    have hcontains := Dictionary.contains_iff.mpr ⟨_, he, rfl⟩
    obtain ⟨other, hother⟩ := Option.isSome_iff_exists.mp hcontains
    obtain ⟨e, hfind, rfl⟩ := Option.map_eq_some_iff.mp hother
    have hname : e.1 = name := by simpa using List.find?_some hfind
    have hsame := List.inj_on_of_nodup_map h.once (List.mem_of_find?_eq_some hfind) he hname
    rw [hother, hsame]
  simp only [Registry.get, hopen, hfound, Bool.false_eq_true, if_false]

/-! ## Steps of others -/

/-- Work that others leave alone stays. -/
theorem Goes.mem_works (hg : Goes t a u) (hy : y ∈ t.works) (hm : y.number? n = some m)
    (ha : Spares t n m a) : y ∈ u.works := by
  cases hg with
  | acts left new hs hd hworks hx hown hnew hno =>
    rcases List.mem_append.mp (hworks.mem_iff.mp hy) with hyx | hrest
    · obtain ⟨k, hk, hturn⟩ := hown y (Option.mem_toList.mp hyx)
      exact (ha k y hk hturn hm).elim
    · exact List.mem_append_right _ hrest
  | passed hw hno => exact hy
  | loading hx hl hturn hload =>
    rcases List.mem_cons.mp ((perm_eraseIdx hx).mem_iff.mp hy) with rfl | hrest
    · exact (ha _ y hx (.inl rfl) hm).elim
    · exact List.mem_append_right _ hrest
  | dropped hx hw =>
    rcases List.mem_cons.mp ((perm_eraseIdx hx).mem_iff.mp hy) with rfl | hrest
    · exact (ha _ y hx (.inr rfl) hm).elim
    · exact hrest
  | unloads he hname hs hnew => exact List.mem_append_right _ hy
  | shuts new ha ho hs hnew => exact List.mem_append_right _ hy

variable {q : Request} {c : Context} {since : Nat} {ws : List (World σ)}
  {st : Standing ServerWork ServerReply}

/-- **The steps of others leave alone what a request has.** -/
theorem Goes.spares {X : Pool → Prop} (hg : Goes t a u) (h : t.server.Proper)
    (hn : n < t.server.pools.size) (hm : m < (t.server.pool n).nextNumber) (ha : Spares t n m a)
    (ht : X (t.server.pool n))
    (hperform : ∀ (w : World σ) p (b : PoolAct), p.Kindred → X p → b.about? ≠ some m →
      X (b.perform w p))
    (hclose : ∀ p, X p → X p.close) :
    X (u.server.pool n) ∧ (u.server.pool n).blueprint = (t.server.pool n).blueprint := by
  have hall : (u.server.pool n).Kindred ∧
      (u.server.pool n).blueprint = (t.server.pool n).blueprint ∧ X (u.server.pool n) := by
    refine hg.spares_induction
      (I := fun p => p.Kindred ∧ p.blueprint = (t.server.pool n).blueprint ∧ X p) hn hm ha
      ⟨h.kindred n, rfl, ht⟩ ?_ ?_
    · rintro w p b ⟨hk, hblueprint, hX⟩ hb
      have hmoves := Pool.perform_moves w p b
      exact ⟨hk.moves hmoves, hmoves.fixed.1.trans hblueprint, hperform w p b hk hX hb⟩
    · rintro p ⟨hk, hblueprint, hX⟩
      have hmoves : Pool.Moves t.server.world p (.drain none) p.close := .closed none
      exact ⟨hk.moves hmoves, hblueprint, hclose p hX⟩
  exact ⟨hall.2.2, hall.2.1⟩

theorem Goes.engaged (hg : Goes t a u) (h : Whole t) (hn : n < t.server.pools.size)
    (hy : y ∈ t.works) (hst : st.work? = some y) (hm : y.number? n = some m)
    (ha : Spares t n m a) (hq : q.Engaged n t.server ws st) : q.Engaged n u.server ws st := by
  have hlt := h.lt_next hy hm
  cases hq with
  | @calling _ l i standing hcalling hl hown hcall hon =>
    obtain rfl := Option.some.inj (hcalling.symm.trans hst)
    obtain rfl : l.number = m := Option.some.inj ((if_pos rfl).symm.trans hm)
    obtain ⟨hl, hblueprint⟩ := hg.spares (X := fun p => l ∈ p.leases) h.lawful.proper hn hlt ha hl
      (fun w p b hk hl hb => Pool.mem_holdings_leased.mp
        (Pool.mem_perform_of_about hk w (Pool.mem_holdings_leased.mpr hl) rfl hb)) fun _ hl => hl
    exact .calling hcalling hl (hblueprint.symm ▸ hown) hcall hon
  | @restoring _ number i j r hrestoring hown hcomes =>
    obtain rfl := Option.some.inj (hrestoring.symm.trans hst)
    obtain rfl : number = m := Option.some.inj ((if_pos rfl).symm.trans hm)
    obtain ⟨hcomes, hblueprint⟩ := hg.spares (X := fun p => p.Comes number i.id) h.lawful.proper
      hn hlt ha hcomes (fun w p b hk hcomes hb => hcomes.perform hk w hb) fun _ h => h.close
    exact .restoring hrestoring (hblueprint.symm ▸ hown) hcomes
  | answered hown hgone => cases hst

/-- **Others leave alone how a request stands.** -/
theorem Goes.stands (hg : Goes t a u) (h : Whole t) (hn : n < t.server.pools.size)
    (hy : y ∈ t.works) (hst : st.work? = some y) (hm : y.number? n = some m)
    (ha : Spares t n m a) (hq : q.Stands n c since t.server ws st) :
    q.Stands n c since u.server ws st := by
  cases hq with
  | @waiting _ ticket hwaiting hx =>
    obtain rfl := Option.some.inj (hwaiting.symm.trans hst)
    obtain rfl : ticket = m := Option.some.inj ((if_pos rfl).symm.trans hm)
    obtain ⟨hx, -⟩ := hg.spares (X := fun p => p.permits.Waits ticket c since) h.lawful.proper hn
      (h.lt_next hy hm) ha hx (fun w p b _ hx hb => Pool.waits_perform hx w hb)
      fun _ hx => hx.of_waiters rfl
    exact .waiting hwaiting hx
  | engaged hq => exact .engaged (hg.engaged h hn hy hst hm ha hq)
  | interrupted hws hi => cases hst
  | late hc => cases hst

/-- Whether a step is a turn of the work that holds a number of a pool. -/
def turns (t : Traffic σ) (n m : Nat) : ServerStep σ → Bool
  | .act (.proceed k) => t.works[k]?.any fun z => z.number? n = some m
  | _ => false

theorem spares_of_turns (hturns : t.turns n m a = false) (ha : a.drops = false) :
    Spares t n m a := by
  rintro k z hk (rfl | rfl) hz
  · rw [turns, hk, Option.any_some] at hturns
    exact of_decide_eq_false hturns hz
  · cases ha

end Traffic

/-! ## Following a request -/

/-- **A request on its way.** -/
structure Underway (σ : Type) where
  /-- The traffic. -/
  traffic : Traffic σ
  /-- The worlds in which the request had its turns. -/
  worlds : List (World σ)
  /-- How it stands. -/
  standing : Standing ServerWork ServerReply

/-- A request that has just begun. -/
def Traffic.request (t : Traffic σ) (q : Request) : Underway σ where
  traffic := t.step (.act (.begin q.context q.command))
  worlds := [t.server.world]
  standing := (t.server.begin q.context q.command).2

namespace Underway

open Request Traffic

/-- **A request after a step**: it has its turn when the work has that holds its number, and once it
is answered it is not followed any further. -/
def step (n : Nat) (x : Underway σ) (a : ServerStep σ) : Underway σ :=
  match x.standing.work? with
  | none => x
  | some y =>
    if (y.number? n).any (x.traffic.turns n · a) then
      { traffic := x.traffic.step a
        worlds := x.worlds ++ [x.traffic.server.world]
        standing := (x.traffic.server.proceed y).2 }
    else { x with traffic := x.traffic.step a }

/-- **A request after some steps.** -/
def steps (n : Nat) (x : Underway σ) (as : List (ServerStep σ)) : Underway σ := as.foldl (step n) x

/-- The traffic is that after some steps, as long as the request is followed. -/
theorem steps_traffic (n : Nat) (x : Underway σ) (as : List (ServerStep σ)) :
    ∃ bs, (x.steps n as).traffic = x.traffic.steps bs := by
  induction as generalizing x with
  | nil => exact ⟨[], rfl⟩
  | cons a as ih =>
    obtain ⟨bs, hbs⟩ := ih (x.step n a)
    have hfirst : (x.step n a).traffic = x.traffic ∨
        (x.step n a).traffic = x.traffic.step a := by
      unfold step
      split
      · exact .inl rfl
      · split <;> exact .inr rfl
    rcases hfirst with hfirst | hfirst
    · exact ⟨bs, hfirst ▸ hbs⟩
    · exact ⟨a :: bs, hbs.trans (congrArg (·.steps bs) hfirst)⟩

/-- **What a step can do to a request**: nothing any more, give it its turn, or leave it alone. -/
inductive Goes (n : Nat) (x : Underway σ) (a : ServerStep σ) : Underway σ → Prop
  | past (hx : x.standing.work? = none) : Goes n x a x
  | turn {y : ServerWork} {k : Nat} {s : Server σ} {st : Standing ServerWork ServerReply}
      (hx : x.standing.work? = some y) (hturn : x.traffic.server.proceed y = (s, st))
      (ht : x.traffic.step a = ⟨s, st.work?.toList ++ x.traffic.works.eraseIdx k⟩) :
      Goes n x a ⟨x.traffic.step a, x.worlds ++ [x.traffic.server.world], st⟩
  | others {y : ServerWork} {m : Nat} (hx : x.standing.work? = some y) (hm : y.number? n = some m)
      (ha : Spares x.traffic n m a) : Goes n x a { x with traffic := x.traffic.step a }

/-- **A request among others**, for a module that is kept. -/
structure Races (q : Request) (served : Served) (c : Context) (since : Nat) (x : Underway σ) :
    Prop where
  whole : x.traffic.Whole
  keeps : x.traffic.Keeps q.name served
  works : ∀ y ∈ x.standing.work?, y ∈ x.traffic.works
  stands : q.Stands served.pool c since x.traffic.server x.worlds x.standing

variable {q : Request} {served : Served} {c : Context} {since : Nat} {x : Underway σ}
  {a : ServerStep σ} {as : List (ServerStep σ)} {n : Nat}

namespace Races

/-- **Every step goes one of these ways.** -/
theorem goes_step (h : x.Races q served c since) (ha : a.drops = false) :
    Goes served.pool x a (x.step served.pool a) := by
  unfold step
  split
  · rename_i hx
    exact .past hx
  · rename_i y hx
    obtain ⟨m, hm⟩ := h.stands.number? hx
    rw [hm, Option.any_some]
    split
    · rename_i hturns
      -- Whatever holds the number is the work of the request.
      unfold Traffic.turns at hturns
      split at hturns
      · rename_i k
        obtain ⟨z, hk, hz⟩ := (Option.any_eq_true _ _).mp hturns
        obtain rfl : z = y := h.whole.eq_of_number (List.mem_of_getElem? hk) (h.works y hx)
          (of_decide_eq_true hz) hm
        refine .turn (k := k) hx rfl ?_
        rw [step_proceed, perform, hk]
        rfl
      · cases hturns
    · rename_i hturns
      exact .others hx hm (spares_of_turns (Bool.eq_false_iff.mpr hturns) ha)

/-- **A step leaves a request among others**, with its module kept. -/
theorem step (h : x.Races q served c since) (ha : a.drops = false)
    (hunloads : a.unloads q.name = false) : (x.step served.pool a).Races q served c since := by
  have hgoes := h.goes_step ha
  have hwhole := h.whole.step ha
  have hstep := Traffic.goes_step h.whole.lawful a
  have hkeeps := hstep.keeps h.keeps hunloads
  generalize x.step served.pool a = x' at hgoes
  cases hgoes with
  | past hx => exact h
  | @turn y k s st hx hturn ht =>
    refine ⟨hwhole, hkeeps, fun z hz => ?_, ?_⟩
    · rw [ht]
      exact List.mem_append_left _ (Option.mem_toList.mpr hz)
    · have hstands := Server.stands_proceed (h.keeps.serves h.whole) h.stands hx
      rw [hturn] at hstands
      rw [ht]
      exact hstands
  | @others y m hx hm ha =>
    refine ⟨hwhole, hkeeps, fun z hz => ?_, ?_⟩
    · obtain rfl := Option.some.inj (hx.symm.trans hz)
      exact hstep.mem_works (h.works y hx) hm ha
    · exact hstep.stands h.whole h.keeps.there (h.works y hx) hx hm ha h.stands

theorem steps (h : x.Races q served c since) (has : Quiet q.name as) :
    (x.steps served.pool as).Races q served c since := by
  induction as generalizing x with
  | nil => exact h
  | cons a as ih =>
    obtain ⟨ha, hunloads⟩ := has a List.mem_cons_self
    exact ih (h.step ha hunloads) fun b hb => has b (List.mem_cons_of_mem a hb)

/-- **Whoever has an instance has it** until the answer. -/
theorem engaged (h : x.Races q served c since) (has : Quiet q.name as)
    (hx : q.Engaged served.pool x.traffic.server x.worlds x.standing) :
    let x' := x.steps served.pool as
    q.Engaged served.pool x'.traffic.server x'.worlds x'.standing := by
  induction as generalizing x with
  | nil => exact hx
  | cons a as ih =>
    obtain ⟨ha, hunloads⟩ := has a List.mem_cons_self
    refine ih (h.step ha hunloads) (fun b hb => has b (List.mem_cons_of_mem a hb)) ?_
    have hgoes := h.goes_step ha
    generalize x.step served.pool a = x' at hgoes
    cases hgoes with
    | past hpast => exact hx
    | turn hwork hturn ht =>
      have hnext := Server.engaged_proceed (h.keeps.serves h.whole) hx hwork
      rw [hturn] at hnext
      rw [ht]
      exact hnext
    | others hwork hm ha =>
      exact (Traffic.goes_step h.whole.lawful a).engaged h.whole h.keeps.there
        (h.works _ hwork) hwork hm ha hx

end Races

/-- **A request that begins** is among others from its first turn on. -/
theorem races_request {t : Traffic σ} (h : t.Whole) (hk : t.Keeps q.name served) :
    (t.request q).Races q served
      ((t.server.pool served.pool).bounded t.server.world.clock q.served)
      t.server.world.clock.now := by
  have ha : (ServerStep.act (.begin q.context q.command) : ServerStep σ).drops = false := rfl
  have hstep := Traffic.goes_step h.lawful (.act (.begin q.context q.command))
  have hstands : q.Stands served.pool
      ((t.server.pool served.pool).bounded t.server.world.clock q.served)
      t.server.world.clock.now (t.server.begin q.context q.command).1 [t.server.world]
      (t.server.begin q.context q.command).2 := by
    cases hc : t.server.closed with
    | false => exact Server.stands_begin hc (hk.get h.lawful.proper hc) (hk.serves h)
    | true =>
      rw [Request.command, Server.begin_execute_late hc]
      exact .late hc
  exact ⟨h.step ha, hstep.keeps hk rfl,
    fun y hy => List.mem_append_left _ (Option.mem_toList.mpr hy), hstands⟩

/-! ## Answers -/

/-- **The outcome of a request's own call**, on an instance with the code of the module: if the pool
is closed by then, the instance is gone for ever. -/
def Outcome (q : Request) (n : Nat) (x : Underway σ) (reply : ServerReply) : Prop :=
  ∃ i j r, reply = .ofCall r ∧ Call.Own r ∧
    q.OwnCall (x.traffic.server.pool n).blueprint x.worlds i (j, .ended r) ∧
    ((x.traffic.server.pool n).closed = true →
      ∀ as, ((x.traffic.steps as).server.pool n).Gone i.id)

/-- **How a request fares** that began in some traffic and is followed since.

* As long as it is in progress it is among the work, so it has its turn when that has (`works`).
* An answer is the outcome of its own call, or that its context ended its wait, or that the server
  is closed, which it is then (`answer`).
* It never reads as if the pool were closed or the module were missing; if it reads as if no
  instance were idle, the guest said so (`never`).
* Whoever holds a lease gets the outcome of the own call, whatever else happens (`holds`); whoever
  waits when the pool is closed is told in their next turn that the server is (`late`).
* A shutdown whose drains begin at once closes the pool, for good (`closes`). -/
structure Fares (q : Request) (n : Nat) (t : Traffic σ) (x : Underway σ) : Prop where
  works : ∀ y ∈ x.standing.work?, y ∈ x.traffic.works
  answer : ∀ reply, x.standing = .ended reply → x.Outcome q n reply ∨
    (∃ before w why, x.worlds = before ++ [w] ∧
      ((t.server.pool n).bounded t.server.world.clock q.served).interruption w.clock = some why ∧
      reply = .refused (why.ofWait (w.clock.now - t.server.world.clock.now))) ∨
    (reply = .refused .serverClosed ∧ x.traffic.server.closed = true)
  never : ∀ e, x.standing = .ended (.refused e) →
    (∀ name, e ≠ .poolClosed name ∧ e ≠ .moduleNotFound name) ∧
      (e = .execution "no idle instance available" → x.Outcome q n (.refused e))
  holds : ∀ lease, x.standing.work? = some (.calling n lease) → ∀ as, Quiet q.name as →
    ∀ reply, (x.steps n as).standing = .ended reply → (x.steps n as).Outcome q n reply
  late : ∀ ticket c entrypoint payload,
    x.standing.work? = some (.waiting n ticket c entrypoint payload) →
      (x.traffic.server.pool n).closed = true →
        (x.traffic.server.proceed (.waiting n ticket c entrypoint payload)).2 =
          .ended (.refused .serverClosed)
  closes : ∀ y ∈ x.standing.work?, x.traffic.server.closed = false → ∀ c as,
    ((x.steps n (.act (.begin c .shutDown) :: as)).traffic.server.pool n).closed = true

namespace Races

theorem outcome (h : x.Races q served c since) {reply : ServerReply}
    (hengaged : q.Engaged served.pool x.traffic.server x.worlds x.standing)
    (hx : x.standing = .ended reply) : x.Outcome q served.pool reply := by
  rw [hx] at hengaged
  cases hengaged with
  | calling hst hl hown hcall hon => cases hst
  | restoring hst hown hcomes => cases hst
  | @answered i j r hown hgone =>
    exact ⟨i, j, r, rfl, hown.own, hown, fun hc => h.whole.lawful.gone h.keeps.there (hgone hc)⟩

/-- **Every answer is one of three.** -/
theorem answer (h : x.Races q served c since) {reply : ServerReply} (hx : x.standing = .ended reply) :
    x.Outcome q served.pool reply ∨
      (∃ before w why, x.worlds = before ++ [w] ∧ c.interruption w.clock = some why ∧
        reply = .refused (why.ofWait (w.clock.now - since))) ∨
      (reply = .refused .serverClosed ∧ x.traffic.server.closed = true) := by
  have hstands := h.stands
  rw [hx] at hstands
  cases hstands with
  | waiting hst hwaits => cases hst
  | engaged hengaged => exact .inl (h.outcome (hx ▸ hengaged) hx)
  | @interrupted before w why hws hi => exact .inr (.inl ⟨before, w, why, hws, hi, rfl⟩)
  | late hc => exact .inr (.inr ⟨rfl, hc⟩)

/-- **No answer reads as if something were missing.** -/
theorem never (h : x.Races q served c since) {e : HostError}
    (hx : x.standing = .ended (.refused e)) :
    (∀ name, e ≠ .poolClosed name ∧ e ≠ .moduleNotFound name) ∧
      (e = .execution "no idle instance available" → x.Outcome q served.pool (.refused e)) := by
  rcases h.answer hx with houtcome | ⟨before, w, why, -, -, hwhy⟩ | ⟨hlate, -⟩
  · refine ⟨fun name => ?_, fun _ => houtcome⟩
    obtain ⟨i, j, r, hr, hown, -⟩ := houtcome
    cases r with
    | ok bytes => cases hr
    | error e' =>
      cases hr
      have hcall : e.isOfCall = true := hown e rfl
      constructor <;> rintro rfl <;> cases hcall
  · cases hwhy
    cases why with
    | canceled => exact ⟨fun name => ⟨by rintro ⟨⟩, by rintro ⟨⟩⟩, by rintro ⟨⟩⟩
    | deadlineExceeded => exact ⟨fun name => ⟨by rintro ⟨⟩, by rintro ⟨⟩⟩, by rintro ⟨⟩⟩
  · cases hlate
    exact ⟨fun name => ⟨by rintro ⟨⟩, by rintro ⟨⟩⟩, by rintro ⟨⟩⟩

/-- **A shutdown closes the pool** of whoever is in progress, for good. -/
theorem closes (h : x.Races q served c since) {y : ServerWork} (hy : x.standing.work? = some y)
    (ho : x.traffic.server.closed = false) (c' : Context) (as : List (ServerStep σ)) :
    ((x.steps served.pool (.act (.begin c' .shutDown) :: as)).traffic.server.pool
      served.pool).closed = true := by
  let a : ServerStep σ := .act (.begin c' .shutDown)
  have hnext : (x.step served.pool a).Races q served c since := h.step rfl rfl
  have htraffic : (x.step served.pool a).traffic = x.traffic.step a := by
    have hgoes : Goes served.pool x a (x.step served.pool a) := h.goes_step rfl
    generalize x.step served.pool a = x' at hgoes
    cases hgoes with
    | past hx => cases hx.symm.trans hy
    | turn hx hturn ht => rfl
    | others hx hm ha => rfl
  have he := h.keeps.listed.resolve_left (Bool.eq_false_iff.mp ho)
  have hclosed : ((x.traffic.step a).server.pool served.pool).closed = true :=
    (Server.acts_shutDown h.whole.lawful.proper ho).2 _ he
  rw [← htraffic] at hclosed
  obtain ⟨bs, hbs⟩ := steps_traffic served.pool (x.step served.pool a) as
  have hsteps : (x.steps served.pool (a :: as)).traffic = (x.step served.pool a).traffic.steps bs :=
    hbs
  rw [hsteps]
  exact hnext.whole.lawful.closed_pool hnext.keeps.there hclosed bs

theorem fares {t : Traffic σ} (h : x.Races q served
    ((t.server.pool served.pool).bounded t.server.world.clock q.served)
    t.server.world.clock.now) : x.Fares q served.pool t where
  works := h.works
  answer := fun _ hx => h.answer hx
  never := fun _ hx => h.never hx
  holds := by
    intro lease hx as has reply hreply
    have hengaged : q.Engaged served.pool x.traffic.server x.worlds x.standing := by
      have hstands := h.stands
      generalize x.standing = st at hx hstands
      cases hstands with
      | waiting hst hwaits => cases hst.symm.trans hx
      | engaged hengaged => exact hengaged
      | interrupted hws hi => cases hx
      | late hc => cases hx
    exact (h.steps has).outcome (h.engaged has hengaged) hreply
  late := fun ticket c entrypoint payload _ hc =>
    Server.proceed_waiting_late (h.keeps.serves h.whole) hc ticket c entrypoint payload
  closes := fun y hy ho c as => h.closes hy ho c as

end Races

end Underway

/-! ## Shutting down -/

namespace Traffic

variable {t u : Traffic σ} {a : ServerStep σ}

/-- **A server that is closed gets no more pools.** -/
theorem Goes.size_of_closed (hg : Goes t a u) (h : t.server.Proper) (hc : t.server.closed = true) :
    u.server.pools.size = t.server.pools.size := by
  cases hg with
  | acts left new hs hd hworks hx hown hnew hno => exact hs.size
  | passed hw hno => rfl
  | loading hx hl hturn hload =>
    cases hload with
    | published hfull hp hb ho hf hw => cases (ho.symm.trans h.flags).trans hc
    | _ => rfl
  | dropped hx hw => rfl
  | unloads he hname hs hnew => exact hs.size
  | shuts new ha ho hs hnew => cases ho.symm.trans hc

theorem Lawful.size_of_closed (h : Lawful t) (hc : t.server.closed = true)
    (as : List (ServerStep σ)) : (t.steps as).server.pools.size = t.server.pools.size :=
  (steps_induction
    (I := fun u => Lawful u ∧ u.server.closed = true ∧
      u.server.pools.size = t.server.pools.size) ⟨h, hc, rfl⟩
    (fun _ a hu =>
      have hg := goes_step hu.1 a
      ⟨hu.1.step a, hg.closed_of_closed hu.2.1,
        (hg.size_of_closed hu.1.proper hu.2.1).trans hu.2.2⟩) as).2.2

/-- Somebody who is late to shut a server down only reports so. -/
theorem shut_late (hc : t.server.closed = true) (c : Context) :
    t.server.shutDown.2 = .ended .done ∧
      ∃ journal, t.step .shut =
        ⟨{ t.server with world := { t.server.world with journal := journal } }, t.works⟩ ∧
      t.step (.act (.begin c .shutDown)) = t.step .shut := by
  have hshut : t.step .shut =
      ⟨t.server.report (Server.event .debug "Shutdown already performed" []), t.works⟩ := by
    rw [Traffic.step, Server.shut, if_pos hc]
  refine ⟨by rw [Server.shutDown_of_closed hc], _, hshut, ?_⟩
  rw [hshut, step_begin, perform, Server.begin, Server.shutDown_of_closed hc]
  rfl

/-- **How a server at work is shut down**, at any point of it.

* Whoever asks for a module that is loaded, and is not unloaded meanwhile, fares as they should
  (`Underway.Fares`), whether they ask before or after the shutdown, between two of its turns or
  between two of other requests (`fares`).
* Once the server is closed it stays so, and requests and loads that begin are refused for that
  (`refuses`).
* Loads in progress publish nothing from then on, and one that has filled its pool is told that the
  server is closed (`publishes`).
* A shutdown closes the pools of all modules, each when its drain begins (`closes`, `closing`); a
  pool that is closed stays so, and what is gone from a pool never comes back (`stays`).
* From the closing of a pool on nothing becomes idle in it, nobody gets a lease, and what was leased
  is leased by the same still, or being given back, or gone (`remains`).
* Further shutdowns leave everything as it is, but for a line in the journal (`again`). -/
structure Graceful (t : Traffic σ) : Prop where
  fares : ∀ (q : Request) (served : Served) (as bs : List (ServerStep σ)),
    t.server.registry.get q.name = .ok served → Quiet q.name as → Quiet q.name bs →
      (((t.steps as).request q).steps served.pool bs).Fares q served.pool (t.steps as)
  refuses : t.server.closed = true → ∀ as, (t.steps as).server.closed = true ∧
    ∀ c, (∀ name entrypoint payload, (t.steps as).server.begin c (.execute name entrypoint payload) =
        ((t.steps as).server, .ended (.refused .serverClosed))) ∧
      ∀ plan, (t.steps as).server.begin c (.load plan) =
        ((t.steps as).server, .ended (.refused .serverClosed))
  publishes : t.server.closed = true → ∀ as,
    (t.steps as).server.registry = t.server.registry ∧ t.server.registry.entries.entries = [] ∧
      (t.steps as).server.pools.size = t.server.pools.size ∧
      ∀ x ∈ (t.steps as).works, x.load?.isSome → ∀ reply,
        ((t.steps as).server.proceed x).2 = .ended reply →
          ∃ e, reply = .refused e ∧ (((t.steps as).server.fills? x).isSome → e = .serverClosed)
  closes : t.server.closed = false → ∀ c, ∀ e ∈ t.server.registry.entries.entries,
    ((t.step (.act (.begin c .shutDown))).server.pool e.2.pool).closed = true
  closing : t.server.closed = true → ∀ n < t.server.pools.size,
    ((t.step (.close n)).server.pool n).closed = true
  stays : ∀ n < t.server.pools.size, ∀ as,
    ((t.server.pool n).closed = true → ((t.steps as).server.pool n).closed = true) ∧
      ∀ id, (t.server.pool n).Gone id → ((t.steps as).server.pool n).Gone id
  remains : ∀ n < t.server.pools.size, (t.server.pool n).closed = true → ∀ as,
    (t.server.pool n).Remains ((t.steps as).server.pool n)
  again : t.server.closed = true → ∀ c, t.server.shutDown.2 = .ended .done ∧
    ∃ journal, t.step .shut =
      ⟨{ t.server with world := { t.server.world with journal := journal } }, t.works⟩ ∧
    t.step (.act (.begin c .shutDown)) = t.step .shut

theorem Whole.graceful (h : Whole t) : Graceful t where
  fares := by
    intro q served as bs hget has hbs
    obtain ⟨-, he⟩ := Registry.mem_of_get hget
    have hkeeps : Keeps t q.name served := ⟨(h.lawful.proper.named _ he).1, .inr he⟩
    have hwhole : Whole (t.steps as) := h.steps fun a ha => (has a ha).1
    exact ((Underway.races_request hwhole (hkeeps.steps h has)).steps hbs).fares
  refuses := fun hc as =>
    have hclosed := h.lawful.closed hc as
    ⟨hclosed, fun c => ⟨Server.begin_execute_late hclosed c, Server.begin_load_late hclosed c⟩⟩
  publishes := by
    intro hc as
    have hregistry : t.server.registry.closed = true := h.lawful.proper.flags.trans hc
    have hsame := h.lawful.registry_of_closed hregistry as
    refine ⟨hsame, h.lawful.proper.emptied hc, h.lawful.size_of_closed hc as, ?_⟩
    intro x hx hload
    obtain ⟨⟨name, size⟩, hl⟩ := Option.isSome_iff_exists.mp hload
    have hloading := Server.loading_proceed (s := (t.steps as).server) hl
      ((h.lawful.steps as).genuine x hx)
    exact (hloading.late_of_closed (hsame.symm ▸ hregistry)).2.2
  closes := fun ho c e he => (Server.acts_shutDown h.lawful.proper ho).2 e he
  closing := by
    intro hc n hn
    rw [Traffic.step, if_pos ⟨hc, hn⟩]
    exact congrArg Pool.closed (Server.pool_after hn)
  stays := fun n hn as =>
    ⟨fun hc => h.lawful.closed_pool hn hc as, fun id hgone => h.lawful.gone hn hgone as⟩
  remains := fun _ hn hc as => h.lawful.remains hn hc as
  again := fun hc c => shut_late hc c

/-- **Every server is shut down gracefully**: whatever was done with it before, as long as nothing
was given up, whoever is served, waits or loads then fares as they should. -/
theorem shutdown_is_graceful {w v : World σ} {files : Files} {plan : ServerPlan} {s : Server σ}
    (hs : Server.start w files plan = (v, .ok s)) (as : List (ServerStep σ))
    (has : ∀ a ∈ as, a.drops = false) : Graceful (steps ⟨s, []⟩ as) :=
  ((whole_of_start hs).steps has).graceful

theorem Graceful.fares_now (h : Graceful t) {q : Request} {served : Served}
    {as : List (ServerStep σ)} (hget : t.server.registry.get q.name = .ok served)
    (has : Quiet q.name as) : ((t.request q).steps served.pool as).Fares q served.pool t :=
  h.fares q served [] as hget (fun _ ha => nomatch ha) has

/-- A server is shut down while a request has the only instance of its module, and the pool is closed
while that is tidied up: the request gets the outcome of its own call, and the instance is gone for
ever. -/
theorem shut_while_called :
    let t := steps ⟨.unused, []⟩ [.act (.begin default (.load ⟨"tidy", .bytes .tidyGuest, 1⟩)),
      .act (.proceed 0)]
    let q : Request := ⟨default, "tidy", "run", ByteArray.empty⟩
    let as : List (ServerStep Unit) := [.shut, .act (.proceed 0), .act (.proceed 0), .close 0,
      .act (.elapse (World.slow.advance 50)), .act (.proceed 0)]
    let x := (t.request q).steps 0 as
    Graceful t ∧ (∃ bytes, x.standing = .ended (.output bytes)) ∧
      ∃ i : Instance, ∀ bs, ((x.traffic.steps bs).server.pool 0).Gone i.id := by
  intro t q as x
  have hstart : Server.start World.slow Files.none {} =
      ((Server.start World.slow Files.none {}).1, .ok .unused) := rfl
  have hgraceful : Graceful t := shutdown_is_graceful hstart _ (by simp [ServerStep.drops])
  have hquiet : Quiet q.name as := by simp [Quiet, as, ServerStep.drops, ServerStep.unloads]
  -- What the run comes to is computed; that it is graceful is not.
  have hruns : (t.server.registry.get q.name).toOption.map (·.pool) = some 0 ∧
      (x.standing.result?.any fun r => r matches .output _) = true ∧
      (x.traffic.server.pool 0).closed = true := by decide +kernel
  obtain ⟨hpool, hanswer, hclosed⟩ := hruns
  obtain ⟨served, hget, hpool⟩ : ∃ served, t.server.registry.get q.name = .ok served ∧
      served.pool = 0 := by
    cases hget : t.server.registry.get q.name with
    | error e => rw [hget] at hpool; cases hpool
    | ok served => rw [hget] at hpool; exact ⟨served, rfl, Option.some.inj hpool⟩
  have hfares : x.Fares q 0 t := by
    have hnow := hgraceful.fares_now hget hquiet
    rw [hpool] at hnow
    exact hnow
  clear_value x
  obtain ⟨bytes, hended⟩ : ∃ bytes, x.standing = .ended (.output bytes) := by
    obtain ⟨reply, hreply, houtput⟩ := (Option.any_eq_true _ _).mp hanswer
    cases reply with
    | output bytes =>
      cases hst : x.standing with
      | ended r => rw [hst] at hreply; cases hreply; exact ⟨bytes, rfl⟩
      | busy _ | blocked _ => rw [hst] at hreply; cases hreply
    | _ => cases houtput
  refine ⟨hgraceful, ⟨bytes, hended⟩, ?_⟩
  rcases hfares.answer _ hended with ⟨i, j, r, -, -, -, hgone⟩ | ⟨_, _, _, _, _, hreply⟩ | ⟨hreply, _⟩
  · exact ⟨i, hgone hclosed⟩
  · cases hreply
  · cases hreply

/-- **An instance may be leased again while the server is shut down.**  A request has the only
instance of its module and another one waits for it.  The server is closed, but the drain of the pool
has yet to begin: the first request gets its answer, its instance is idle again and not destroyed,
and the other one leases it. -/
theorem reused_while_shut :
    let t := steps ⟨.unused, []⟩ [.act (.begin default (.load ⟨"tidy", .bytes .tidyGuest, 1⟩)),
      .act (.proceed 0)]
    let q : Request := ⟨default, "tidy", "run", ByteArray.empty⟩
    let x := (t.request q).steps 0 [.act (.begin q.context q.command), .shut]
    let y := x.steps 0 [.act (.proceed 1), .act (.proceed 0),
      .act (.elapse (World.slow.advance 50)), .act (.proceed 0)]
    let z := y.traffic.step (.act (.proceed 0))
    let leased (p : Pool) := p.leases.map fun l => (l.number, l.held.id)
    (x.traffic.server.closed = true ∧ leased (x.traffic.server.pool 0) = [(0, 1)]) ∧
    (y.standing.result?.any fun r => r matches .output _) = true ∧
    leased (z.server.pool 0) = [(3, 1)] ∧ (z.server.pool 0).destroyed = 0 ∧
      ¬ (z.server.pool 0).Gone 1 := by
  intro t q x y z leased
  have hagain : leased (z.server.pool 0) = [(3, 1)] := by decide +kernel
  refine ⟨⟨by decide +kernel, by decide +kernel⟩, by decide +kernel, hagain, by decide +kernel, ?_⟩
  intro hgone
  have hmem : (3, 1) ∈ leased (z.server.pool 0) := hagain ▸ List.mem_singleton_self _
  obtain ⟨l, hl, hpair⟩ := List.mem_map.mp hmem
  exact hgone.absent _ (Pool.mem_holdings_leased.mpr hl) (congrArg Prod.snd hpair)

end Traffic
end FunctionHost

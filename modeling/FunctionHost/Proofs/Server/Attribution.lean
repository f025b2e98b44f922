import FunctionHost.Proofs.Server.Clear

/-!
# In whose name guests ask

A `Docket` is a server with its unfinished work, and with it the request for which each piece of work
was begun, if any.  It goes through the same steps as the traffic without these labels
(`traffic_steps`), so they are a matter of who looks on.

Whatever happens in between, the turns of a request ask the callback in the context of that request,
and the turns of whatever else runs guests ask in contexts that are made up for a single host call
(`Docket.host_calls_are_attributed`).
-/
namespace FunctionHost

variable {σ : Type}

/-- **A server at work**, and for whom each piece of work was begun. -/
structure Docket (σ : Type) where
  /-- The server. -/
  server : Server σ
  /-- What it has to do, and for whom. -/
  errands : List (ServerWork × Option Request)

/-- The request that a step makes, if any. -/
def ServerStep.request? : ServerStep σ → Option Request
  | .act (.begin c (.execute name entrypoint payload)) => some ⟨c, name, entrypoint, payload⟩
  | _ => none

/-- **Whether identities are made up once**, as far as a step is concerned: those made up before are
not made up again, and a request that has one had it before. -/
def ServerStep.Minted (w : World σ) : ServerStep σ → Prop
  | .act (.elapse v) => w.minted ≤ v.minted
  | .act (.begin c _) => ∀ n, c.request = .generated n → n < w.minted
  | _ => True

namespace Docket

/-- The traffic without labels. -/
def traffic (d : Docket σ) : Traffic σ := ⟨d.server, d.errands.map Prod.fst⟩

/-- **The docket after a step**: what goes on has the label that it had, and what is begun for a
request has that request. -/
def step (d : Docket σ) (a : ServerStep σ) : Docket σ :=
  match a with
  | .act (.begin c command) =>
    let (s, standing) := d.server.begin c command
    ⟨s, standing.work?.toList.map (·, a.request?) ++ d.errands⟩
  | .act (.proceed k) =>
    match d.errands[k]? with
    | none => d
    | some (x, q) =>
      let (s, standing) := d.server.proceed x
      ⟨s, standing.work?.toList.map (·, q) ++ d.errands.eraseIdx k⟩
  | .act (.drop k) =>
    match d.errands[k]? with
    | none => d
    | some (x, _) => ⟨d.server.drop x, d.errands.eraseIdx k⟩
  | .act .collect => ⟨{ d.server with left := [] }, d.server.background.map (·, none) ++ d.errands⟩
  | a => ⟨(d.traffic.step a).server, d.errands⟩

/-- **The docket after some steps.** -/
def steps (d : Docket σ) (as : List (ServerStep σ)) : Docket σ := as.foldl step d

/-- Whether identities are made up once in some steps. -/
def Minted (d : Docket σ) : List (ServerStep σ) → Prop
  | [] => True
  | a :: as => a.Minted d.server.world ∧ (d.step a).Minted as

/-- The guest that has its turn in a step, if any has. -/
def running? (d : Docket σ) : ServerStep σ → Option Running
  | .act (.proceed k) => d.errands[k]?.bind fun e => d.server.running? e.1
  | _ => none

/-- **What the callback is asked in a step.** -/
def asks (d : Docket σ) (a : ServerStep σ) : List (Context × HostRequest) :=
  Running.asks? (d.running? a) Server.quantum d.server.world

/-! ## Labels -/

variable {d : Docket σ} {k : Nat} {x : ServerWork} {q : Option Request}

theorem works_getElem? (hx : d.errands[k]? = some (x, q)) : d.traffic.works[k]? = some x := by
  rw [traffic, List.getElem?_map, hx]
  rfl

theorem map_fst_label (xs : List ServerWork) (q : Option Request) :
    (xs.map (·, q)).map Prod.fst = xs := by
  rw [List.map_map]
  exact List.map_id xs

/-- **Labels change nothing** about what happens. -/
theorem traffic_step (d : Docket σ) (a : ServerStep σ) : (d.step a).traffic = d.traffic.step a := by
  cases a with
  | act a =>
    cases a with
    | begin c command =>
      rw [step, traffic, List.map_append, map_fst_label]
      rfl
    | proceed k =>
      rw [step, Traffic.step_proceed, Traffic.perform]
      cases hx : d.errands[k]? with
      | none =>
        have hnone : d.traffic.works[k]? = none := by rw [traffic, List.getElem?_map, hx]; rfl
        rw [hnone]
      | some e =>
        rw [works_getElem? (x := e.1) (q := e.2) hx]
        dsimp only
        rw [traffic, List.map_append, map_fst_label, ← List.eraseIdx_map]
        rfl
    | drop k =>
      rw [step, Traffic.step_drop, Traffic.perform]
      cases hx : d.errands[k]? with
      | none =>
        have hnone : d.traffic.works[k]? = none := by rw [traffic, List.getElem?_map, hx]; rfl
        rw [hnone]
      | some e =>
        rw [works_getElem? (x := e.1) (q := e.2) hx]
        dsimp only
        rw [traffic, ← List.eraseIdx_map]
        rfl
    | collect =>
      rw [step, traffic, List.map_append, map_fst_label]
      rfl
    | elapse w => rfl
  | shut => rfl
  | close n =>
    -- Closing or draining a pool concerns no work.
    have hworks : (d.traffic.step (.close n)).works = d.traffic.works := by
      rw [Traffic.step]
      split <;> rfl
    exact congrArg (Traffic.mk _) hworks.symm
  | drain n deadline =>
    have hworks : (d.traffic.step (.drain n deadline)).works = d.traffic.works := by
      rw [Traffic.step]
      split <;> rfl
    exact congrArg (Traffic.mk _) hworks.symm

theorem traffic_steps (d : Docket σ) (as : List (ServerStep σ)) :
    (d.steps as).traffic = d.traffic.steps as := by
  induction as generalizing d with
  | nil => rfl
  | cons a as ih =>
    have hrest := ih (d.step a)
    rw [traffic_step] at hrest
    exact hrest

/-! ## Keeping requests apart -/

/-- **Dockets that keep requests apart**, of which some have been made. -/
structure Apart (requests : List Request) (d : Docket σ) : Prop where
  lawful : d.traffic.Lawful
  clear : ∀ n, (d.server.pool n).Clear
  serves : ∀ e ∈ d.errands, e.1.Serves d.server e.2
  known : ∀ e ∈ d.errands, ∀ r ∈ e.2, r ∈ requests
  past : ∀ r ∈ requests, ∀ n, r.context.request = .generated n → n < d.server.world.minted

/-- A lease that some work has was given out before. -/
theorem lease_lt {t : Traffic σ} (h : t.Lawful) {x : ServerWork} (hx : x ∈ t.works)
    (n lease : Nat) (hcalling : x = .calling n lease) : lease < (t.server.pool n).nextNumber := by
  subst hcalling
  obtain ⟨broken, hsteady⟩ := h.steady
  obtain ⟨hnumbered, -, hleases, -⟩ := Server.InOrder.hands_all hsteady n
  have hmem : lease ∈ ServerWork.leases n (t.works ++ t.server.background) :=
    List.mem_filterMap.mpr ⟨_, List.mem_append_left _ hx, if_pos rfl⟩
  exact hnumbered.leases.2 _ (hleases.mem_iff.mpr hmem)

namespace Apart

variable {requests : List Request} {a : ServerStep σ}

theorem mem_works {e : ServerWork × Option Request} (he : e ∈ d.errands) :
    e.1 ∈ d.traffic.works := List.mem_map_of_mem he

/-- **A step keeps the pools as they should be.** -/
theorem keepsApart (h : Apart requests d) (a : ServerStep σ) :
    Server.KeepsApart d.server (d.step a).server := by
  have hproper := h.lawful.proper
  cases a with
  | act a =>
    cases a with
    | begin c command => exact Server.begin_keepsApart h.clear hproper c command
    | proceed k =>
      rw [step]
      split
      · exact .of_pools h.clear rfl
      · rename_i x q hx
        have hwork := works_getElem? hx
        exact Server.proceed_keepsApart h.clear hproper (h.lawful.sound hwork)
          (h.lawful.genuine x (List.mem_of_getElem? hwork)) (h.serves _ (List.mem_of_getElem? hx))
    | drop k =>
      rw [step]
      split
      · exact .of_pools h.clear rfl
      · rename_i x q hx
        exact Server.drop_keepsApart h.clear hproper (h.lawful.sound (works_getElem? hx))
    | collect => exact .of_pools h.clear rfl
    | elapse w => exact .of_pools h.clear rfl
  | shut =>
    -- Shutting down leaves the pools as they are; they are closed one by one.
    refine .of_pools h.clear ?_
    show d.server.shut.pools = d.server.pools
    unfold Server.shut
    split <;> rfl
  | close n =>
    show Server.KeepsApart d.server (d.traffic.step (.close n)).server
    rw [Traffic.step]
    split
    · exact (Server.drained_closePool d.server n).keepsApart h.clear
    · exact .of_pools h.clear rfl
  | drain n deadline =>
    show Server.KeepsApart d.server (d.traffic.step (.drain n deadline)).server
    rw [Traffic.step]
    split
    · rename_i hn
      exact Server.keepsApart_of_follows (a := .drain deadline) hn.2.1 h.clear
        (hproper.kindred n).numbered trivial (by rintro _ _ _ _ ⟨⟩)
        (.refl : Server.Follows n _ none _ _)
    · exact .of_pools h.clear rfl

/-- The guest that has its turn has it whoever looks on. -/
theorem running?_traffic (d : Docket σ) (a : ServerStep σ) : d.traffic.running? a = d.running? a := by
  cases a with
  | act a =>
    cases a with
    | proceed k =>
      rw [Traffic.running?, running?, traffic, List.getElem?_map, Option.bind_map]
      rfl
    | _ => rfl
  | _ => rfl

/-- **In a step** the guest runs that has its turn; the rest is the host's own affair. -/
theorem step_still (h : Apart requests d) (ha : a.elapses = false) :
    (Running.after? (d.running? a) Server.quantum d.server.world).Still
      (d.step a).server.world := by
  have hstill := h.lawful.step_still ha
  rw [running?_traffic, ← traffic_step] at hstill
  exact hstill

/-- **Identities are made up once.** -/
theorem minted_le (h : Apart requests d) (ha : a.Minted d.server.world) :
    d.server.world.minted ≤ (d.step a).server.world.minted := by
  cases he : a.elapses with
  | false =>
    rw [(h.step_still he).minted]
    exact (Running.after?_lasts ..).minted
  | true =>
    unfold ServerStep.elapses at he
    split at he
    · exact ha
    · cases he

/-- **A step keeps requests apart.** -/
theorem step (h : Apart requests d) (ha : a.Minted d.server.world) :
    Apart (requests ++ a.request?.toList) (d.step a) := by
  have hkeeps := h.keepsApart a
  have hlawful : (d.step a).traffic.Lawful := traffic_step d a ▸ h.lawful.step a
  have hle := h.minted_le ha
  -- What was there before and is still there.
  have hserves {e : ServerWork × Option Request} (he : e ∈ d.errands) :
      e.1.Serves (d.step a).server e.2 := by
    obtain ⟨k, hk⟩ := List.mem_iff_getElem?.mp he
    exact Server.serves_of_keepsApart hkeeps (h.lawful.sound (works_getElem? hk)) (h.serves e he)
      (lease_lt h.lawful (mem_works he))
  have hknown {e : ServerWork × Option Request} (he : e ∈ d.errands) :
      ∀ r ∈ e.2, r ∈ requests ++ a.request?.toList :=
    fun r hr => List.mem_append_left _ (h.known e he r hr)
  -- What is left of somebody's turn, and what is begun.
  have hnew (xs : List ServerWork) (o : Option Request)
      {rest : List (ServerWork × Option Request)}
      (herrands : (d.step a).errands = xs.map (·, o) ++ rest) (hrest : ∀ e ∈ rest, e ∈ d.errands)
      (hxs : ∀ y ∈ xs, y.Serves (d.step a).server o)
      (ho : ∀ r ∈ o, r ∈ requests ++ a.request?.toList) :
      ∀ e ∈ (d.step a).errands, e.1.Serves (d.step a).server e.2 ∧
        ∀ r ∈ e.2, r ∈ requests ++ a.request?.toList := by
    intro e he
    rcases List.mem_append.mp (herrands ▸ he) with he | he
    · obtain ⟨y, hy, rfl⟩ := List.mem_map.mp he
      exact ⟨hxs y hy, ho⟩
    · exact ⟨hserves (hrest e he), hknown (hrest e he)⟩
  have hquiet (herrands : (d.step a).errands = d.errands) :
      ∀ e ∈ (d.step a).errands, e.1.Serves (d.step a).server e.2 ∧
        ∀ r ∈ e.2, r ∈ requests ++ a.request?.toList :=
    hnew [] none herrands (fun _ he => he) (fun _ hy => nomatch hy)
      fun _ hr => nomatch hr
  have hall : ∀ e ∈ (d.step a).errands, e.1.Serves (d.step a).server e.2 ∧
      ∀ r ∈ e.2, r ∈ requests ++ a.request?.toList := by
    cases a with
    | act a =>
      cases a with
      | begin c command =>
        refine hnew _ _ rfl (fun _ he => he) (fun y hy => ?_) fun r hr => ?_
        · refine Server.serves_begin h.clear h.lawful.proper command ?_ (Option.mem_toList.mp hy)
          rintro name entrypoint payload rfl
          rfl
        · exact List.mem_append_right _ (Option.mem_toList.mpr hr)
      | proceed k =>
        cases hx : d.errands[k]? with
        | none =>
          have hsame : d.step (.act (.proceed k)) = d := by simp only [Docket.step, hx]
          exact hquiet (congrArg Docket.errands hsame)
        | some e =>
          have hmem := List.mem_of_getElem? hx
          have hnext : d.step (.act (.proceed k)) = ⟨(d.server.proceed e.1).1,
              (d.server.proceed e.1).2.work?.toList.map (·, e.2) ++ d.errands.eraseIdx k⟩ := by
            simp only [Docket.step, hx]
          refine hnew _ _ (congrArg Docket.errands hnext) (fun _ he => List.mem_of_mem_eraseIdx he)
            (fun y hy => ?_) (hknown hmem)
          rw [hnext]
          exact Server.serves_proceed h.clear h.lawful.proper (h.lawful.sound (works_getElem? hx))
            (h.serves e hmem) (lease_lt h.lawful (mem_works hmem)) (Option.mem_toList.mp hy)
      | drop k =>
        cases hx : d.errands[k]? with
        | none =>
          have hsame : d.step (.act (.drop k)) = d := by simp only [Docket.step, hx]
          exact hquiet (congrArg Docket.errands hsame)
        | some e =>
          have hnext : d.step (.act (.drop k)) = ⟨d.server.drop e.1, d.errands.eraseIdx k⟩ := by
            simp only [Docket.step, hx]
          exact hnew [] none (congrArg Docket.errands hnext)
            (fun _ he => List.mem_of_mem_eraseIdx he) (fun _ hy => nomatch hy)
            fun _ hr => nomatch hr
      | collect =>
        refine hnew _ _ rfl (fun _ he => he) (fun y hy => ?_) fun _ hr => nomatch hr
        obtain ⟨x, -, rfl⟩ := List.mem_map.mp hy
        trivial
      | elapse w => exact hquiet rfl
    | shut => exact hquiet rfl
    | close n => exact hquiet rfl
    | drain n deadline => exact hquiet rfl
  refine ⟨hlawful, hkeeps.clear, fun e he => (hall e he).1, fun e he => (hall e he).2, ?_⟩
  intro r hr n hn
  rcases List.mem_append.mp hr with hr | hr
  · exact Nat.lt_of_lt_of_le (h.past r hr n hn) hle
  · refine Nat.lt_of_lt_of_le ?_ hle
    unfold ServerStep.request? at hr
    split at hr
    · obtain rfl := List.mem_singleton.mp hr
      exact ha n hn
    · cases hr

/-- **Steps keep requests apart.** -/
theorem steps {as : List (ServerStep σ)} (h : Apart requests d) (has : d.Minted as) :
    Apart (requests ++ as.filterMap ServerStep.request?) (d.steps as) := by
  induction as generalizing d requests with
  | nil => exact (List.append_nil requests).symm ▸ h
  | cons a as ih =>
    have hrest := ih (h.step has.1) has.2
    rw [List.append_assoc] at hrest
    cases ha : a.request? with
    | none =>
      rw [ha] at hrest
      rw [List.filterMap_cons_none ha]
      exact hrest
    | some r =>
      rw [ha] at hrest
      rw [List.filterMap_cons_some ha]
      exact hrest

end Apart

/-- A server that was just started keeps requests apart. -/
theorem apart_of_start {w v : World σ} {files : Files} {plan : ServerPlan} {s : Server σ}
    (hs : Server.start w files plan = (v, .ok s)) : Apart [] ⟨s, []⟩ where
  lawful := (Traffic.lawful_of_start hs).1
  clear := by
    intro n
    have hsize : s.pools.size ≤ n := by
      rw [(Server.fresh_of_start hs).pools]
      exact Nat.zero_le n
    rw [Server.pool_of_size_le hsize]
    exact Server.clear_default
  serves := fun _ he => nomatch he
  known := fun _ he => nomatch he
  past := fun _ hr => nomatch hr

/-! ## In whose name guests ask -/

/-- **Whose host calls are attributed**, after some requests have been made.

* What the callback is asked in a step is what the guest asks that has its turn, if any has one
  (`hears`).
* A guest that is called is of the module for which the request was made that has this turn, its
  lease is for the entrypoint of the request, and whatever it asks it asks in the context of the
  request: with its identity, its deadline and its token, and the module and the entrypoint that it
  names (`called`).
* A guest that does anything else asks in contexts made up for that, each for one host call: with the
  name of its module, as `_initialize`, without a deadline or a token; and none of them has the
  identity of a request (`others`). -/
structure Attributed (requests : List Request) (d : Docket σ) : Prop where
  hears : ∀ a : ServerStep σ, a.elapses = false → d.server.world.Hears (d.step a).server.world
    (d.server.world.callback.after d.server.world.state (d.asks a))
  called : ∀ n lease label, (.calling n lease, label) ∈ d.errands → ∃ r ∈ requests,
    label = some r ∧ (d.server.pool n).Reserved lease r.served r.entrypoint ∧
      ∀ g ∈ d.server.running? (.calling n lease), g.body.name = r.name ∧
        ∀ q ∈ g.asks Server.quantum d.server.world, q.1 = r.served ∧ r.IsServedIn q.1
  others : ∀ e ∈ d.errands, (∀ n lease, e.1 ≠ .calling n lease) →
    ∀ g ∈ d.server.running? e.1,
      Running.AsksAfresh g.body.name (some g) Server.quantum d.server.world ∧
        ∀ q ∈ g.asks Server.quantum d.server.world, q.1.IsMadeUp g.body.name ∧
          ∀ r ∈ requests, q.1.request ≠ r.context.request

namespace Apart

variable {requests : List Request}

theorem attributed (h : Apart requests d) : Attributed requests d where
  hears := fun a ha => (Running.after?_hears ..).still (h.step_still ha)
  called := by
    intro n lease label he
    obtain ⟨r, hr, hname, hreserved⟩ := h.serves _ he
    obtain ⟨hasks, hnames⟩ := hreserved.asks (h.clear n) Server.quantum d.server.world
    refine ⟨r, h.known _ he r hr, hr, hreserved, fun g hg => ⟨(hnames g hg).trans hname, ?_⟩⟩
    have hcalling : (d.server.pool n).calling? lease = some g := hg
    rw [hcalling] at hasks
    intro q hq
    have hserved : q.1 = r.served := hasks q hq
    exact ⟨hserved, hserved ▸ r.isServedIn_served⟩
  others := by
    intro e he hcalling g hg
    -- Whoever runs but for a call serves no request, and asks in contexts made up for that.
    have hafresh : Running.AsksAfresh g.body.name (some g) Server.quantum d.server.world := by
      have hserves := h.serves e he
      obtain ⟨x, label⟩ := e
      cases x with
      | filling name hash f =>
        obtain rfl := Option.some.inj (Option.mem_def.mp hg)
        exact Activity.asked_fresh hserves.1.birth.context
      | calling n lease => exact absurd rfl (hcalling n lease)
      | restoring n number outcome =>
        obtain ⟨hasks, hnames⟩ :=
          (h.clear n).asksAfresh number Server.quantum d.server.world
        have hrestoring : (d.server.pool n).restoring? number = some g := hg
        rw [hrestoring, ← hnames g hg] at hasks
        exact hasks
      | _ => cases hg
    refine ⟨hafresh, fun q hq => ?_⟩
    obtain ⟨numbers, hasked, -, hbounds⟩ := hafresh
    obtain ⟨n, hn, hcontext⟩ := List.mem_map.mp (hasked ▸ List.mem_map_of_mem hq)
    refine ⟨hcontext ▸ Context.isMadeUp_fresh _ n, fun r hr heq => ?_⟩
    -- The identity of such a context is new, while every request came before.
    have hrequest : r.context.request = .generated n := by
      rw [← heq, ← hcontext]
      rfl
    exact Nat.not_lt_of_le (hbounds n hn).1 (h.past r hr n hrequest)

end Apart

/-- **Host calls are attributed to the right request.**  Whatever happens to a server, after any steps:
a guest that is called for a request asks in the context of that request, and a guest that starts,
initializes itself or tidies up asks in contexts of its own. -/
theorem host_calls_are_attributed (w v : World σ) (files : Files) (plan : ServerPlan)
    (s : Server σ) (as : List (ServerStep σ)) (hs : Server.start w files plan = (v, .ok s))
    (has : Minted ⟨s, []⟩ as) :
    Attributed (as.filterMap ServerStep.request?) (steps ⟨s, []⟩ as) :=
  ((apart_of_start hs).steps has).attributed

end Docket

/-! ## A guest that asks whatever it does -/

/-- A module whose guests make a host call for every request, and another one when they tidy up. -/
def Bytes.askingGuest : Bytes := .mk (
  #[0, 0x61, 0x73, 0x6d, 1, 0, 0, 0] ++
  -- The types of an allocator, of the host call, of an action and of an entrypoint.
  #[1, 27, 4, 0x60, 1, 0x7f, 1, 0x7f, 0x60, 8, 0x7f, 0x7f, 0x7f, 0x7f, 0x7f, 0x7f, 0x7f, 0x7f, 1,
    0x7e, 0x60, 0, 0, 0x60, 2, 0x7f, 0x7f, 1, 0x7e] ++
  -- `host_call` of `capsule` is imported.
  #[2, 21, 1, 7, 0x63, 0x61, 0x70, 0x73, 0x75, 0x6c, 0x65, 9, 0x68, 0x6f, 0x73, 0x74, 0x5f, 0x63,
    0x61, 0x6c, 0x6c, 0, 1] ++
  #[3, 4, 3, 0, 3, 2] ++ #[5, 3, 1, 0, 0] ++
  -- `memory`, `allocate`, `run` and `reset` are exported.
  #[7, 35, 4, 6, 0x6d, 0x65, 0x6d, 0x6f, 0x72, 0x79, 2, 0, 8, 0x61, 0x6c, 0x6c, 0x6f, 0x63, 0x61,
    0x74, 0x65, 0, 1, 3, 0x72, 0x75, 0x6e, 0, 2, 5, 0x72, 0x65, 0x73, 0x65, 0x74, 0, 3] ++
  #[10, 49, 3, 4, 0, 0x20, 0, 0x0b, 20, 0, 0x41, 0, 0x41, 0, 0x41, 0, 0x41, 0, 0x41, 0, 0x41, 0,
    0x41, 0, 0x41, 0, 0x10, 0, 0x0b, 21, 0, 0x41, 0, 0x41, 0, 0x41, 0, 0x41, 0, 0x41, 0, 0x41, 0,
    0x41, 0, 0x41, 0, 0x10, 0, 0x1a, 0x0b])

namespace Docket

/-- A request with a deadline is served by a guest that asks; then the guest tidies up and asks
again, in a context that has nothing of the request. -/
theorem attributed_to_run_and_reset :
    let r : Request :=
      ⟨{ request := .given "first", deadline := some 90 }, "asking", "run", ByteArray.empty⟩
    let begun : List (ServerStep Unit) :=
      [.act (.begin default (.load ⟨"asking", .bytes .askingGuest, 1⟩)), .act (.proceed 0),
        .act (.begin r.context r.command)]
    let after := begun ++ [.act (.proceed 0), .act (.elapse (World.slow.advance 50)),
      .act (.proceed 0)]
    let d := steps ⟨.unused, []⟩ begun
    let d' := steps ⟨.unused, []⟩ after
    ((d.asks (.act (.proceed 0))).map Prod.fst = [r.served] ∧
      (d'.asks (.act (.proceed 0))).map Prod.fst = [Context.fresh "asking" 0]) ∧
        Attributed [r] d ∧ Attributed [r] d' := by
  intro r begun after d d'
  have hstart : Server.start World.slow Files.none {} =
      ((Server.start World.slow Files.none {}).1, .ok .unused) := rfl
  have hasks : (d.asks (.act (.proceed 0))).map Prod.fst = [r.served] ∧
      (d'.asks (.act (.proceed 0))).map Prod.fst = [Context.fresh "asking" 0] := by
    decide +kernel
  have hbegun : Minted ⟨.unused, []⟩ begun :=
    ⟨(fun _ hn => nomatch hn), trivial, (fun _ hn => nomatch hn), trivial⟩
  have hafter : Minted ⟨.unused, []⟩ after := by
    refine ⟨(fun _ hn => nomatch hn), trivial, (fun _ hn => nomatch hn), trivial, ?_, trivial,
      trivial⟩
    show _ ≤ _
    decide +kernel
  exact ⟨hasks, host_calls_are_attributed _ _ _ _ _ begun hstart hbegun,
    host_calls_are_attributed _ _ _ _ _ after hstart hafter⟩

end Docket
end FunctionHost

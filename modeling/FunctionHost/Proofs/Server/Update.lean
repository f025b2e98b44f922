import FunctionHost.Proofs.Guest.Update
import FunctionHost.Proofs.Pool.Bodies
import FunctionHost.Proofs.Server.Shutdown

/-!
# Updates by the guests of a server

Whatever a server makes instances from is linked with what the server offers, and has its settings.
So wherever an instance of a server was made, and whatever has become of it, its guest has the
allocator that its host calls are answered with, and can trust the answers to its updates of the
key-value store (`Traffic.updates_are_answered_truthfully`).
-/
namespace FunctionHost

variable {σ : Type}

/-! ## Blueprints -/

/-- **Whether a blueprint is that of a module which is loaded** with some linker and settings. -/
structure Blueprint.Under (l : Linker) (e : ExecutionSettings) (b : Blueprint) : Prop where
  linker : b.linker = l
  execution : b.execution = e

theorem Blueprint.Under.offers {l : Linker} {e : ExecutionSettings} {b : Blueprint}
    (h : b.Under l e) (hl : l.hostCall = some e.allocateExport) : b.Offers := by
  rw [Offers, h.linker, h.execution]
  exact hl

/-- Whether a pool that is being filled is filled with instances of such a blueprint. -/
def ServerWork.Under (l : Linker) (e : ExecutionSettings) : ServerWork → Prop
  | .filling _ _ f => f.blueprint.Under l e
  | _ => True

theorem ServerWork.under_of_births {l : Linker} {e : ExecutionSettings} {x : ServerWork}
    (h : x.births = 0) : x.Under l e := by
  cases x with
  | filling name hash f => cases h
  | _ => trivial

/-- **Whether a pool has instances of such a blueprint**, and no other ones. -/
structure Pool.Native (σ : Type) (l : Linker) (e : ExecutionSettings) (p : Pool) : Prop where
  numbered : p.WellNumbered
  under : p.blueprint.Under l e
  bred : p.Bred σ

theorem Pool.Native.moves {l : Linker} {e : ExecutionSettings} {w : World σ} {p q : Pool}
    {a : PoolAct} (h : p.Native σ l e) (hm : Moves w p a q) : q.Native σ l e where
  numbered := h.numbered.moves hm
  under := hm.fixed.1 ▸ h.under
  bred := h.bred.moves h.numbered hm

/-! ## Loads -/

namespace Server

variable {s t : Server σ} {x : ServerWork} {p : Pool} {name hash : String} {size : Nat}

/-- **Work leaves alone** what a server offers, and its settings. -/
theorem Acts.plan {x : Option ServerWork} {drained : Nat → Prop} (h : Acts x drained s t) :
    t.linker = s.linker ∧ t.settings = s.settings := by
  induction h with
  | refl => exact ⟨rfl, rfl⟩
  | report h e ih => exact ih
  | act h hn hd ha ih => exact ih
  | close h hn hd ih => exact ih
  | halt h ih => exact ih

/-- What a turn of filling leaves to do is filled with the same instances. -/
theorem under_afterFilling {l : Linker} {e : ExecutionSettings} {b : Blueprint}
    {timeout : Option Nat} {v w : World σ} {ms : List (Nat × World σ)}
    {standing : Standing Filling Filling.Result} (hb : b.Under l e)
    (hturns : Filling.turns b size timeout v ms = standing) :
    ∀ y ∈ (s.afterFilling name hash (w, standing)).2.work?, y.Under l e := by
  have hgoes {f : Filling} (hf : standing.work? = some f) : f.blueprint.Under l e := by
    rw [← hturns] at hf
    rw [(Filling.turns_fixed v ms hf).1]
    exact hb
  intro y hy
  match standing with
  | .busy f | .blocked f =>
    cases hy
    exact hgoes rfl
  | .ended (.error e) => cases hy
  | .ended (.ok p) =>
    rw [afterFilling, publish] at hy
    split at hy <;> cases hy

/-- **A load goes on with the blueprint** that it began with. -/
theorem under_proceed (hl : x.load? = some (name, size)) (hg : x.Genuine σ)
    (hx : x.Under s.linker s.settings.execution) :
    ∀ y ∈ (s.proceed x).2.work?, y.Under s.linker s.settings.execution := by
  cases x with
  | compiling plan =>
    rw [proceed, fill]
    generalize s.compile plan.source = turn
    obtain ⟨w, result⟩ := turn
    cases result with
    | error e => exact fun y hy => by cases hy
    | ok c =>
      let b := Blueprint.withLinker s.linker s.settings.execution plan.name c
      have hb : b.Under s.linker s.settings.execution := ⟨rfl, rfl⟩
      exact under_afterFilling hb
        (rfl : Filling.turns b plan.poolSize s.settings.pool.checkoutTimeout w [] = _)
  | filling name hash f =>
    obtain ⟨-, v, ms, hf⟩ := hg
    exact under_afterFilling hx (Filling.turns_append v ms (quantum, s.world) hf)
  | _ => cases hl

/-- **What a load has filled** has instances of that blueprint. -/
theorem native_of_fills? (hg : x.Genuine σ) (hx : x.Under s.linker s.settings.execution)
    (h : s.fills? x = some p) : p.Native σ s.linker s.settings.execution := by
  have hnative {b : Blueprint} {size : Nat} {timeout : Option Nat}
      (hb : b.Under s.linker s.settings.execution) (hp : Filled σ b size timeout p) :
      p.Native σ s.linker s.settings.execution :=
    ⟨(Pool.kindred_of_filled hp).numbered, hp.blueprint ▸ hb, Pool.bred_of_filled hp⟩
  have hended {standing : Standing Filling Filling.Result}
      (hp : standing.result?.bind Except.toOption = some p) : standing = .ended (.ok p) := by
    match standing with
    | .busy f | .blocked f => cases hp
    | .ended (.error e) => cases hp
    | .ended (.ok q) =>
      cases hp
      rfl
  cases x with
  | compiling plan =>
    simp only [fills?] at h
    split at h
    · rename_i w c _
      exact hnative ⟨rfl, rfl⟩ ⟨w, [], hended h⟩
    · cases h
  | filling name hash f =>
    obtain ⟨-, v, ms, hf⟩ := hg
    have hturns := Filling.turns_append v ms (quantum, s.world) hf
    exact hnative hx ⟨v, ms ++ [(quantum, s.world)], hturns.trans (hended h)⟩
  | _ => cases h

end Server

/-! ## Traffic -/

namespace Traffic

variable {t u : Traffic σ} {a : ServerStep σ} {l : Linker} {e : ExecutionSettings} {b : Body}

/-- **No step changes** what a server offers, or its settings. -/
theorem Goes.plan (hg : Goes t a u) :
    u.server.linker = t.server.linker ∧ u.server.settings = t.server.settings := by
  cases hg with
  | acts left new hs hd hworks hx hown hnew hno => exact hs.plan
  | passed hw hno => exact ⟨rfl, rfl⟩
  | loading hx hl hturn hload => cases hload <;> exact ⟨rfl, rfl⟩
  | dropped hx hw => exact ⟨rfl, rfl⟩
  | unloads he hname hs hnew => exact hs.plan
  | shuts new ha ho hs hnew =>
    rw [Server.shut, ho] at hs
    exact hs.plan

/-- **What every act keeps, and what filled pools have**, all pools have after a step that had it
before. -/
theorem Goes.pools_induction {I : Pool → Prop} (hg : Goes t a u)
    (ht : ∀ n, n < t.server.pools.size → I (t.server.pool n))
    (hmoves : ∀ (w : World σ) p b q, I p → Pool.Moves w p b q → I q)
    (hfilled : ∀ x ∈ t.works, ∀ p, t.server.fills? x = some p → I p) :
    ∀ n, n < u.server.pools.size → I (u.server.pool n) := by
  intro n hn
  rcases Nat.lt_or_ge n t.server.pools.size with hlt | hle
  · exact hg.pool_induction hlt (ht n hlt) hmoves
  · have hnone (hsize : u.server.pools.size = t.server.pools.size) : I (u.server.pool n) :=
      absurd (hsize ▸ hn) (Nat.not_lt_of_le hle)
    cases hg with
    | acts left new hs hd hworks hx hown hnew hno => exact hnone hs.size
    | passed hw hno => exact hnone rfl
    | loading hx hl hturn hload =>
      cases hload with
      | published hfull hp hb ho hf hw =>
        -- The new pool is the last one.
        have hlast : n < t.server.pools.size + 1 := (Array.size_push _) ▸ hn
        obtain rfl : n = t.server.pools.size := by omega
        rw [Server.pool_publishing]
        exact hfilled _ (List.mem_of_getElem? hx) _ hfull
      | _ => exact hnone rfl
    | dropped hx hw => exact hnone rfl
    | unloads he hname hs hnew => exact hnone hs.size
    | shuts new ha ho hs hnew =>
      rw [Server.shut, ho] at hs
      exact hnone hs.size

/-- **Traffic of a server with some linker and settings**: they are what all its instances are made
with. -/
structure Breeds (l : Linker) (e : ExecutionSettings) (t : Traffic σ) : Prop where
  lawful : Lawful t
  linker : t.server.linker = l
  execution : t.server.settings.execution = e
  pools : ∀ n, n < t.server.pools.size → (t.server.pool n).Native σ l e
  works : ∀ x ∈ t.works, x.Under l e

/-- **All instances stay what they are** in a step, and new ones are made with the same. -/
theorem Breeds.step (h : Breeds l e t) (a : ServerStep σ) : Breeds l e (t.step a) := by
  have hg := goes_step h.lawful a
  obtain ⟨hlinker, hsettings⟩ := hg.plan
  have hunder {x : ServerWork} (hx : x ∈ t.works) :
      x.Under t.server.linker t.server.settings.execution := by
    rw [h.linker, h.execution]
    exact h.works x hx
  refine ⟨h.lawful.step a, hlinker.trans h.linker,
    (congrArg HostSettings.execution hsettings).trans h.execution, ?_, ?_⟩
  · refine hg.pools_induction h.pools (fun _ _ _ _ hp hm => hp.moves hm) fun x hx p hfull => ?_
    have hnative := Server.native_of_fills? (h.lawful.genuine x hx) (hunder hx) hfull
    rw [h.linker, h.execution] at hnative
    exact hnative
  · refine hg.works_induction h.works (fun y => ServerWork.under_of_births) ?_
    intro x hx name size hl _
    have hnext := Server.under_proceed hl (h.lawful.genuine x hx) (hunder hx)
    rw [h.linker, h.execution] at hnext
    exact hnext

theorem Breeds.steps (h : Breeds l e t) (as : List (ServerStep σ)) : Breeds l e (t.steps as) :=
  steps_induction h (fun _ a hu => hu.step a) as

/-- A server that was just started offers the host call with the allocator of its settings. -/
theorem breeds_of_start {w v : World σ} {files : Files} {plan : ServerPlan} {s : Server σ}
    (hs : Server.start w files plan = (v, .ok s)) :
    Breeds s.linker s.settings.execution ⟨s, []⟩ ∧
      s.linker.hostCall = some s.settings.execution.allocateExport := by
  have hnew := Server.fresh_of_start hs
  refine ⟨⟨(lawful_of_start hs).1, rfl, rfl, fun n hn => ?_, fun _ hx => nomatch hx⟩, ?_⟩
  · rw [hnew.pools] at hn
    exact absurd hn (Nat.not_lt_zero n)
  · rw [hnew.settings]
    exact Linker.hostCall_of_register hnew.linker

/-! ## Guests -/

/-- **The instances of a server**, by what never changes about them: all that are made successfully
with what it offers and its settings, and all that its pools have, in whatever state. -/
inductive Hosts (t : Traffic σ) : Body → Prop
  | created {b : Blueprint} {i : Instance}
      (hb : b.Under t.server.linker t.server.settings.execution) (hi : Birth.Created σ b i) :
      Hosts t i.body
  | pooled {n : Nat} {x : Holding} (hx : x ∈ (t.server.pool n).holdings) : Hosts t x.body

/-- **The guests of a server can be answered.** -/
theorem Breeds.answerable (h : Breeds l e t) (hl : l.hostCall = some e.allocateExport)
    (hb : t.Hosts b) : b.Answerable := by
  cases hb with
  | created hb hi =>
    rw [h.linker, h.execution] at hb
    exact hi.answerable (hb.offers hl)
  | @pooled n x hx =>
    rcases Nat.lt_or_ge n t.server.pools.size with hn | hn
    · have hnative := h.pools n hn
      obtain ⟨i, hi, hsame⟩ := hnative.bred x hx
      rw [← hsame]
      exact hi.answerable (hnative.under.offers hl)
    · rw [Server.pool_of_size_le hn] at hx
      exact nomatch hx

/-- **The answers to updates can be trusted** by the guest of every instance of a server, whatever
has happened there and goes on happening.  Say a guest makes a host call, in any world with a
key-value store, and names an update or nothing that can be read.  Then the store is changed by that
update if the context is open and the key is not empty, and is left as it is otherwise; and the guest
is told the truth about which of the two it was. -/
theorem updates_are_answered_truthfully {w₀ v₀ : World Router} {files : Files} {plan : ServerPlan}
    {s : Server Router} (hs : Server.start w₀ files plan = (v₀, .ok s))
    (as : List (ServerStep Router)) (hb : (Traffic.steps ⟨s, []⟩ as).Hosts b)
    {w : World Router} {store : KeyValue} (hw : w.callback = Router.callback)
    (hstore : w.state.store? = some store) {func : Nat} {allocator : String}
    (hf : b.imports[func]? = some (.hostCall allocator)) (g : Guest) (args : List Wasm.Word)
    (hupdate : ∀ r, Activity.named? b g args = some r → r.IsUpdate) (thread : Wasm.Thread)
    (outer : List (Wasm.Thread × Delivery)) :
    ∃ (v : World Router) (g' : Guest) (a : Activity),
      Activity.round b w g ⟨.acting (.calling thread func args), outer⟩ = (v, g', .busy a) ∧
        v.state = (Activity.update? b w g args).elim w.state
          (fun r => w.state.withStore (store.updated r)) ∧
        Activity.Truthful Router b w.clock.now thread outer (Activity.update? b w g args).isSome
          g' a := by
  obtain ⟨hbreeds, hoffers⟩ := breeds_of_start hs
  obtain ⟨find, hfind⟩ := (hbreeds.steps as).answerable hoffers hb func allocator hf
  exact Activity.trustworthy hw hstore hf hfind hupdate

end Traffic

/-! ## One update -/

/-- A world with a key-value store, which is empty. -/
def World.storing : World Router :=
  { callback := Router.callback, state := Router.ofList [.keyValue {}] }

/-- A server in that world that nobody has used yet. -/
def Server.storing : Server Router :=
  match (Server.start World.storing Files.none {}).2 with
  | .ok s => s
  | .error _ => { world := .storing, settings := {}, linker := {} }

/-- A guest whose memory begins with the names of an update, and which serves a request. -/
def Guest.naming (c : Context) : Guest :=
  { Guest.holding "kvstoresetkeyvalue".toUTF8 with context := some c }

/-- A guest of a server makes an update and is told so; asked for in the name of a request that is
cancelled it is not made, and the guest is told that. -/
theorem Traffic.update_made_or_refused :
    let as : List (ServerStep Router) :=
      [.act (.begin default (.load ⟨"tidy", .bytes .tidyGuest, 1⟩)), .act (.proceed 0)]
    let args : List Wasm.Word := [0, 7, 7, 3, 10, 3, 13, 5]
    let asks (c : Context) (b : Body) (w : World Router) :=
      Activity.round b w (Guest.naming c) ⟨.acting (.calling default 0 args), []⟩
    let c : Context := { (default : Context) with token := some 1 }
    ∃ i ∈ ((Traffic.steps ⟨.storing, []⟩ as).server.pool 0).idle,
      (∃ v g a, asks c i.body .storing = (v, g, .busy a) ∧
        v.state.store? = some ⟨Dictionary.empty.insert "key" "value".toUTF8⟩ ∧
        Activity.Truthful Router i.body 0 default [] true g a) ∧
      ∃ v g a, asks c i.body (World.storing.cancel 1) = (v, g, .busy a) ∧
        v.state.store? = some {} ∧ Activity.Truthful Router i.body 0 default [] false g a := by
  intro as args asks c
  have hstart : Server.start World.storing Files.none {} =
      ((Server.start World.storing Files.none {}).1, .ok .storing) := rfl
  have hbodies : ((Traffic.steps ⟨.storing, []⟩ as).server.pool 0).idle.map
      (fun i => (i.body.imports[0]?, i.body.memory?)) =
        [(some (.hostCall "allocate"), some 0)] := by
    decide +kernel
  have hread : (HostCall.read ((Guest.naming c).memory 0) (0, 7) (7, 3) (10, 3)
      (13, 5)).toOption.map (fun r => (r.space, r.operation, r.key, r.payload)) =
        some ("kvstore", "set", "key", "value".toUTF8) := by
    decide +kernel
  generalize hidle : ((Traffic.steps ⟨.storing, []⟩ as).server.pool 0).idle = idle at hbodies
  obtain ⟨i, rfl, hbody⟩ := List.map_eq_singleton_iff.mp hbodies
  obtain ⟨hf, hmemory⟩ := Prod.mk.inj hbody
  have hhosts : (Traffic.steps ⟨.storing, []⟩ as).Hosts i.body :=
    .pooled (n := 0) (x := .idle i)
      (Pool.mem_holdings_idle.mpr (hidle ▸ List.mem_singleton_self i))
  obtain ⟨⟨space, operation, key, payload⟩, hrequest, hnames⟩ := Option.map_eq_some_iff.mp hread
  simp only [Prod.mk.injEq] at hnames
  obtain ⟨rfl, rfl, rfl, rfl⟩ := hnames
  have hnamed : Activity.named? i.body (Guest.naming c) args =
      some ⟨"kvstore", "set", "key", "value".toUTF8⟩ := by
    rw [Activity.named?, hmemory]
    exact hrequest
  have hupdate : ∀ r, Activity.named? i.body (Guest.naming c) args = some r → r.IsUpdate := by
    rw [hnamed]
    rintro _ ⟨⟩
    exact ⟨rfl, .inl rfl⟩
  have hstore : World.storing.state.store? = some {} := by rfl
  -- The request names an update, which is made only if its context is open.
  have hmade : Activity.update? i.body .storing (Guest.naming c) args =
      some ⟨"kvstore", "set", "key", "value".toUTF8⟩ := by
    rw [Activity.update?, hnamed]
    rfl
  have hrefused : Activity.update? i.body (World.storing.cancel 1) (Guest.naming c) args = none := by
    rw [Activity.update?, hnamed]
    rfl
  have hfirst := Traffic.updates_are_answered_truthfully hstart as hhosts (w := .storing) rfl hstore
    hf (Guest.naming c) args hupdate default []
  have hsecond := Traffic.updates_are_answered_truthfully hstart as hhosts
    (w := World.storing.cancel 1) rfl hstore hf (Guest.naming c) args hupdate default []
  rw [hmade] at hfirst
  rw [hrefused] at hsecond
  obtain ⟨v, g, a, hr, hv, ht⟩ := hfirst
  obtain ⟨v', g', a', hr', hv', ht'⟩ := hsecond
  have hafter : v.state.store? = some ⟨Dictionary.empty.insert "key" "value".toUTF8⟩ := by
    rw [hv]
    exact Router.store?_withStore ..
  exact ⟨i, List.mem_singleton_self i, ⟨v, g, a, hr, hafter, ht⟩,
    v', g', a', hr', (congrArg Router.store? hv').trans hstore, ht'⟩

end FunctionHost

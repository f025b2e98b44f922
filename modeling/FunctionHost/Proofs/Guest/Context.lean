import FunctionHost.Proofs.Guest.Frame
import FunctionHost.Proofs.Guest.Running

/-!
# In whose name a guest asks

A guest has the context of the request that it serves, and none while it serves no request.  Its
rounds leave that as it is.  So whatever it asks while it serves a request, it asks in the context of
that request (`Activity.asked_of_context`); and whatever it asks while it starts, initializes itself
or tidies up, it asks in a context made up for that (`Activity.asked_fresh`).

A call attaches its context when it begins and takes it away when it is over, however it ends
(`Call.begin_attached`, `Call.proceed_attached`).
-/
namespace FunctionHost

open Wasm (Thread Word)

variable {σ : Type}

/-- **A context that nobody made**: it has an identity of its own, no deadline and no token, and names
a module and its initialization. -/
def Context.fresh (module : String) (number : Nat) : Context :=
  ({ request := .generated number } : Context).serving module "_initialize"

/-- **Whether a context says nothing of a request**: it names a module and its initialization, and has
no deadline and no token. -/
structure Context.IsMadeUp (c : Context) (module : String) : Prop where
  module : c.module = some module
  entrypoint : c.entrypoint = some "_initialize"
  deadline : c.deadline = none
  token : c.token = none

theorem Context.isMadeUp_fresh (module : String) (number : Nat) :
    (Context.fresh module number).IsMadeUp module := ⟨rfl, rfl, rfl, rfl⟩

/-! ## Rounds -/

namespace Activity

variable {b : Body} {w : World σ} {g : Guest} {c : Context} {r : HostRequest} {a : Activity}
  {rounds : Nat}

/-- What is asked in a round is asked in the context of the guest. -/
theorem context_of_asked (h : asked? b w g a = some (c, r)) : c = (contextOf b w g).2 := by
  unfold asked? at h
  split at h
  · split at h
    · split at h
      · dsimp only at h
        split at h
        · cases h
          rfl
        · cases h
      · cases h
    · cases h
  · cases h

/-- A round that asks is that of a host call. -/
theorem hostCall_of_asked (h : asked? b w g a = some (c, r)) :
    ∃ t func args allocator, a.focus = .acting (.calling t func args) ∧
      b.imports[func]? = some (.hostCall allocator) := by
  unfold asked? at h
  split at h
  · rename_i t func args hfocus
    split at h
    · rename_i hf _ _
      exact ⟨t, func, args, _, hfocus, hf⟩
    · cases h
  · cases h

/-- The identity of a context that was made up for a round is not made up again. -/
theorem minted_of_asked (h : asked? b w g a = some (c, r)) (hg : g.context = none) :
    w.minted < (round b w g a).1.minted := by
  obtain ⟨t, func, args, allocator, hfocus, hf⟩ := hostCall_of_asked h
  obtain ⟨focus, outer⟩ := a
  obtain rfl : focus = .acting (.calling t func args) := hfocus
  have hcontext : contextOf b w g.recordHostCall = contextOf b w g := rfl
  have hmemory (index : Nat) : g.recordHostCall.memory index = g.memory index := rfl
  have hminted : (contextOf b w g).1.minted = w.minted + 1 := by rw [contextOf, hg]; rfl
  simp only [asked?, hf] at h
  simp only [round, imported, hf, hostCall, hmemory, hcontext]
  split at h
  · rename_i index space operation key payload _ hm hargs
    simp only [hm, hargs]
    split at h
    · rename_i request hread
      simp only [hread]
      split at h
      · rename_i hopen
        have hopen := Option.isNone_iff_eq_none.mp hopen
        simp only [hopen, World.ask]
        omega
      · cases h
    · cases h
  · cases h

/-- **A guest that serves a request asks in its context.** -/
theorem asked_of_context (hg : g.context = some c) : ∀ q ∈ asked b rounds w g a, q.1 = c := by
  induction rounds generalizing w g a with
  | zero => exact fun _ hq => nomatch hq
  | succ rounds ih =>
    intro q hq
    rw [asked] at hq
    rcases List.mem_append.mp hq with hq | hq
    · have hcontext := context_of_asked (Option.mem_toList.mp hq)
      rw [hcontext, contextOf, hg]
    · have hnext := (round_frame b w g a).context
      generalize round b w g a = turn at hq hnext
      obtain ⟨v, g', s⟩ := turn
      cases s with
      | busy a' => exact ih (hnext.trans hg) q hq
      | blocked a' => cases hq
      | ended result => cases hq

/-- **A guest that serves no request asks in contexts made up for that**, each of them for one host
call. -/
theorem asked_fresh (hg : g.context = none) :
    ∃ numbers : List Nat,
      (asked b rounds w g a).map Prod.fst = numbers.map (Context.fresh b.name) ∧
      numbers.Pairwise (· < ·) ∧
      ∀ n ∈ numbers, w.minted ≤ n ∧ n < (proceed b rounds w g a).1.minted := by
  induction rounds generalizing w g a with
  | zero => exact ⟨[], rfl, .nil, fun _ hn => nomatch hn⟩
  | succ rounds ih =>
    -- What is asked in the first round, and where the numbers of the others begin.
    have hfirst : ∃ numbers : List Nat,
        (asked? b w g a).toList.map Prod.fst = numbers.map (Context.fresh b.name) ∧
        numbers.Pairwise (· < ·) ∧
        ∀ n ∈ numbers, w.minted ≤ n ∧ n < (round b w g a).1.minted := by
      cases h : asked? b w g a with
      | none => exact ⟨[], rfl, .nil, fun _ hn => nomatch hn⟩
      | some q =>
        have hcontext : q.1 = Context.fresh b.name w.minted := by
          rw [context_of_asked h, contextOf, hg]
          rfl
        refine ⟨[w.minted], congrArg (· :: []) hcontext, List.pairwise_singleton _ _, ?_⟩
        intro n hn
        obtain rfl := List.mem_singleton.mp hn
        exact ⟨Nat.le_refl _, minted_of_asked h hg⟩
    obtain ⟨numbers, hasked, hordered, hbounds⟩ := hfirst
    obtain ⟨hlasts, hnext⟩ := round_frame b w g a
    rw [asked, proceed, List.map_append, hasked]
    generalize round b w g a = turn at hbounds hnext hlasts
    obtain ⟨v, g', s⟩ := turn
    cases s with
    | busy a' =>
      obtain ⟨more, hmore, hordered', hbounds'⟩ := ih (w := v) (a := a') (hnext.trans hg)
      have hproceed := (proceed_frame b v g' rounds a').lasts
      have hle : v.minted ≤ (proceed b rounds v g' a').1.minted := hproceed.minted
      have hwv : w.minted ≤ v.minted := hlasts.minted
      refine ⟨numbers ++ more, ?_, List.pairwise_append.mpr ⟨hordered, hordered', ?_⟩, ?_⟩
      · rw [List.map_append]
        exact congrArg _ hmore
      · intro m hm n hn
        exact Nat.lt_of_lt_of_le (hbounds m hm).2 (hbounds' n hn).1
      · intro n hn
        rcases List.mem_append.mp hn with hn | hn
        · exact ⟨(hbounds n hn).1, Nat.lt_of_lt_of_le (hbounds n hn).2 hle⟩
        · exact ⟨Nat.le_trans hwv (hbounds' n hn).1, (hbounds' n hn).2⟩
    | blocked a' => exact ⟨numbers, List.append_nil _, hordered, hbounds⟩
    | ended result => exact ⟨numbers, List.append_nil _, hordered, hbounds⟩

end Activity

/-! ## Calls -/

namespace Call

/-- **A call for an entrypoint** in some context. -/
structure For (i : Instance) (context : Context) (entrypoint : String) (c : Call) : Prop where
  context : c.context = context
  func : i.body.function? entrypoint Body.entrypointType = some c.func

variable {w : World σ} {i : Instance} {context : Context} {entrypoint : String} {payload : Bytes}
  {rounds : Nat} {c : Call}

theorem conclude_context (w : World σ) (i : Instance) (fuelBefore : Nat) (broken : Bool)
    (outcome : Except HostError Bytes) :
    (conclude w i fuelBefore broken outcome).2.1.guest.context = none ∧
      (conclude w i fuelBefore broken outcome).2.2.work? = none := by
  refine ⟨?_, rfl⟩
  rw [conclude_guest]
  rfl

/-- **A call has the context with which it was begun**, and so has its guest; a call that is over at
once leaves none. -/
theorem begin_attached (w : World σ) (context : Context) (entrypoint : String) (payload : Bytes)
    (hi : i.guest.context = none) :
    let turn := begin w i context entrypoint payload
    turn.2.1.guest.context = turn.2.2.work?.map Call.context ∧
      ∀ c ∈ turn.2.2.work?, c.For i context entrypoint := by
  have hturn := begins w i context entrypoint payload
  intro turn
  simp only [turn]
  generalize begin w i context entrypoint payload = turn at hturn ⊢
  cases hturn with
  | refused | missing => exact ⟨hi, fun _ hc => nomatch hc⟩
  | hindered => exact ⟨(conclude_context ..).1, fun _ hc => nomatch hc⟩
  | entered _ hentry | allocating _ hentry =>
    refine ⟨rfl, ?_⟩
    rintro c ⟨⟩
    exact ⟨rfl, hentry⟩

/-- **A call keeps its context** until it is over, and then takes it away. -/
theorem proceed_attached (rounds : Nat) (w : World σ) (hi : i.guest.context = some c.context) :
    let turn := proceed rounds w i c
    turn.2.1.guest.context = turn.2.2.work?.map Call.context ∧
      ∀ c' ∈ turn.2.2.work?, c'.context = c.context ∧ c'.func = c.func := by
  have hrounds := (Activity.proceed_frame i.body w i.guest rounds c.activity).context
  rw [hi] at hrounds
  have hturn := proceeds rounds w i c
  intro turn
  simp only [turn]
  generalize proceed rounds w i c = turn at hturn ⊢
  generalize Activity.proceed i.body rounds w i.guest c.activity = run at hrounds hturn
  cases hturn with
  | busy | waiting | entered =>
    refine ⟨hrounds, ?_⟩
    rintro c' ⟨⟩
    exact ⟨rfl, rfl⟩
  | concluded => exact ⟨(conclude_context ..).1, fun _ hc => nomatch hc⟩

end Call

/-! ## Guests without a request -/

/-- **An instance of a module that serves no request.** -/
structure Instance.Free (module : String) (i : Instance) : Prop where
  name : i.body.name = module
  context : i.guest.context = none

/-- **An instance being made** for a module. -/
structure Birth.Free (module : String) (b : Birth) : Prop where
  name : b.body.name = module
  context : b.guest.context = none

namespace Reset

variable {w : World σ} {i : Instance} {rounds : Nat} {r : Reset} {module : String}

theorem begin_context (w : World σ) (i : Instance) :
    (begin w i).2.1.guest.context = i.guest.context := by
  have hturn := begins w i
  generalize begin w i = turn at hturn ⊢
  cases hturn with
  | refused | grown | done => rfl
  | started =>
    show (prepared w i).context = i.guest.context
    unfold prepared
    dsimp only
    split <;> rfl

/-- **A reset leaves the context as it is.** -/
theorem proceed_context (rounds : Nat) (w : World σ) (i : Instance) (r : Reset) :
    (proceed rounds w i r).2.1.guest.context = i.guest.context := by
  have hrounds := (Activity.proceed_frame i.body w i.guest rounds r.activity).context
  have hturn := proceeds rounds w i r
  generalize proceed rounds w i r = turn at hturn ⊢
  generalize Activity.proceed i.body rounds w i.guest r.activity = run at hrounds hturn
  cases hturn <;> exact hrounds

theorem begin_free (h : i.Free module) : (begin w i).2.1.Free module :=
  ⟨(begin_same w i).body ▸ h.name, (begin_context w i).trans h.context⟩

/-- **A reset serves no request.** -/
theorem proceed_free (rounds : Nat) (w : World σ) (r : Reset) (h : i.Free module) :
    (proceed rounds w i r).2.1.Free module :=
  ⟨(proceed_same rounds w i r).body ▸ h.name, (proceed_context rounds w i r).trans h.context⟩

end Reset

namespace Birth

/-- Whether what is made for a module serves no request. -/
def Frees (module : String) : Standing Birth Result → Prop
  | .busy b | .blocked b => b.Free module
  | .ended (.ok i) => i.Free module
  | .ended (.error _) => True

variable {w : World σ} {module : String} {rounds : Nat}

theorem frees_afterStart {id : Nat} {x : Body} {g : Guest} (hx : x.name = module)
    (hg : g.context = none) : Frees module (afterStart w id x g).2 := by
  unfold afterStart
  split
  · trivial
  · exact ⟨hx, hg⟩
  · exact ⟨hx, hg⟩

theorem Furnishes.free {v : World σ} {b : Blueprint} {x : Body} {g : Guest}
    (h : Furnishes w b (v, .ok (x, g))) : x.name = b.name ∧ g.context = none := by
  cases h with
  | furnished => exact ⟨rfl, rfl⟩

theorem frees_begin (w : World σ) (b : Blueprint) (id : Nat) :
    Frees b.name (begin w b id).2 := by
  have hturn := begins w b id
  generalize begin w b id = turn at hturn ⊢
  cases hturn with
  | unfurnished => trivial
  | startless h => exact frees_afterStart h.free.1 h.free.2
  | starting h => exact ⟨h.free.1, h.free.2⟩

/-- **An instance being made serves no request.** -/
theorem frees_proceed {x : Birth} (h : x.Free module) (w : World σ) :
    Frees module (proceed rounds w x).2 := by
  have hrounds := (Activity.proceed_frame x.body w x.guest rounds x.activity).context
  rw [h.context] at hrounds
  have hturn := proceeds rounds w x
  generalize proceed rounds w x = turn at hturn ⊢
  generalize Activity.proceed x.body rounds w x.guest x.activity = run at hrounds hturn
  cases hturn with
  | busy | waiting | initialized => exact ⟨h.name, hrounds⟩
  | started => exact frees_afterStart h.name hrounds
  | abandoned => trivial

end Birth

namespace Filling

/-- Whether a pool being filled has instances of its module only, none of which serves a request. -/
structure Free (f : Filling) : Prop where
  made : ∀ i ∈ f.made, i.Free f.blueprint.name
  birth : f.birth.Free f.blueprint.name

/-- Whether what comes of filling a pool is as it should be. -/
def Frees (module : String) : Standing Filling Result → Prop
  | .busy f | .blocked f => f.Free ∧ f.blueprint.name = module
  | .ended (.ok p) => p.name = module ∧ p.leases = [] ∧ p.restorations = [] ∧
      ∀ i ∈ p.idle, i.Free module
  | .ended (.error _) => True

variable {f : Filling} {rounds : Nat}

theorem frees_afterBirth (hf : ∀ i ∈ f.made, i.Free f.blueprint.name) (missing : Nat)
    (w : World σ) {s : Standing Birth Birth.Result} (hs : Birth.Frees f.blueprint.name s) :
    Frees f.blueprint.name (afterBirth f missing w s).2 := by
  induction missing generalizing f w s with
  | zero =>
    match s, hs with
    | .busy b, hb | .blocked b, hb => exact ⟨⟨hf, hb⟩, rfl⟩
    | .ended (.error e), _ => trivial
    | .ended (.ok i), hi => exact ⟨rfl, rfl, rfl, List.forall_mem_cons.mpr ⟨hi, hf⟩⟩
  | succ missing ih =>
    match s, hs with
    | .busy b, hb | .blocked b, hb => exact ⟨⟨hf, hb⟩, rfl⟩
    | .ended (.error e), _ => trivial
    | .ended (.ok i), hi =>
      exact ih (f := { f with made := i :: f.made }) (List.forall_mem_cons.mpr ⟨hi, hf⟩) _
        (Birth.frees_begin w f.blueprint ((i :: f.made).length + 1))

theorem frees_begin (w : World σ) (b : Blueprint) (size : Nat) (timeout : Option Nat) :
    Frees b.name (begin w b size timeout).2 := by
  unfold begin
  split
  · trivial
  · exact frees_afterBirth (f := ⟨b, size, timeout, [], default⟩) (fun _ hi => nomatch hi) _ _
      (Birth.frees_begin w b 1)

/-- **A pool being filled serves no request.** -/
theorem frees_proceed (hf : f.Free) (w : World σ) :
    Frees f.blueprint.name (proceed rounds w f).2 :=
  frees_afterBirth hf.made _ _ (Birth.frees_proceed hf.birth w)

end Filling
end FunctionHost

import FunctionHost.Proofs.Server.Turns
import Mathlib.Data.List.Perm.Basic

/-!
# Requests that are given up

A server is given commands, its work goes on piece by piece in any order, and any of it may be given
up where it waits: a request while it waits for an instance, while the instance is called or while
it is given back.  `Traffic` is a server with its unfinished work and a `ServerAct` is what can
happen to it, so a list of acts is a run with any number of requests.

Giving up a request that waits costs nothing, and neither does giving up a call: the lease is
dropped and its instance restored by somebody else.  But a restoration that is given up is not
accounted for: its instance is gone, its lease is counted and its permit is given out for ever.  So
once everything is restored a pool has settled if and only if that never happened
(`settled_iff_none_broken_off`).
-/
namespace FunctionHost

variable {σ : Type}

/-- **A server at work.** -/
structure Traffic (σ : Type) where
  /-- The server. -/
  server : Server σ
  /-- What it has to do. -/
  works : List ServerWork

/-- **What can happen to a server** in one turn. -/
inductive ServerAct (σ : Type) where
  /-- A command is given. -/
  | begin (context : Context) (command : ServerCommand)
  /-- Some work goes on. -/
  | proceed (index : Nat)
  /-- Some work is given up. -/
  | drop (index : Nat)
  /-- Restorations that nobody waits for are taken up. -/
  | collect
  /-- The world has changed: time has passed, or tokens were cancelled. -/
  | elapse (world : World σ)

/-- The restorations that nobody has taken up, as work. -/
def Server.background (s : Server σ) : List ServerWork :=
  s.left.map fun x => .restoring x.1 x.2 none

/-- **A server that nobody has used yet**, as it comes of a plan. -/
structure Server.Fresh (w : World σ) (plan : ServerPlan) (s : Server σ) : Prop where
  pools : s.pools = #[]
  left : s.left = []
  registry : s.registry = {}
  opened : s.closed = false
  settings : s.settings = plan.settings
  linker : ({} : Linker).register plan.settings.execution.wasi
    plan.settings.execution.allocateExport = (s.linker, .ok ())
  slots : s.world.slots = w.slots
  engine : s.world.engine = plan.settings.engine

/-- **A server that was just started** has no pools and no modules. -/
theorem Server.fresh_of_start {w v : World σ} {files : Files} {plan : ServerPlan} {s : Server σ}
    (hs : Server.start w files plan = (v, .ok s)) : Server.Fresh w plan s := by
  have hengine (w : World σ) : (Engine.startTicker (Engine.start w)).slots = w.slots ∧
      (Engine.startTicker (Engine.start w)).engine = w.engine := by
    simp only [Engine.startTicker, Engine.start]
    split <;> split <;> exact ⟨rfl, rfl⟩
  unfold Server.start at hs
  split at hs
  · cases hs
  · split at hs
    · cases hs
    · dsimp only at hs
      split at hs
      · cases hs
      · rename_i hlinker
        cases hs
        have hworld := hengine { w with engine := plan.settings.engine }
        exact ⟨rfl, rfl, rfl, rfl, rfl, hlinker, hworld.1, hworld.2⟩

namespace Traffic

/-- The traffic after an act. -/
def perform (t : Traffic σ) : ServerAct σ → Traffic σ
  | .begin c command =>
    let (s, standing) := t.server.begin c command
    ⟨s, standing.work?.toList ++ t.works⟩
  | .proceed k =>
    match t.works[k]? with
    | none => t
    | some x =>
      let (s, standing) := t.server.proceed x
      ⟨s, standing.work?.toList ++ t.works.eraseIdx k⟩
  | .drop k =>
    match t.works[k]? with
    | none => t
    | some x => ⟨t.server.drop x, t.works.eraseIdx k⟩
  | .collect => ⟨{ t.server with left := [] }, t.server.background ++ t.works⟩
  | .elapse w => ⟨{ t.server with world := w }, t.works⟩

/-- **The traffic after a run.** -/
def run (t : Traffic σ) (as : List (ServerAct σ)) : Traffic σ := as.foldl perform t

/-- Whether an act gives up a restoration of a pool. -/
def breaksOff (n : Nat) (t : Traffic σ) : ServerAct σ → Bool
  | .drop k => (t.works[k]?.bind (·.restoration? n)).isSome
  | _ => false

/-- How many restorations of a pool are given up in a run. -/
def brokenOff (n : Nat) (t : Traffic σ) : List (ServerAct σ) → Nat
  | [] => 0
  | a :: as => (t.breaksOff n a).toNat + (t.perform a).brokenOff n as

/-- The callers of a pool: requests with an instance that is called. -/
def callers (n : Nat) (t : Traffic σ) : Nat := (ServerWork.leases n t.works).length

/-- What is being restored in a pool, whether somebody waits for it or not. -/
def restored (n : Nat) (t : Traffic σ) : List Nat :=
  ServerWork.restorations n (t.works ++ t.server.background)

/-- **Traffic in order**: the pools are in the hands of all work that there is. -/
def Steady (broken : Nat → Nat) (t : Traffic σ) : Prop :=
  Server.InOrder broken t.server.left t.server (t.works ++ t.server.background)

variable {broken : Nat → Nat} {t : Traffic σ}

/-- Some work and the rest. -/
theorem works_perm {k : Nat} {x : ServerWork} (hx : t.works[k]? = some x) :
    (t.works ++ t.server.background).Perm (x :: (t.works.eraseIdx k ++ t.server.background)) := by
  obtain ⟨hk, rfl⟩ := List.getElem?_eq_some_iff.mp hx
  exact ((List.getElem_cons_eraseIdx_perm hk).symm).append_right _

/-- What a turn keeps in order is steady. -/
theorem steady_of_keeps {s : Server σ} {ws : List ServerWork}
    {standing : Standing ServerWork ServerReply}
    (h : Server.Keeps broken t.server.left (ws ++ t.server.background) (s, standing)) :
    Steady broken ⟨s, standing.work?.toList ++ ws⟩ := by
  have hleft : s.left = t.server.left := h.left
  rw [Steady, Server.background, hleft, List.append_assoc]
  exact h

/-! ## Giving up -/

/-- **Work that is given up** leaves its restoration to somebody else, unless it is the one that
restores. -/
theorem drop_inOrder {s : Server σ} {x : ServerWork} {ws : List ServerWork}
    (h : Server.InOrder broken s.left s (x :: (ws ++ s.background))) :
    Steady (fun n => broken n + (x.restoration? n).isSome.toNat) ⟨s.drop x, ws⟩ := by
  have hx := h.works x List.mem_cons_self
  cases x with
  | compiling plan => exact h.tail fun _ => ⟨rfl, rfl⟩
  | filling name hash f => exact (h.tail fun _ => ⟨rfl, rfl⟩).world _
  | unloading k wait => exact h.tail fun _ => ⟨rfl, rfl⟩
  | closing drains => exact h.tail fun _ => ⟨rfl, rfl⟩
  | waiting k ticket c entrypoint payload =>
    have hat : ∀ z ∈ some (ServerWork.waiting k ticket c entrypoint payload), z.At k :=
      ServerWork.At.of_mem_some rfl
    have hands := h.hands k hx
    simp only [ServerWork.leases_waiting, ServerWork.restorations_waiting] at hands
    exact h.exchange (x := some _) (y := none) hx hat ServerWork.At.of_mem_none
      (Server.closed_perform (w := s.world) (a := .leaveQueue ticket)) (hands.leaveQueue ticket)
  | calling k lease =>
    have hat : ∀ z ∈ some (ServerWork.calling k lease), z.At k :=
      ServerWork.At.of_mem_some rfl
    have hands := h.hands k hx
    simp only [ServerWork.leases_calling, ServerWork.restorations_calling] at hands
    obtain ⟨v, q, r, habandon, hq⟩ := hands.abandon s.world
    have hclosed := Server.closed_perform (w := s.world) (p := s.pool k) (a := .abandon lease)
    rw [PoolAct.perform, habandon] at hclosed
    have hy : ∀ z ∈ some (ServerWork.restoring k r none), z.At k :=
      ServerWork.At.of_mem_some rfl
    have hnext := h.exchange (x := some _) (y := some _) (w := v) hx hat hy hclosed
      (by simpa using hq)
    -- What restores the instance is left behind, for somebody else to take up.
    have hdrop : s.drop (.calling k lease) =
        { s.after k v q with left := s.left ++ [(k, r)] } := by
      simp only [Server.drop, habandon]
      rfl
    have hbackground : (s.drop (.calling k lease)).background =
        s.background ++ [.restoring k r none] := by
      rw [hdrop, Server.background, Server.background, List.map_append]
      rfl
    rw [Steady, hbackground, hdrop]
    refine (hnext.withLeft _).perm ?_
    rw [← List.append_assoc]
    exact (List.perm_append_singleton _ _).symm
  | restoring k number outcome =>
    have hat : ∀ z ∈ some (ServerWork.restoring k number outcome), z.At k :=
      ServerWork.At.of_mem_some rfl
    have hands := h.hands k hx
    simp only [ServerWork.leases_restoring, ServerWork.restorations_restoring] at hands
    have hnext := hands.dropRestoration s.world
    have hbroken : broken k + 1 =
        broken k + (ServerWork.restoration? k (.restoring k number outcome)).isSome.toNat := by
      rw [ServerWork.restoration?, if_pos rfl]
      rfl
    rw [hbroken] at hnext
    refine h.exchange_broken (x := some _) (y := none) hx (fun n hn => ?_) hat
      ServerWork.At.of_mem_none
      (Server.closed_perform (w := s.world) (a := .dropRestoration number)) hnext
    rw [(hat _ rfl |>.none_of_ne hn).2]
    rfl

/-- **An act keeps traffic in order.** -/
theorem Steady.perform (h : Steady broken t) (a : ServerAct σ) :
    Steady (fun n => broken n + (t.breaksOff n a).toNat) (t.perform a) := by
  cases a with
  | begin c command => exact steady_of_keeps (Server.keeps_begin h c command)
  | proceed k =>
    rw [Traffic.perform]
    split
    · exact h
    · rename_i x hx
      exact steady_of_keeps (Server.keeps_proceed (Server.InOrder.perm h (works_perm hx)))
  | drop k =>
    rw [Traffic.perform]
    split
    · rename_i hx
      have hnone (n : Nat) : t.breaksOff n (.drop k) = false := by rw [breaksOff, hx]; rfl
      simp only [hnone]
      exact h
    · rename_i x hx
      have hdrops (n : Nat) : t.breaksOff n (.drop k) = (x.restoration? n).isSome := by
        rw [breaksOff, hx]; rfl
      simp only [hdrops]
      exact drop_inOrder (Server.InOrder.perm h (works_perm hx))
  | collect =>
    have hall := (Server.InOrder.perm h List.perm_append_comm).withLeft []
    rw [← List.append_nil (t.server.background ++ t.works)] at hall
    exact hall
  | elapse w => exact Server.InOrder.world h w

/-- **A run keeps traffic in order.** -/
theorem Steady.run (h : Steady broken t) (as : List (ServerAct σ)) :
    Steady (fun n => broken n + t.brokenOff n as) (t.run as) := by
  induction as generalizing t broken with
  | nil => exact h
  | cons a as ih =>
    have hnext := ih (h.perform a)
    simp only [Nat.add_assoc] at hnext
    exact hnext

/-! ## Settling -/

/-- A server that was just started is in order. -/
theorem steady_of_start {w v : World σ} {files : Files} {plan : ServerPlan} {s : Server σ}
    (hs : Server.start w files plan = (v, .ok s)) : Steady (fun _ => 0) ⟨s, []⟩ := by
  have hnew := Server.fresh_of_start hs
  rw [Steady, Server.background, hnew.left]
  refine ⟨fun n hn => ?_, fun x hx => ?_, fun e he => ?_, fun _ _ => rfl, hnew.left⟩
  · rw [hnew.pools] at hn
    exact absurd hn (Nat.not_lt_zero n)
  · exact nomatch hx
  · rw [hnew.registry] at he
    exact nomatch he

/-- **A pool of a server settles** if and only if nobody gave a restoration of it up. -/
theorem settled_run_iff {w v : World σ} {files : Files} {plan : ServerPlan} {s : Server σ}
    (hs : Server.start w files plan = (v, .ok s)) (as : List (ServerAct σ)) (n : Nat)
    (ho : ((Traffic.run ⟨s, []⟩ as).server.pool n).closed = false)
    (hr : (Traffic.run ⟨s, []⟩ as).restored n = []) :
    ((Traffic.run ⟨s, []⟩ as).server.pool n).Settled ((Traffic.run ⟨s, []⟩ as).callers n) ↔
      Traffic.brokenOff n ⟨s, []⟩ as = 0 := by
  have h := (steady_of_start hs).run as
  simp only [Nat.zero_add] at h
  generalize Traffic.run ⟨s, []⟩ as = t at ho hr h ⊢
  obtain ⟨hnumbered, ⟨g, v, hacc⟩, hleases, hrestorations⟩ := Server.InOrder.hands_all h n
  have hrestored : (t.server.pool n).restorations.length = 0 := by
    have hlength := hrestorations.length_eq
    rw [List.length_map] at hlength
    exact hlength.trans (congrArg List.length hr)
  have hcallers : t.callers n = (t.server.pool n).leases.length := by
    -- What was left behind restores; only work that calls holds a lease.
    have hbackground : ServerWork.leases n t.server.background = [] :=
      List.filterMap_eq_nil_iff.mpr fun x hx => by
        obtain ⟨y, -, rfl⟩ := List.mem_map.mp hx
        rfl
    rw [ServerWork.leases_append, hbackground, List.append_nil] at hleases
    have hlength := hleases.length_eq
    rw [List.length_map] at hlength
    exact hlength.symm
  rw [hcallers]
  exact hacc.settled_iff hnumbered ho hrestored

end Traffic

/-- **When giving up costs a pool nothing.**  Whoever uses a pool, by themselves or through a
server, may give up what they do wherever it waits: for an instance, for a call, or for what is
given back.  Once nothing is being restored any more, an open pool has settled if and only if no
restoration was given up: everything else that is given up is made good. -/
theorem settled_iff_none_broken_off :
    (∀ (b : Blueprint) (size : Nat) (timeout : Option Nat) (p : Pool) (ms : List (Moment σ)),
      Filled σ b size timeout p → (p.run ms).closed = false → (p.run ms).restorations = [] →
        ((p.run ms).Settled (p.run ms).leases.length ↔
          p.countMoments (fun q m => m.act.interrupts q) ms = 0)) ∧
    ∀ (w v : World σ) (files : Files) (plan : ServerPlan) (s : Server σ) (as : List (ServerAct σ))
      (n : Nat),
      Server.start w files plan = (v, .ok s) →
        let t := Traffic.run ⟨s, []⟩ as
        (t.server.pool n).closed = false → t.restored n = [] →
          ((t.server.pool n).Settled (t.callers n) ↔ Traffic.brokenOff n ⟨s, []⟩ as = 0) := by
  constructor
  · intro b size timeout p ms hp ho hr
    exact Pool.settled_run_iff hp ms ho hr
  · intro w v files plan s as n hs t ho hr
    exact Traffic.settled_run_iff hs as n ho hr

/-! ## A guest that takes its time to tidy up -/

/-- A world in which every host call takes fifty milliseconds. -/
def World.slow : World Unit :=
  { callback := fun _ _ _ => { state := (), reply := .ok ByteArray.empty, delay := 50 }
    state := () }

/-- A module whose guests answer every request with nothing and make a host call when they tidy
up. -/
def Bytes.tidyGuest : Bytes := .mk (
  #[0, 0x61, 0x73, 0x6d, 1, 0, 0, 0] ++
  -- The types of an allocator, of the host call, of an action and of an entrypoint.
  #[1, 27, 4, 0x60, 1, 0x7f, 1, 0x7f, 0x60, 8, 0x7f, 0x7f, 0x7f, 0x7f, 0x7f, 0x7f, 0x7f, 0x7f, 1,
    0x7e, 0x60, 0, 0, 0x60, 2, 0x7f, 0x7f, 1, 0x7e] ++
  -- `host_call` of `capsule` is imported.
  #[2, 21, 1, 7, 0x63, 0x61, 0x70, 0x73, 0x75, 0x6c, 0x65, 9, 0x68, 0x6f, 0x73, 0x74, 0x5f, 0x63,
    0x61, 0x6c, 0x6c, 0, 1] ++
  #[3, 4, 3, 0, 3, 2] ++ #[5, 3, 1, 0, 0] ++
  -- `memory`, `allocate`, `run` and `reset` are exported.
  #[7, 35, 4, 6, 0x6d, 0x65, 0x6d, 0x6f, 0x72, 0x79, 2, 0, 8, 0x61, 0x6c, 0x6c, 0x6f, 0x63, 0x61,
    0x74, 0x65, 0, 1, 3, 0x72, 0x75, 0x6e, 0, 2, 5, 0x72, 0x65, 0x73, 0x65, 0x74, 0, 3] ++
  #[10, 33, 3, 4, 0, 0x20, 0, 0x0b, 4, 0, 0x42, 0, 0x0b, 21, 0, 0x41, 0, 0x41, 0, 0x41, 0, 0x41, 0,
    0x41, 0, 0x41, 0, 0x41, 0, 0x41, 0, 0x10, 0, 0x1a, 0x0b])

/-- A server in that world that nobody has used yet. -/
def Server.unused : Server Unit :=
  match (Server.start World.slow Files.none {}).2 with
  | .ok s => s
  | .error _ => { world := .slow, settings := {}, linker := {} }

/-- The module is loaded and called once. -/
def ServerAct.callOnce : List (ServerAct Unit) := [
  .begin default (.load ⟨"tidy", .bytes .tidyGuest, 1⟩), .proceed 0,
  .begin default (.execute "tidy" "run" ByteArray.empty)]

/-- A lease is dropped and its instance replaced; a request is given up while its instance is
called, which is replaced, too.  Both pools settle. -/
theorem settled_after_dropped_call :
    let ms : List (Moment Unit) := [⟨.silent, .tryCheckout⟩, ⟨.silent, .abandon 0⟩,
      ⟨.silent, .proceedRestoration 1 1⟩]
    let p := Pool.filled .silent .plain []
    let as := ServerAct.callOnce ++ [.drop 0, .collect, .proceed 0]
    let t := Traffic.run ⟨.unused, []⟩ as
    (p.run ms).Settled 0 ∧ Traffic.brokenOff 0 ⟨.unused, []⟩ as = 0 ∧
      (t.server.pool 0).replaced = 1 ∧ (t.server.pool 0).Settled 0 := by
  intro ms p as t
  have hstart : Server.start World.slow Files.none {} =
      ((Server.start World.slow Files.none {}).1, .ok .unused) := rfl
  have hruns : ((t.server.pool 0).closed, t.restored 0, t.callers 0, (t.server.pool 0).replaced,
      Traffic.brokenOff 0 ⟨.unused, []⟩ as) = (false, [], 0, 1, 0) := by
    decide +kernel
  simp only [Prod.mk.injEq] at hruns
  obtain ⟨hopen, hrestored, hcallers, hreplaced, hunbroken⟩ := hruns
  have hpool := (settled_iff_none_broken_off.1 .plain 1 none p ms filled_plain rfl rfl).mpr rfl
  have hserver : (t.server.pool 0).Settled (t.callers 0) ↔
      Traffic.brokenOff 0 ⟨.unused, []⟩ as = 0 :=
    settled_iff_none_broken_off.2 _ _ _ _ _ as 0 hstart hopen hrestored
  rw [hcallers] at hserver
  exact ⟨hpool, hunbroken, hreplaced, hserver.mpr hunbroken⟩

/-- **A request that is given up while its instance tidies up is counted for ever.**  Nobody holds
anything and nothing is being restored, but one instance counts as leased and none is idle, and
there is a permit for the next request but no instance. -/
theorem unsettled_after_dropped_restoration :
    let as := ServerAct.callOnce ++ [.proceed 0, .proceed 0, .drop 0]
    let t := Traffic.run ⟨.unused, []⟩ as
    (t.server.pool 0).closed = false ∧ t.restored 0 = [] ∧ t.callers 0 = 0 ∧
      (t.server.pool 0).leased = 1 ∧ (t.server.pool 0).permits.free = 1 ∧
      (t.server.pool 0).idle.length = 0 ∧ ¬ (t.server.pool 0).Settled (t.callers 0) := by
  intro as t
  have hruns : ((t.server.pool 0).closed, t.restored 0, t.callers 0, (t.server.pool 0).leased,
      (t.server.pool 0).permits.free, (t.server.pool 0).idle.length) = (false, [], 0, 1, 1, 0) := by
    decide +kernel
  simp only [Prod.mk.injEq] at hruns
  obtain ⟨hopen, hrestored, hcallers, hleased, hfree, hidle⟩ := hruns
  refine ⟨hopen, hrestored, hcallers, hleased, hfree, hidle, fun h => ?_⟩
  have hsame := h.leased
  rw [hleased, hcallers] at hsame
  cases hsame

end FunctionHost

import FunctionHost.Proofs.Capability.Mapping
import FunctionHost.Proofs.Server.Attribution
import FunctionHost.Proofs.Server.Update

/-!
# What the guests of a server store

Guests of all modules and in all their instances ask the same router.  `Traffic.heard` is what it was
asked in a run, in that order, and its state at the end is what these calls have made of it
(`Traffic.steps_hears`).  So however the turns of guests alternate, the key-value store is one map
for all of them, and each guest is answered as the map answers that the calls before have made
(`Traffic.store_is_a_map`).
-/
namespace FunctionHost

open Wasm (Thread Word)

variable {σ : Type}

/-! ## Guests -/

/-- **Whether guests are answered as a map answers**: a guest that asks the store for something waits
for what the map answers, and that is there at once. -/
def World.Maps (w : World Router) (m : Mapping) : Prop :=
  ∀ (b : Body) (g : Guest) (t : Thread) (func : Nat) (args : List Word)
    (outer : List (Thread × Delivery)) (allocator : String) (c : Context) (r : HostRequest),
    b.imports[func]? = some (.hostCall allocator) →
      Activity.asked? b w g ⟨.acting (.calling t func args), outer⟩ = some (c, r) →
        r.space = KeyValue.space → ∃ reply, m.Answers r reply ∧
          (Activity.round b w g ⟨.acting (.calling t func args), outer⟩).2 =
            (g.recordHostCall,
              .busy ⟨.awaiting t ⟨c, r, allocator, reply, w.clock.now⟩, outer⟩)

/-- **What is in the store** is what guests are answered from. -/
theorem Router.Holds.maps {w : World Router} {m : Mapping} (h : w.state.Holds m)
    (hw : w.callback = Router.callback) : w.Maps m := by
  intro b g t func args outer allocator c r hf hasked hspace
  obtain ⟨store, hstore, hm⟩ := h
  obtain ⟨hdelay, -, hreply⟩ := Router.callback_of_space hstore hspace c
  have hround := Activity.round_of_asked hf hasked
  simp only [hw, hdelay, hreply] at hround
  exact ⟨_, KeyValue.answers_apply hm hspace, hround⟩

/-! ## Runs -/

/-- **Whether a step leaves the callback to the guests**: what passes is time, and tokens are
cancelled. -/
def ServerStep.Spares (w : World σ) : ServerStep σ → Prop
  | .act (.elapse v) => w.Hears v w.state
  | _ => True

namespace Traffic

variable {t : Traffic σ} {a : ServerStep σ}

/-- What the callback is asked in a step. -/
def asks (t : Traffic σ) (a : ServerStep σ) : List (Context × HostRequest) :=
  Running.asks? (t.running? a) Server.quantum t.server.world

/-- **What the callback is asked in some steps**, in this order. -/
def heard (t : Traffic σ) : List (ServerStep σ) → List (Context × HostRequest)
  | [] => []
  | a :: as => t.asks a ++ (t.step a).heard as

/-- Whether some steps leave the callback to the guests. -/
def Spared (t : Traffic σ) : List (ServerStep σ) → Prop
  | [] => True
  | a :: as => a.Spares t.server.world ∧ (t.step a).Spared as

/-- **A step makes of the callback** what is asked in it. -/
theorem step_hears (h : Lawful t) (ha : a.Spares t.server.world) :
    t.server.world.Hears (t.step a).server.world
      (t.server.world.callback.after t.server.world.state (t.asks a)) := by
  cases he : a.elapses with
  | false => exact (Running.after?_hears ..).still (h.step_still he)
  | true =>
    unfold ServerStep.elapses at he
    split at he
    · exact ⟨ha.callback, ha.state⟩
    · cases he

/-- **Steps make of the callback** what is asked in them. -/
theorem steps_hears {as : List (ServerStep σ)} (h : Lawful t) (has : t.Spared as) :
    t.server.world.Hears (t.steps as).server.world
      (t.server.world.callback.after t.server.world.state (t.heard as)) := by
  induction as generalizing t with
  | nil => exact ⟨rfl, rfl⟩
  | cons a as ih =>
    have hstep := step_hears h has.1
    have hrest := ih (h.step a) has.2
    rw [hstep.callback, hstep.state] at hrest
    exact ⟨hrest.callback.trans hstep.callback, hrest.state.trans List.foldl_append.symm⟩

/-- **The key-value store is one map.**  Whatever calls come to a router whose store is empty, in
whatever order and from whomever, they are answered as a map answers them; and so is every guest that
asks.  Whatever happens to a server with such a router, the calls of all its guests make up such a
sequence, and the router is what that has made of it. -/
theorem store_is_a_map :
    (∀ (router : Router) (calls : List (Context × HostRequest)), router.store? = some {} →
      router.Maps calls) ∧
    (∀ (w : World Router) (m : Mapping), w.callback = Router.callback → w.state.Holds m →
      w.Maps m) ∧
    ∀ (w v : World Router) (files : Files) (plan : ServerPlan) (s : Server Router)
      (as : List (ServerStep Router)), Server.start w files plan = (v, .ok s) →
        s.world.callback = Router.callback → s.world.state.store? = some {} →
          Spared ⟨s, []⟩ as →
            let calls := heard ⟨s, []⟩ as
            let t := steps ⟨s, []⟩ as
            t.server.world.state = Callback.after Router.callback s.world.state calls ∧
              s.world.state.Maps calls ∧ t.server.world.Maps (.ofCalls calls) := by
  refine ⟨fun router calls h => Router.maps_of_empty h calls, fun w m hw h => h.maps hw, ?_⟩
  intro w v files plan s as hs hcallback hstore has calls t
  have hhears := steps_hears (lawful_of_start hs).1 has
  rw [hcallback] at hhears
  have hmaps := Router.maps_of_empty hstore calls
  have hholds : t.server.world.state.Holds (.ofCalls calls) := hhears.state ▸ hmaps.holds
  exact ⟨hhears.state, hmaps, hholds.maps (hhears.callback.trans hcallback)⟩

/-- What was set is got from a store that was empty, a guest sets something and is told so, and guests
of two modules ask one router. -/
theorem one_store_for_two_modules :
    let set : HostRequest := ⟨"kvstore", "set", "key", "value".toUTF8⟩
    let get : HostRequest := ⟨"kvstore", "get", "key", ByteArray.empty⟩
    let router := Router.ofList [.keyValue {}]
    let as : List (ServerStep Router) := [
      .act (.begin default (.load ⟨"first", .bytes .askingGuest, 1⟩)), .act (.proceed 0),
      .act (.begin default (.load ⟨"second", .bytes .askingGuest, 1⟩)), .act (.proceed 0),
      .act (.begin default (.execute "first" "run" ByteArray.empty)),
      .act (.begin default (.execute "second" "run" ByteArray.empty)),
      .act (.proceed 1), .act (.proceed 0)]
    let calls := heard ⟨.storing, []⟩ as
    (Router.callback default get (Callback.after Router.callback router [(default, set)])).reply =
        .ok "value".toUTF8 ∧
      (Activity.round .relay World.storing (.naming default)
        ⟨.acting (.calling default 0 [0, 7, 7, 3, 10, 3, 13, 5]), []⟩).2.2 =
          .busy ⟨.awaiting default ⟨default, set, "allocate", .ok ByteArray.empty, 0⟩, []⟩ ∧
      calls.map (·.1.module) = [some "first", some "second"] ∧
        Server.storing.world.state.Maps calls := by
  intro set get router as calls
  have hstart : Server.start World.storing Files.none {} =
      ((Server.start World.storing Files.none {}).1, .ok .storing) := rfl
  have hspared : Spared ⟨.storing, []⟩ as :=
    ⟨trivial, trivial, trivial, trivial, trivial, trivial, trivial, trivial, trivial⟩
  -- What the two calls ask is computed.
  have hmodules : calls.map (·.1.module) = [some "first", some "second"] := by
    decide +kernel
  have hmaps : router.Maps [(default, set), (default, get)] := store_is_a_map.1 router _ rfl
  have hgot := (hmaps.answers [(default, set)] default get [] rfl rfl).get rfl (by decide)
  have hempty : World.storing.state.Holds (.ofCalls []) := ⟨{}, rfl, rfl⟩
  obtain ⟨reply, hanswers, hround⟩ := store_is_a_map.2.1 World.storing (.ofCalls []) rfl hempty .relay
    (.naming default) default 0 [0, 7, 7, 3, 10, 3, 13, 5] [] "allocate" default set rfl rfl rfl
  have hset : reply = .ok ByteArray.empty := hanswers.update (.inl rfl) (by decide)
  subst hset
  exact ⟨hgot, congrArg Prod.snd hround, hmodules,
    (store_is_a_map.2.2 _ _ _ _ _ as hstart rfl rfl hspared).2.1⟩

end Traffic
end FunctionHost

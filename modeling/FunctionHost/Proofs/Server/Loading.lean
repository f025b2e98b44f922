import FunctionHost.Proofs.Server.Steps

/-!
# Turns of a load

A load has many turns: its code is compiled, instance after instance is made, and in the turn in
which the last one is there the module is published, if its name can be given then.  `Loading` lists
what such a turn can come to.  Until the end the server is left alone but for what all guests share;
and whatever ends a load without publishing lets all instances go that were made for it.
-/
namespace FunctionHost

variable {σ : Type}

/-! ## Filling -/

namespace Filling

variable {b : Blueprint} {size : Nat} {timeout : Option Nat}

/-- One more turn. -/
theorem turns_append (w : World σ) (ms : List (Nat × World σ)) (m : Nat × World σ) {f : Filling}
    (hf : (turns b size timeout w ms).work? = some f) :
    turns b size timeout w (ms ++ [m]) = (proceed m.1 m.2 f).2 := by
  have hturn : turns b size timeout w (ms ++ [m]) = turn (turns b size timeout w ms) m :=
    List.foldl_append
  rw [hturn, turn, hf]

/-- What is being filled is what was begun. -/
theorem turns_fixed (w : World σ) (ms : List (Nat × World σ)) {f : Filling}
    (hf : (turns b size timeout w ms).work? = some f) :
    f.blueprint = b ∧ f.size = size ∧ f.checkoutTimeout = timeout := by
  have hobeys : Obeys b size timeout (fun _ _ => True) (turns b size timeout w ms) :=
    obeys_turns ⟨fun _ => trivial, fun _ _ _ _ _ _ _ => trivial, fun _ _ _ _ => trivial⟩ w ms
  generalize turns b size timeout w ms = standing at hf hobeys
  cases standing <;> cases hf <;> exact ⟨hobeys.1, hobeys.2.1, hobeys.2.2.1⟩

end Filling

/-- **What a filled pool has**: so many instances, all of them idle. -/
theorem Filled.counts {b : Blueprint} {size : Nat} {timeout : Option Nat} {p : Pool}
    (hp : Filled σ b size timeout p) :
    p.name = b.name ∧ p.size = size ∧ p.idle.length = size ∧ p.holdings.length = size ∧
      p.closed = false := by
  obtain ⟨made, i, hm, rfl⟩ := hp.eq
  refine ⟨rfl, rfl, hm, ?_, rfl⟩
  rw [Pool.length_holdings]
  exact hm

namespace ServerWork

/-- The name and the size under which some work loads a module. -/
def load? : ServerWork → Option (String × Nat)
  | .compiling plan => some (plan.name, plan.poolSize)
  | .filling name _ f => some (name, f.size)
  | _ => none

/-- Whether a pool that is being filled was begun under the name of its module. -/
def Genuine (σ : Type) : ServerWork → Prop
  | .filling name _ f => f.blueprint.name = name ∧ ∃ (w : World σ) (ms : List (Nat × World σ)),
      (Filling.turns f.blueprint f.size f.checkoutTimeout w ms).work? = some f
  | _ => True

variable {x : ServerWork}

theorem births_of_load?_none (h : x.load? = none) : x.births = 0 := by
  cases x with
  | filling name hash f => cases h
  | _ => rfl

theorem genuine_of_births (h : x.births = 0) : x.Genuine σ := by
  cases x with
  | filling name hash f => cases h
  | _ => trivial

end ServerWork

namespace Server

variable {s : Server σ} {w : World σ} {x : ServerWork} {name hash : String} {size : Nat}

/-- **The pool that a load has filled** at the end of its next turn, if it has: the load reaches
publication then. -/
def fills? (s : Server σ) : ServerWork → Option Pool
  | .compiling plan =>
    match s.compile plan.source with
    | (w, .ok c) =>
      (Filling.begin w (Blueprint.withLinker s.linker s.settings.execution plan.name c)
        plan.poolSize s.settings.pool.checkoutTimeout).2.result?.bind Except.toOption
    | (_, .error _) => none
  | .filling _ _ f => (Filling.proceed quantum s.world f).2.result?.bind Except.toOption
  | _ => none

/-- The server with a module that is served from now on. -/
def publishing (s : Server σ) (w : World σ) (name hash : String) (p : Pool) : Server σ :=
  { s with
    world := w
    registry := { s.registry with
      entries := s.registry.entries.insert name ⟨hash, s.pools.size⟩ }
    pools := s.pools.push p }

/-- **What a turn of a load comes to**, with what becomes of the instances made for it. -/
inductive Loading (s : Server σ) (x : ServerWork) (name : String) (size : Nat) : Turn σ → Prop
  | goesOn {w : World σ} {y : ServerWork} {standing : Standing ServerWork ServerReply}
      (hfull : s.fills? x = none) (hy : standing.work? = some y) (hl : y.load? = some (name, size))
      (hg : y.Genuine σ) (hw : s.world.Trades x.births w y.births) :
      Loading s x name size ({ s with world := w }, standing)
  | failed {w : World σ} {e : HostError} (hfull : s.fills? x = none)
      (hw : s.world.Trades x.births w 0) :
      Loading s x name size ({ s with world := w }, .ended (.refused e))
  | late {w : World σ} {p : Pool} (hfull : s.fills? x = some p) (hc : s.registry.closed = true)
      (hw : s.world.Trades x.births w 0) :
      Loading s x name size ({ s with world := w }, .ended (.refused .serverClosed))
  | taken {w : World σ} {p : Pool} (hfull : s.fills? x = some p) (ho : s.registry.closed = false)
      (ht : s.registry.entries.contains name = true) (hw : s.world.Trades x.births w 0) :
      Loading s x name size ({ s with world := w }, .ended (.refused (.duplicateModule name)))
  | published {w : World σ} {p : Pool} {b : Blueprint} {timeout : Option Nat} {hash : String}
      (hfull : s.fills? x = some p) (hp : Filled σ b size timeout p) (hb : b.name = name)
      (ho : s.registry.closed = false) (hf : s.registry.entries.contains name = false)
      (hw : s.world.Trades x.births w p.holdings.length) :
      Loading s x name size (s.publishing w name hash p, .ended .done)

/-- A pool that cannot be published is emptied: none of its instances live on. -/
theorem trades_unpublished {b : Blueprint} {timeout : Option Nat} {p : Pool}
    (hp : Filled σ b size timeout p) :
    w.Trades p.idle.length (Pool.emptied w p.close).1 0 := by
  have hemptied := Pool.trades_emptied w p.close
  rw [Pool.length_holdings, Pool.length_holdings] at hemptied
  obtain ⟨made, i, -, rfl⟩ := hp.eq
  exact hemptied

theorem publish_late (hc : s.registry.closed = true) (p : Pool) :
    s.publish name hash p =
      { s with world := (Pool.emptied s.world p.close).1 }.refuse .serverClosed := by
  simp only [publish, Registry.publish, Registry.checkAvailable, hc, if_true]

theorem publish_taken (ho : s.registry.closed = false)
    (ht : s.registry.entries.contains name = true) (p : Pool) :
    s.publish name hash p =
      { s with world := (Pool.emptied s.world p.close).1 }.refuse (.duplicateModule name) := by
  simp only [publish, Registry.publish, Registry.checkAvailable, ho, ht, Bool.false_eq_true,
    if_false, if_true]

theorem publish_free (ho : s.registry.closed = false)
    (hf : s.registry.entries.contains name = false) (p : Pool) :
    s.publish name hash p = (s.publishing (s.world.report
      (event .info "Module loaded" [("content_hash", .text hash)])) name hash p, .ended .done) := by
  simp only [publish, publishing, Registry.publish, Registry.checkAvailable, ho, hf,
    Bool.false_eq_true, if_false]
  rfl

/-- **What follows a turn of filling.** -/
theorem loading_afterFilling {b : Blueprint} {timeout : Option Nat} {v : World σ}
    {ms : List (Nat × World σ)} {standing : Standing Filling Filling.Result} (hb : b.name = name)
    (hturns : Filling.turns b size timeout v ms = standing)
    (hw : s.world.Trades x.births w (Filling.lives standing))
    (hfull : s.fills? x = standing.result?.bind Except.toOption) :
    Loading s x name size (s.afterFilling name hash (w, standing)) := by
  -- A filling that is not over is still the one that was begun.
  have hgoes {f : Filling} {st : Standing ServerWork ServerReply} (hf : standing.work? = some f)
      (hst : st.work? = some (.filling name hash f)) (hl : Filling.lives standing = f.made.length + 1)
      (hnone : s.fills? x = none) : Loading s x name size ({ s with world := w }, st) := by
    rw [← hturns] at hf
    obtain ⟨rfl, rfl, rfl⟩ := Filling.turns_fixed v ms hf
    exact .goesOn hnone hst rfl ⟨hb, v, ms, hf⟩ (hw.trans (.of_eq rfl hl.symm))
  match standing with
  | .busy f => exact hgoes rfl rfl rfl hfull
  | .blocked f => exact hgoes rfl rfl rfl hfull
  | .ended (.error e) => exact .failed hfull hw
  | .ended (.ok p) =>
    have hp : Filled σ b size timeout p := ⟨v, ms, hturns⟩
    have hgone := hw.trans (trades_unpublished hp)
    rw [afterFilling]
    cases ho : s.registry.closed with
    | true =>
      rw [publish_late (s := { s with world := w }) ho]
      exact .late hfull ho hgone
    | false =>
      cases ht : s.registry.entries.contains name with
      | true =>
        rw [publish_taken (s := { s with world := w }) ho ht]
        exact .taken hfull ho ht hgone
      | false =>
        have hlives : Filling.lives (.ended (.ok p)) = p.holdings.length := by
          rw [hp.counts.2.2.2.1]
          exact hp.counts.2.2.1
        rw [publish_free (s := { s with world := w }) ho ht]
        exact .published (w := w.report _) hfull hp hb ho ht (hlives ▸ hw)

theorem compile_slots (source : ModuleSource) :
    (s.compile source).1.slots = s.world.slots := by
  have hbytes (bytes : Bytes) : (Compiled.ofBytes s.world bytes).1.slots = s.world.slots := by
    unfold Compiled.ofBytes
    split
    · rfl
    · split
      · rfl
      · split <;> rfl
  have htext (text : String) : (Compiled.ofText s.world text).1.slots = s.world.slots := by
    unfold Compiled.ofText
    split <;> rfl
  cases source with
  | bytes content => exact hbytes content
  | text content => exact htext content
  | file path =>
    rw [compile, compileFile]
    split
    · rfl
    · split
      · split
        · rfl
        · exact htext _
      · exact hbytes _

/-- **Every turn of a load goes one of these ways.** -/
theorem loading_proceed (hx : x.load? = some (name, size)) (hg : x.Genuine σ) :
    Loading s x name size (s.proceed x) := by
  cases x with
  | compiling plan =>
    cases hx
    have hslots := compile_slots (s := s) plan.source
    rw [proceed, fill]
    generalize hcompile : s.compile plan.source = turn at hslots
    obtain ⟨v, result⟩ := turn
    have hkept : s.world.Trades 0 v 0 := .of_slots hslots
    cases result with
    | error e =>
      have hfull : s.fills? (.compiling plan) = none := by simp only [fills?, hcompile]
      exact .failed hfull hkept
    | ok c =>
      have hfull : s.fills? (.compiling plan) =
          (Filling.begin v (Blueprint.withLinker s.linker s.settings.execution plan.name c)
            plan.poolSize s.settings.pool.checkoutTimeout).2.result?.bind Except.toOption := by
        simp only [fills?, hcompile]
      exact loading_afterFilling rfl (show Filling.turns _ _ _ _ [] = _ from rfl)
        (hkept.trans (Filling.trades_begin v _ plan.poolSize s.settings.pool.checkoutTimeout)) hfull
  | filling name hash f =>
    cases hx
    obtain ⟨hb, v, ms, hf⟩ := hg
    exact loading_afterFilling hb (Filling.turns_append v ms (quantum, s.world) hf)
      (Filling.trades_proceed quantum s.world f) rfl
  | _ => cases hx

/-- **A load that is given up** leaves nothing behind. -/
theorem drop_load (hx : x.load? = some (name, size)) :
    ∃ w : World σ, s.drop x = { s with world := w } ∧ s.world.Trades x.births w 0 := by
  cases x with
  | compiling plan => exact ⟨s.world, rfl, .of_slots rfl⟩
  | filling name hash f => exact ⟨_, rfl, Filling.trades_drop s.world f⟩
  | _ => cases hx

/-- A load that begins waits for its turn, or nothing comes of it. -/
theorem load_begins (s : Server σ) (plan : LoadPlan) :
    s.load plan = (s, .blocked (.compiling plan)) ∨ ∃ e, s.load plan = s.refuse e := by
  unfold load
  split
  · exact .inr ⟨_, rfl⟩
  · exact .inr ⟨_, rfl⟩
  · exact .inr ⟨_, rfl⟩
  · exact .inl rfl

end Server
end FunctionHost

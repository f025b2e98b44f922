import FunctionHost.Proofs.Guest.Frame
import FunctionHost.Proofs.Wasm.Fuel
import FunctionHost.Wasm.Validation

/-!
# The fuel of a guest

The account of an instance is full when its first state is set up and is filled again when a guest
has initialized itself and when one has tidied up.  It is not filled after the start function.  So a
new instance has less than its budget if and only if its module has a start function and does not
initialize itself: `Birth.full_begin` and `Birth.full_proceed` are the one half of this and
`Birth.tapped_begin` and `Birth.tapped_proceed` the other.

For the other half the start function has to be code of the module itself.  It always is, because
it takes and leaves nothing, and no function of the host does (`own_start_of_link`).
-/
namespace FunctionHost

open Wasm (Thread Word)

variable {σ : Type} {total : Nat}

/-! ## Activities -/

namespace Activity

/-- **An activity of which the account is tapped.**  As long as the thread that it began with runs,
only the thread knows. -/
def Tapped (total : Nat) (g : Guest) (a : Activity) : Prop :=
  match a.focus with
  | .acting (.running t) =>
    (g.store.spend t.spent).fuel.Tapped total ∧ (a.outer ≠ [] → g.store.fuel.Tapped total)
  | .acting (.stopped _) => a.outer ≠ [] → g.store.fuel.Tapped total
  | _ => g.store.fuel.Tapped total

variable {b : Body} {w : World σ} {g : Guest} {t : Thread} {outer : List (Thread × Delivery)}

theorem tapped_ofProgress {s : Wasm.Progress} (h : s.Tapped total (outer ≠ [])) :
    Tapped total { g with store := (Turn.ofProgress s).1 }
      ⟨.acting (Turn.ofProgress s).2, outer⟩ := by
  cases s <;> exact h

theorem tapped_answered (results : List Word) (h : g.store.fuel.Tapped total) :
    Tapped total g ⟨answered g t results, outer⟩ :=
  ⟨h, fun _ => h⟩

theorem tapped_deliver {allocator : String} {d : Delivery} (h : g.store.fuel.Tapped total) :
    Tapped total (deliver b w g allocator t d outer).2.1
      (deliver b w g allocator t d outer).2.2 := by
  unfold deliver
  split
  · exact tapped_answered _ h
  · split
    · exact tapped_answered _ h
    · split
      · exact tapped_answered _ h
      · split
        · exact tapped_answered (g := g.poison _) _ h
        · have hstart : (Wasm.Machine.start b.program w.epoch g.store ‹Nat›
              [UInt64.ofNat d.bytes.size]).Tapped total True := Wasm.Machine.start_tapped h
          have hbusy : ((t, d) :: outer ≠ []) = True := by simp
          exact tapped_ofProgress (hbusy ▸ hstart)

theorem tapped_placed {result : Except Stop (List Word)} {d : Delivery}
    (h : g.store.fuel.Tapped total) :
    Tapped total (placed b w g result t d).2.1 ⟨(placed b w g result t d).2.2, outer⟩ := by
  unfold placed
  dsimp only
  split
  · exact tapped_answered (g := g.poison _) _ h
  · exact tapped_answered (g := g.withMemory _ _) _ h

theorem tapped_hostCall {allocator : String} {args : List Word} (h : g.store.fuel.Tapped total) :
    Tapped total (hostCall b w g allocator t args outer).2.1
      (hostCall b w g allocator t args outer).2.2 := by
  unfold hostCall
  dsimp only
  split
  · split
    · exact tapped_deliver h
    · exact tapped_answered (g := g.recordHostCall) _ h
    · split
      · exact tapped_deliver h
      · exact h
  · exact tapped_answered (g := g.recordHostCall) _ h

theorem tapped_systemCall {name : String} {args : List Word} (h : g.store.fuel.Tapped total) :
    Tapped total (systemCall b w g name t args outer).2.1
      (systemCall b w g name t args outer).2.2 := by
  unfold systemCall
  split
  · exact fun _ => h
  · dsimp only
    split
    · exact tapped_answered (g := g.withMemory _ _) _ h
    · exact tapped_answered (g := g.withMemory _ _) _ h
    · exact fun _ => h
    · exact fun _ => h

theorem tapped_imported {func : Nat} {args : List Word} (h : g.store.fuel.Tapped total) :
    Tapped total (imported b w g t func args outer).2.1
      (imported b w g t func args outer).2.2 := by
  unfold imported
  split
  · exact tapped_hostCall h
  · exact tapped_systemCall h
  · exact fun _ => h

/-- What is known of the account once an activity had its turn. -/
def Leaves (total : Nat) (g : Guest) : Standing Activity Result → Prop
  | .busy a | .blocked a => a.Tapped total g
  | .ended (.ok _) => g.store.fuel.Tapped total
  | .ended (.error _) => True

theorem settle_leaves {result : Except Stop (List Word)}
    (h : outer ≠ [] → g.store.fuel.Tapped total)
    (hok : ∀ results, result = .ok results → g.store.fuel.Tapped total) :
    Leaves total (settle b w g result outer).2.1 (settle b w g result outer).2.2 := by
  cases outer with
  | nil =>
    cases result with
    | ok results => exact hok results rfl
    | error stop => trivial
  | cons d outer => exact tapped_placed (h (List.cons_ne_nil d outer))

/-- **A round leaves the account tapped.** -/
theorem round_leaves {a : Activity} (h : a.Tapped total g) :
    Leaves total (round b w g a).2.1 (round b w g a).2.2 := by
  obtain ⟨focus, outer⟩ := a
  match focus with
  | .acting (.running t) => exact tapped_ofProgress (Wasm.Machine.run_tapped stretch h.1 h.2)
  | .acting (.calling t func args) => exact tapped_imported h
  | .acting (.returned results) => exact settle_leaves (fun _ => h) (fun _ _ => h)
  | .acting (.stopped cause) => exact settle_leaves (b := b) h (fun _ he => nomatch he)
  | .awaiting t call =>
    unfold round
    dsimp only
    split
    · exact h
    · exact tapped_deliver h
    · exact tapped_deliver h

theorem proceed_leaves (rounds : Nat) {a : Activity} (h : a.Tapped total g) :
    Leaves total (proceed b rounds w g a).2.1 (proceed b rounds w g a).2.2 :=
  proceed_induction (I := fun _ g s => Leaves total g s) (fun _ _ _ => round_leaves) h rounds

end Activity

/-! ## The start function -/

/-- No function of the host takes and leaves nothing. -/
theorem Linker.find?_ne_action {l : Linker} {space name : String} {f : HostFunction}
    {type : Wasm.FuncType} (h : l.find? space name = some (f, type)) : type ≠ Body.actionType := by
  unfold find? at h
  split at h
  · obtain ⟨allocator, -, heq⟩ := Option.map_eq_some_iff.mp h
    obtain ⟨-, rfl⟩ := Prod.mk.inj heq
    decide
  · split at h
    · obtain ⟨type', htype, heq⟩ := Option.map_eq_some_iff.mp h
      obtain ⟨-, rfl⟩ := Prod.mk.inj heq
      unfold Wasi.type? at htype
      split at htype
      · cases htype
        decide
      · obtain ⟨f, -, rfl⟩ := Option.map_eq_some_iff.mp htype
        exact fun heq => nomatch congrArg Wasm.FuncType.results heq
    · cases h

theorem Linker.imports_of_checkTypes {l : Linker} {m : Wasm.Module} {is : List Wasm.Import}
    {offers : List (HostFunction × Wasm.FuncType)} (hfound : l.findAll is = .ok offers)
    (h : checkTypes m (is.zip offers) = .ok ()) :
    ∀ i ∈ is, ∀ type, i.kind = .func type → m.types[type]? ≠ some Body.actionType := by
  induction is generalizing offers with
  | nil => exact fun i hi => nomatch hi
  | cons i is ih =>
    unfold findAll at hfound
    split at hfound
    · cases hfound
    · rename_i offer hoffer
      cases hrest : l.findAll is with
      | error e => rw [hrest] at hfound; cases hfound
      | ok rest =>
        rw [hrest] at hfound
        cases hfound
        rw [List.zip_cons_cons] at h
        unfold checkTypes at h
        dsimp only at h
        split at h
        · rename_i type hkind
          split at h
          · rename_i hasked
            -- The first import is a function of the host, whose type is not that of an action.
            intro j hj type' htype
            rcases List.mem_cons.mp hj with rfl | hj
            · intro haction
              obtain rfl := Wasm.ImportKind.func.inj (hkind.symm.trans htype)
              rw [haction] at hasked
              exact find?_ne_action hoffer hasked.symm
            · exact ih hrest h j hj type' htype
          · cases h
        · cases h

/-- **What an imported function may not be.** -/
theorem Linker.link_import {l : Linker} {m : Wasm.Module} {fs : Array HostFunction}
    (h : l.link m = .ok fs) {func : Nat} (hlt : func < m.importedFuncs.length) :
    m.funcType? func ≠ some Body.actionType := by
  unfold link at h
  simp only [bind, Except.bind] at h
  split at h
  · cases h
  · rename_i offers hfound
    split at h
    · cases h
    · rename_i htypes
      -- The function is one of the imports, which were matched with what the host offers.
      obtain ⟨i, hi, hkind⟩ := List.mem_filterMap.mp (List.getElem_mem hlt)
      have hspace : m.funcSpace[func]? = some m.importedFuncs[func] := by
        simp [Wasm.Module.funcSpace, Array.getElem?_append, hlt]
      rw [Wasm.Module.funcType?, hspace]
      refine imports_of_checkTypes hfound htypes i hi _ ?_
      split at hkind
      · rename_i hk
        rw [hk, Option.some.inj hkind]
      · cases hkind

theorem Wasm.Validation.validate_start {m : Wasm.Module} {p : Wasm.Program}
    (h : validate m = .ok p) :
    p.module = m ∧ p.importedFuncs = m.importedFuncs.length ∧ checkStart m = .ok () := by
  simp only [validate, bind, Except.bind, pure, Except.pure] at h
  repeat' split at h
  -- What is left is the one way past all checks.
  all_goals cases h
  exact ⟨rfl, rfl, ‹_›⟩

/-- **The start function of a validated module is its own** if all it imports is found. -/
theorem own_start_of_link {l : Linker} {m : Wasm.Module} {p : Wasm.Program}
    {fs : Array HostFunction} {func : Nat} (hvalid : Wasm.Validation.validate m = .ok p)
    (hlink : l.link p.module = .ok fs) (hstart : p.module.start = some func) :
    p.importedFuncs ≤ func := by
  obtain ⟨rfl, hcount, hcheck⟩ := Wasm.Validation.validate_start hvalid
  rw [hcount]
  -- Were it imported, the check of the start function would contradict that of the imports.
  refine Nat.not_lt.mp fun hlt => ?_
  rw [Wasm.Validation.checkStart, hstart] at hcheck
  dsimp only at hcheck
  split at hcheck
  · rename_i htype
    exact Linker.link_import hlink hlt htype
  · cases hcheck

/-! ## Births -/

/-- Whether the guests of a blueprint initialize themselves. -/
def Blueprint.initializes (b : Blueprint) : Bool := (b.program.function? "_initialize").isSome

namespace Birth

variable {b : Blueprint} {x : Body} {w : World σ} {g : Guest} {id : Nat}

theorem action?_isSome {name : String} {o : Option Nat} (h : action? x name = .ok o) :
    o.isSome = (x.program.function? name).isSome := by
  unfold action? at h
  split at h
  · rename_i hf
    cases h
    rw [hf]
    rfl
  · rename_i hf
    dsimp only at h
    split at h
    · cases h
    · split at h
      · cases h
      · cases h
        rw [hf]
        rfl

theorem exports_isSome {o : Option Nat} (hx : x.Of b) (h : exports x = .ok o) :
    o.isSome = b.initializes := by
  have haction : action? x "_initialize" = .ok o := by
    simp only [exports, bind, Except.bind] at h
    repeat' split at h
    all_goals first | cases h | exact h
  rw [action?_isSome haction, hx.program]
  rfl

/-- **What is known of the account while a new instance is made full**: if it is not full when the
start function is over, the guest goes on to initialize itself. -/
def Full (b : Blueprint) : Standing Birth Result → Prop
  | .busy y | .blocked y => y.body.Of b ∧ (y.initializing = false → b.initializes = true)
  | .ended (.ok i) => i.guest.store.fuel.remaining = b.execution.budget
  | .ended (.error _) => True

/-- What is known of the account while a new instance is made that is not full. -/
def Tapped (b : Blueprint) : Standing Birth Result → Prop
  | .busy y | .blocked y =>
    y.body.Of b ∧ y.initializing = false ∧ y.activity.Tapped b.execution.budget y.guest
  | .ended (.ok i) => i.guest.store.fuel.Tapped b.execution.budget
  | .ended (.error _) => True

theorem Furnishes.fuel {v : World σ} (h : Furnishes w b (v, .ok (x, g))) :
    g.store.fuel = Wasm.Fuel.full b.execution.budget := by
  cases h with
  | furnished _ _ hsetup => exact Wasm.Program.setup_fuel hsetup

theorem Furnishes.link {v : World σ} (h : Furnishes w b (v, .ok (x, g))) :
    ∃ fs, b.linker.link b.program.module = .ok fs := by
  cases h with
  | furnished hlink => exact ⟨_, hlink⟩

theorem full_afterStart (hx : x.Of b)
    (h : b.initializes = true ∨ g.store.fuel.remaining = b.execution.budget) :
    Full b (afterStart w id x g).2 := by
  unfold afterStart
  split
  · trivial
  · rename_i hexports
    have hinit := exports_isSome hx hexports
    rcases h with h | h
    · rw [h] at hinit
      cases hinit
    · exact h
  · exact ⟨hx, fun h => nomatch h⟩

/-- **A new instance is full** if its module has no start function or it initializes itself. -/
theorem full_begin (h : b.program.module.start = none ∨ b.initializes = true) :
    Full b (begin w b id).2 := by
  have hturn := begins w b id
  generalize begin w b id = turn at hturn ⊢
  cases hturn with
  | unfurnished => trivial
  | startless hx =>
    refine full_afterStart hx.of (.inr ?_)
    rw [hx.fuel, Wasm.Fuel.remaining_full]
  | starting hx hstart => exact ⟨hx.of, fun _ => h.resolve_left (by simp [hstart])⟩

theorem full_proceed (rounds : Nat) {y : Birth} (hy : y.body.Of b)
    (h : y.initializing = false → b.initializes = true) :
    Full b (proceed rounds w y).2 := by
  have hturn := proceeds rounds w y
  generalize proceed rounds w y = turn at hturn ⊢
  generalize Activity.proceed y.body rounds w y.guest y.activity = run at hturn
  cases hturn with
  | busy | waiting => exact ⟨hy, h⟩
  | started hstart => exact full_afterStart hy (.inl (h hstart))
  | initialized =>
    show (Wasm.Fuel.full y.body.execution.budget).remaining = b.execution.budget
    rw [Wasm.Fuel.remaining_full, hy.execution]
  | abandoned => trivial

theorem tapped_afterStart (hx : x.Of b) (hi : b.initializes = false)
    (h : g.store.fuel.Tapped b.execution.budget) : Tapped b (afterStart w id x g).2 := by
  unfold afterStart
  split
  · trivial
  · exact h
  · rename_i hexports
    have hinit := exports_isSome hx hexports
    rw [hi] at hinit
    cases hinit

/-- **A new instance is not full** if its module has a start function and it does not initialize
itself. -/
theorem tapped_begin {m : Wasm.Module} (hvalid : Wasm.Validation.validate m = .ok b.program)
    {func : Nat} (hstart : b.program.module.start = some func) :
    Tapped b (begin w b id).2 := by
  have hturn := begins w b id
  generalize begin w b id = turn at hturn ⊢
  cases hturn with
  | unfurnished => trivial
  | startless _ hnone => exact nomatch hnone.symm.trans hstart
  | @starting v x g func' hx hsome =>
    obtain rfl : func' = func := Option.some.inj (hsome.symm.trans hstart)
    obtain ⟨fs, hlink⟩ := hx.link
    have hown := own_start_of_link hvalid hlink hstart
    refine ⟨hx.of, rfl, Activity.tapped_ofProgress ?_⟩
    have hbudget := congrArg Wasm.Fuel.budget hx.fuel
    have hfresh : ([] ≠ ([] : List (Thread × Delivery))) = False := by simp
    rw [hfresh, hx.of.program]
    exact Wasm.Machine.start_own_tapped hown hbudget

theorem tapped_proceed (rounds : Nat) {y : Birth} (hy : y.body.Of b) (hi : b.initializes = false)
    (hstart : y.initializing = false) (h : y.activity.Tapped b.execution.budget y.guest) :
    Tapped b (proceed rounds w y).2 := by
  have hleaves := Activity.proceed_leaves (b := y.body) (w := w) rounds h
  have hturn := proceeds rounds w y
  generalize proceed rounds w y = turn at hturn ⊢
  generalize Activity.proceed y.body rounds w y.guest y.activity = run at hleaves hturn
  cases hturn with
  | busy | waiting => exact ⟨hy, hstart, hleaves⟩
  | started => exact tapped_afterStart hy hi hleaves
  | initialized hinit => exact nomatch hstart.symm.trans hinit
  | abandoned => trivial

end Birth

/-! ## Resets -/

/-- **A guest that tidied up is full.** -/
theorem Reset.full_begin {w v : World σ} {i j : Instance}
    (h : begin w i = (v, j, .ended (.ok ()))) :
    j.guest.store.fuel.remaining = j.body.execution.budget := by
  have hturn := begins w i
  rw [h] at hturn
  cases hturn with
  | done => exact Wasm.Fuel.remaining_full _

theorem Reset.full_proceed {rounds : Nat} {w v : World σ} {i j : Instance} {x : Reset}
    (h : proceed rounds w i x = (v, j, .ended (.ok ()))) :
    j.guest.store.fuel.remaining = j.body.execution.budget := by
  have hturn := proceeds rounds w i x
  rw [h] at hturn
  generalize Activity.proceed i.body rounds w i.guest x.activity = run at hturn
  cases hturn with
  | done => exact Wasm.Fuel.remaining_full _

end FunctionHost

import FunctionHost.Proofs.Guest.Frame

/-!
# What instances are made of

All instances of a blueprint have the same body (`Blueprint.body?`).  An instance that was made
successfully has the exports by which host and guest work together, its allocator among them.  If
the blueprint offers the host call with the allocator of its settings, that is the allocator which
places the answers to the guest's host calls (`Birth.Created.answerable`).
-/
namespace FunctionHost

variable {σ : Type}

/-! ## Linking -/

namespace Linker

variable {l : Linker} {m : Wasm.Module} {allocator : String}

theorem hostCall_of_find? {space name : String} {type : Wasm.FuncType}
    (h : l.find? space name = some (.hostCall allocator, type)) : l.hostCall = some allocator := by
  unfold find? at h
  split at h
  · obtain ⟨offered, hoffered, hsame⟩ := Option.map_eq_some_iff.mp h
    cases hsame
    exact hoffered
  · split at h
    · obtain ⟨_, -, hsame⟩ := Option.map_eq_some_iff.mp h
      cases hsame
    · cases h

/-- All that imports are met with is offered under some names. -/
theorem find?_of_findAll {is : List Wasm.Import} {offers : List (HostFunction × Wasm.FuncType)}
    (h : l.findAll is = .ok offers) : ∀ o ∈ offers, ∃ space name, l.find? space name = some o := by
  induction is generalizing offers with
  | nil =>
    cases h
    exact fun _ ho => nomatch ho
  | cons i rest ih =>
    unfold findAll at h
    split at h
    · cases h
    · rename_i offer hoffer
      cases hrest : l.findAll rest with
      | error e =>
        rw [hrest] at h
        cases h
      | ok others =>
        rw [hrest] at h
        cases h
        exact List.forall_mem_cons.mpr ⟨⟨_, _, hoffer⟩, ih hrest⟩

/-- **A host call that was linked** is the one that is offered. -/
theorem hostCall_of_link {imports : Array HostFunction} (h : l.link m = .ok imports)
    (hmem : .hostCall allocator ∈ imports) : l.hostCall = some allocator := by
  unfold link at h
  dsimp only [bind, Except.bind] at h
  cases hoffers : l.findAll m.imports.toList with
  | error e =>
    rw [hoffers] at h
    cases h
  | ok offers =>
    cases hchecked : checkTypes m (m.imports.toList.zip offers) with
    | error e =>
      rw [hoffers] at h
      dsimp only at h
      rw [hchecked] at h
      cases h
    | ok _ =>
      rw [hoffers] at h
      dsimp only at h
      rw [hchecked] at h
      cases h
      obtain ⟨⟨_, type⟩, ho, rfl⟩ := List.mem_map.mp (List.mem_toArray.mp hmem)
      obtain ⟨space, name, hfound⟩ := find?_of_findAll hoffers _ ho
      exact hostCall_of_find? hfound

/-- Whatever is registered, the host call is, with the allocator that is asked for. -/
theorem hostCall_of_register {l' : Linker} {wasi : Bool}
    (h : l.register wasi allocator = (l', .ok ())) : l'.hostCall = some allocator := by
  unfold register registerHostCall at h
  dsimp only at h
  split at h
  · cases h
  · split at h
    · cases h
    · rename_i hcall
      split at hcall
      · cases hcall
      · cases hcall
        cases h
        rfl

end Linker

/-! ## Bodies -/

/-- **The body of all instances of a blueprint**, if its imports can be met. -/
def Blueprint.body? (b : Blueprint) : Option Body :=
  (b.linker.link b.program.module).toOption.map fun imports =>
    { name := b.name, program := b.program, imports := imports, execution := b.execution }

/-- Whether a blueprint offers the host call, with the allocator of its settings. -/
def Blueprint.Offers (b : Blueprint) : Prop :=
  b.linker.hostCall = some b.execution.allocateExport

namespace Body

variable {x : Body}

/-- Whether host and guest can work together. -/
def Sociable (x : Body) : Prop := ∃ first, Birth.exports x = .ok first

/-- **Whether a guest's host calls can be answered**: there is the allocator that is to place the
answers. -/
def Answerable (x : Body) : Prop :=
  ∀ (func : Nat) (allocator : String), x.imports[func]? = some (.hostCall allocator) →
    ∃ find, x.function? allocator allocatorType = some find

/-- Whoever works together with the host has an allocator. -/
theorem Sociable.allocator (h : x.Sociable) :
    ∃ find, x.function? x.execution.allocateExport allocatorType = some find := by
  obtain ⟨first, h⟩ := h
  cases hfind : x.function? x.execution.allocateExport allocatorType with
  | some find => exact ⟨find, rfl⟩
  | none =>
    unfold Birth.exports at h
    simp only [hfind, bind, Except.bind] at h
    split at h <;> cases h

theorem answerable_of_sociable {b : Blueprint} (hbody : b.body? = some x) (hoffers : b.Offers)
    (hx : x.Sociable) : x.Answerable := by
  intro func allocator hf
  obtain ⟨imports, hlink, rfl⟩ := Option.map_eq_some_iff.mp hbody
  have hlinked : b.linker.link b.program.module = .ok imports := by
    cases hresult : b.linker.link b.program.module with
    | error e =>
      rw [hresult] at hlink
      cases hlink
    | ok _ =>
      rw [hresult] at hlink
      cases hlink
      rfl
  have hsame := Linker.hostCall_of_link hlinked (Array.mem_of_getElem? hf)
  obtain rfl : b.execution.allocateExport = allocator := Option.some.inj (hoffers.symm.trans hsame)
  exact hx.allocator

end Body

/-! ## Making instances -/

namespace Birth

variable {b : Blueprint} {w : World σ} {id : Nat} {s : Standing Birth Result}

/-- **How the making of an instance can stand** that was begun some time ago, whatever has happened
in between. -/
inductive Comes (σ : Type) (b : Blueprint) : Standing Birth Result → Prop
  | begun (w : World σ) (id : Nat) : Comes σ b (begin w b id).2
  | further {s : Standing Birth Result} {x : Birth} (h : Comes σ b s) (hx : s.work? = some x)
      (rounds : Nat) (w : World σ) : Comes σ b (proceed rounds w x).2

/-- **An instance that was made successfully.** -/
def Created (σ : Type) (b : Blueprint) (i : Instance) : Prop := Comes σ b (.ended (.ok i))

/-- What is known of an instance that is being made, or was: it has the body of all, and its exports
are checked before it initializes itself. -/
def Checked (b : Blueprint) : Standing Birth Result → Prop
  | .busy x | .blocked x => b.body? = some x.body ∧ (x.initializing = true → x.body.Sociable)
  | .ended (.ok i) => b.body? = some i.body ∧ i.body.Sociable
  | .ended (.error _) => True

theorem Checked.of_work? {x : Birth} (h : Checked b s) (hx : s.work? = some x) :
    b.body? = some x.body ∧ (x.initializing = true → x.body.Sociable) := by
  cases s <;> cases hx <;> exact h

theorem checked_afterStart {x : Body} (h : b.body? = some x) (w : World σ) (g : Guest) :
    Checked b (afterStart w id x g).2 := by
  unfold afterStart
  split
  · trivial
  · rename_i hexports
    exact ⟨h, _, hexports⟩
  · rename_i hexports
    exact ⟨h, fun _ => ⟨_, hexports⟩⟩

theorem Furnishes.body? {v : World σ} {x : Body} {g : Guest}
    (h : Furnishes w b (v, .ok (x, g))) : b.body? = some x := by
  cases h with
  | furnished hlink =>
    rw [Blueprint.body?, hlink]
    rfl

theorem checked_begin (w : World σ) (b : Blueprint) (id : Nat) : Checked b (begin w b id).2 := by
  have hturn := begins w b id
  generalize begin w b id = turn at hturn ⊢
  cases hturn with
  | unfurnished => trivial
  | startless h => exact checked_afterStart h.body? _ _
  | starting h => exact ⟨h.body?, fun hi => nomatch hi⟩

theorem checked_proceed (rounds : Nat) (w : World σ) {x : Birth}
    (hx : b.body? = some x.body ∧ (x.initializing = true → x.body.Sociable)) :
    Checked b (proceed rounds w x).2 := by
  have hturn := proceeds rounds w x
  generalize proceed rounds w x = turn at hturn ⊢
  generalize Activity.proceed x.body rounds w x.guest x.activity = run at hturn
  cases hturn with
  | busy | waiting => exact hx
  | started => exact checked_afterStart hx.1 _ _
  | initialized hinit => exact ⟨hx.1, hx.2 hinit⟩
  | abandoned => trivial

/-- **Whatever happens while an instance is made**, it has the body of all, and its exports are
checked. -/
theorem Comes.checked (h : Comes σ b s) : Checked b s := by
  induction h with
  | begun w id => exact checked_begin w b id
  | further h hx rounds w ih => exact checked_proceed rounds w (ih.of_work? hx)

/-- **The guest of an instance that was made successfully can be answered.** -/
theorem Created.answerable {i : Instance} (h : Created σ b i) (hoffers : b.Offers) :
    i.body.Answerable :=
  Body.answerable_of_sociable h.checked.1 hoffers h.checked.2

end Birth
end FunctionHost

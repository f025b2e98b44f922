import FunctionHost.Proofs.Pool.Run

/-!
# Filling a pool

Instances are made one after another, so whatever is to hold of those that a filled pool begins with
is shown of one being made while others are there already (`Law`), and holds then of every filled
pool (`Filled.obeys`).
-/
namespace FunctionHost
namespace Filling

variable {σ : Type} {b : Blueprint} {size : Nat} {timeout : Option Nat}

/-- Whether a law of instances that are there, and of how the next one stands, is kept when the next
one is begun. -/
def GoesOn (σ : Type) (b : Blueprint)
    (J : List Instance → Standing Birth Birth.Result → Prop) : Prop :=
  ∀ (made : List Instance) (i : Instance) (w : World σ),
    J made (.ended (.ok i)) → J (i :: made) (Birth.begin w b (made.length + 2)).2

/-- **A law of filling** with instances of a blueprint. -/
structure Law (σ : Type) (b : Blueprint) (J : List Instance → Standing Birth Birth.Result → Prop) :
    Prop where
  begun : ∀ w : World σ, J [] (Birth.begin w b 1).2
  further : ∀ (made : List Instance) (s : Standing Birth Birth.Result) (x : Birth) (rounds : Nat)
    (w : World σ), J made s → s.work? = some x → J made (Birth.proceed rounds w x).2
  next : GoesOn σ b J

variable {J K : List Instance → Standing Birth Birth.Result → Prop}

/-- What a law says of how filling stands. -/
def Obeys (b : Blueprint) (size : Nat) (timeout : Option Nat)
    (J : List Instance → Standing Birth Birth.Result → Prop) : Standing Filling Result → Prop
  | .busy f | .blocked f =>
    f.blueprint = b ∧ f.size = size ∧ f.checkoutTimeout = timeout ∧ f.made.length < size ∧
      ∃ s, J f.made s ∧ s.work? = some f.birth
  | .ended (.ok p) =>
    ∃ f made i, J made (.ended (.ok i)) ∧ f.blueprint = b ∧ f.size = size ∧
      f.checkoutTimeout = timeout ∧ made.length + 1 = size ∧ p = Filling.pool f (i :: made)
  | .ended (.error _) => True

theorem obeys_afterBirth (hJ : GoesOn σ b J) (missing : Nat) (w : World σ) {f : Filling}
    {s : Standing Birth Birth.Result} (hb : f.blueprint = b) (hs : f.size = size)
    (ht : f.checkoutTimeout = timeout) (hm : f.made.length + missing + 1 = size)
    (h : J f.made s) : Obeys b size timeout J (afterBirth f missing w s).2 := by
  have hlt : f.made.length < size := by omega
  induction missing generalizing w f s with
  | zero =>
    match s with
    | .busy x | .blocked x => exact ⟨hb, hs, ht, hlt, _, h, rfl⟩
    | .ended (.error e) => trivial
    | .ended (.ok i) => exact ⟨f, f.made, i, h, hb, hs, ht, by omega, rfl⟩
  | succ missing ih =>
    match s with
    | .busy x | .blocked x => exact ⟨hb, hs, ht, hlt, _, h, rfl⟩
    | .ended (.error e) => trivial
    | .ended (.ok i) =>
      rw [afterBirth]
      have hnext := hJ f.made i w h
      rw [← hb] at hnext
      have hlen : (i :: f.made).length + missing + 1 = size := by
        rw [List.length_cons]
        omega
      have hlt : (i :: f.made).length < size := by omega
      exact ih (f := { f with made := i :: f.made }) _ hb hs ht hlen hnext hlt

theorem obeys_begin (hJ : GoesOn σ b J) (w : World σ) (h : J [] (Birth.begin w b 1).2) :
    Obeys b size timeout J (begin w b size timeout).2 := by
  unfold begin
  split
  · trivial
  · exact obeys_afterBirth hJ _ _ rfl rfl rfl (by simp only [List.length_nil]; omega) h

/-- A turn of the filling may lead from one law to another. -/
theorem obeys_proceed (hK : GoesOn σ b K) (rounds : Nat) (w : World σ)
    {s : Standing Filling Result} {f : Filling} (h : Obeys b size timeout J s)
    (hf : s.work? = some f)
    (hJK : ∀ made s, J made s → s.work? = some f.birth →
      K made (Birth.proceed rounds w f.birth).2) :
    Obeys b size timeout K (proceed rounds w f).2 := by
  have hf' : f.blueprint = b ∧ f.size = size ∧ f.checkoutTimeout = timeout ∧
      f.made.length < size ∧ ∃ s, J f.made s ∧ s.work? = some f.birth := by
    cases s <;> cases hf <;> exact h
  obtain ⟨hb, hs, ht, hm, s', hj, hx⟩ := hf'
  exact obeys_afterBirth hK _ _ hb hs ht (by omega) (hJK f.made s' hj hx)

theorem obeys_turns (hJ : Law σ b J) (w : World σ) (ms : List (Nat × World σ)) :
    Obeys b size timeout J (turns b size timeout w ms) := by
  have hbegin : Obeys b size timeout J (begin w b size timeout).2 :=
    obeys_begin hJ.next w (hJ.begun w)
  unfold turns
  generalize (begin w b size timeout).2 = s at hbegin
  induction ms generalizing s with
  | nil => exact hbegin
  | cons m ms ih =>
    refine ih _ ?_
    unfold turn
    split
    · rename_i f hf
      exact obeys_proceed hJ.next m.1 m.2 hbegin hf fun made s =>
        hJ.further made s f.birth m.1 m.2
    · exact hbegin

end Filling

/-- **What a filled pool is like**: it has all its instances, and each was made as a law of filling
says. -/
theorem Filled.obeys {σ : Type} {b : Blueprint} {size : Nat} {timeout : Option Nat} {p : Pool}
    (hp : Filled σ b size timeout p) {J : List Instance → Standing Birth Birth.Result → Prop}
    (hJ : Filling.Law σ b J) :
    ∃ made i, J made (.ended (.ok i)) ∧ made.length + 1 = size ∧
      p = { blueprint := b, size := size, checkoutTimeout := timeout, made := size
            idle := i :: made, permits := { free := size }, capacity := size } := by
  obtain ⟨w, ms, h⟩ := hp
  have ho : Filling.Obeys b size timeout J (Filling.turns b size timeout w ms) :=
    Filling.obeys_turns hJ w ms
  rw [h] at ho
  obtain ⟨f, made, i, hj, rfl, rfl, rfl, hm, rfl⟩ := ho
  refine ⟨made, i, hj, hm, ?_⟩
  rw [Filling.pool, List.length_cons, hm]

theorem Filled.eq {σ : Type} {b : Blueprint} {size : Nat} {timeout : Option Nat} {p : Pool}
    (hp : Filled σ b size timeout p) :
    ∃ made i, made.length + 1 = size ∧
      p = { blueprint := b, size := size, checkoutTimeout := timeout, made := size
            idle := i :: made, permits := { free := size }, capacity := size } := by
  obtain ⟨made, i, -, hp⟩ := hp.obeys (J := fun _ _ => True)
    ⟨fun _ => trivial, fun _ _ _ _ _ _ _ => trivial, fun _ _ _ _ => trivial⟩
  exact ⟨made, i, hp⟩

/-- What holds however one instance is made, holds of every instance of a filled pool. -/
theorem Filled.idle {σ : Type} {b : Blueprint} {size : Nat} {timeout : Option Nat} {p : Pool}
    (hp : Filled σ b size timeout p) {Y : Standing Birth Birth.Result → Prop}
    (hbegin : ∀ (w : World σ) n, Y (Birth.begin w b n).2)
    (hproceed : ∀ (s : Standing Birth Birth.Result) x rounds (w : World σ),
      Y s → s.work? = some x → Y (Birth.proceed rounds w x).2) :
    ∀ i ∈ p.idle, Y (.ended (.ok i)) := by
  have hlaw : Filling.Law σ b fun made s => Y s ∧ ∀ i ∈ made, Y (.ended (.ok i)) :=
    { begun := fun w => ⟨hbegin w 1, fun _ h => nomatch h⟩
      further := fun made s x rounds w h hx => ⟨hproceed s x rounds w h.1 hx, h.2⟩
      next := fun made i w h => ⟨hbegin w _, List.forall_mem_cons.mpr h⟩ }
  obtain ⟨made, i, hi, -, rfl⟩ := hp.obeys hlaw
  exact List.forall_mem_cons.mpr hi

/-! ## The smallest pool -/

/-- A world in which every host call is answered with nothing. -/
def World.silent : World Unit :=
  { callback := fun _ _ _ => { state := (), reply := .ok ByteArray.empty }, state := () }

/-- A blueprint whose guests have a memory and an allocator, and nothing to do. -/
def Blueprint.plain : Blueprint :=
  { name := "plain"
    program :=
      { module :=
          { types := #[Body.allocatorType]
            funcs := #[0]
            memories := #[⟨0, none⟩]
            exports := #[⟨"memory", .memory 0⟩, ⟨"allocate", .func 0⟩]
            bodies := #[⟨[], [.localGet 0, .endOf]⟩] }
        importedFuncs := 0
        funcTypes := #[Body.allocatorType]
        code := #[⟨Body.allocatorType, #[], #[.plain (.localGet 0), .ret]⟩] }
    contentHash := ""
    linker := {}
    execution := {} }

/-- What there is once a pool with an instance of a blueprint was filled in some turns. -/
def Pool.filled (w : World Unit) (b : Blueprint) (ms : List (Nat × World Unit)) : Pool :=
  match Filling.turns b 1 none w ms with
  | .ended (.ok p) => p
  | _ => default

theorem filled_plain : Filled Unit .plain 1 none (.filled .silent .plain []) :=
  ⟨.silent, [], rfl⟩

end FunctionHost

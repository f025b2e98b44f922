import FunctionHost.Proofs.Server.Alone
import FunctionHost.Proofs.Server.Loading

/-!
# Loading modules in turn

When modules are loaded one after another, with nothing else going on, the registry holds the names
of those that came before and no others (`Open`).  So a module whose name is none of these is not
refused because of its name: a load with such a plan is refused because the plan asks for no
instances, or for something that is not the fault of the plan (`LoadStands`), and all its turns keep
to that (`persists_loadStands`).
-/
namespace FunctionHost

/-- **Whether an error finds fault with a plan**: with its name, with its size, or because the name
is given already. -/
inductive HostError.IsPlanFault : HostError → Prop
  | unnamed : IsPlanFault (.invalidConfig "module name must not be empty")
  | unsized (name : String) :
      IsPlanFault (.invalidConfig ("module '" ++ name ++ "': pool_size must be at least 1"))
  | empty : IsPlanFault (.invalidConfig "pool size must be at least 1")
  | taken (name : String) : IsPlanFault (.duplicateModule name)

/-- The refusal of a plan that asks for no instances. -/
def LoadPlan.unsized (p : LoadPlan) : HostError :=
  .invalidConfig ("module '" ++ p.name ++ "': pool_size must be at least 1")

variable {σ : Type}

/-! ## Faults that are not the plan's -/

/-- Whether work that fails does so because an instance cannot be made. -/
def Standing.FailsToInstantiate {α β : Type} (s : Standing α (Except HostError β)) : Prop :=
  ∀ e, s = .ended (.error e) → ∃ reason, e = .instantiationFailed reason

namespace Birth

theorem afterStart_fails (w : World σ) (id : Nat) (b : Body) (g : Guest) :
    (afterStart w id b g).2.FailsToInstantiate := by
  intro e he
  rw [afterStart] at he
  split at he
  · simp only [abandon, Standing.ended.injEq, Except.error.injEq] at he
    exact ⟨_, he.symm⟩
  · simp [ready] at he
  · simp at he

theorem begin_fails (w : World σ) (blueprint : Blueprint) (id : Nat) :
    (begin w blueprint id).2.FailsToInstantiate := by
  intro e he
  rw [begin] at he
  split at he
  · simp only [Standing.ended.injEq, Except.error.injEq] at he
    exact ⟨_, he.symm⟩
  · split at he
    · exact afterStart_fails _ _ _ _ e he
    · simp at he

theorem proceed_fails (rounds : Nat) (w : World σ) (b : Birth) :
    (proceed rounds w b).2.FailsToInstantiate := by
  intro e he
  rw [proceed] at he
  split at he
  · simp at he
  · simp at he
  · split at he
    · exact afterStart_fails _ _ _ _ e he
    · simp [ready] at he
    · simp only [abandon, Standing.ended.injEq, Except.error.injEq] at he
      exact ⟨_, he.symm⟩
    · simp only [abandon, Standing.ended.injEq, Except.error.injEq] at he
      exact ⟨_, he.symm⟩

end Birth

namespace Filling

theorem afterBirth_fails (missing : Nat) (w : World σ) (f : Filling)
    {s : Standing Birth Birth.Result} (hs : s.FailsToInstantiate) :
    (afterBirth f missing w s).2.FailsToInstantiate := by
  induction missing generalizing w f s with
  | zero =>
    intro e he
    rcases s with b | b | reason | i
    · simp [afterBirth] at he
    · simp [afterBirth] at he
    · simp only [afterBirth, Standing.ended.injEq, Except.error.injEq] at he
      exact he ▸ hs reason rfl
    · simp [afterBirth] at he
  | succ missing ih =>
    rcases s with b | b | reason | i
    · intro e he
      simp [afterBirth] at he
    · intro e he
      simp [afterBirth] at he
    · intro e he
      simp only [afterBirth, Standing.ended.injEq, Except.error.injEq] at he
      exact he ▸ hs reason rfl
    · exact ih _ _ (Birth.begin_fails _ _ _)

/-- **A pool of some instances is not filled** only because one of them cannot be made. -/
theorem begin_fails (w : World σ) (blueprint : Blueprint) {size : Nat} (hsize : size ≠ 0)
    (timeout : Option Nat) : (begin w blueprint size timeout).2.FailsToInstantiate := by
  rw [begin, if_neg hsize]
  exact afterBirth_fails _ _ _ (Birth.begin_fails w blueprint 1)

theorem proceed_fails (rounds : Nat) (w : World σ) (f : Filling) :
    (proceed rounds w f).2.FailsToInstantiate :=
  afterBirth_fails _ _ _ (Birth.proceed_fails rounds w f.birth)

end Filling

namespace Server

variable {names : List String} {plan : LoadPlan} {s : Server σ}
  {standing : Standing ServerWork ServerReply}

/-- A path does not end as the words do that find fault with a plan. -/
theorem not_isPlanFault_of_path (path : String) :
    ¬ HostError.IsPlanFault (.invalidConfig (path ++ " is not valid UTF-8")) := by
  intro h
  have hends : (path ++ " is not valid UTF-8").toList.getLast? = some '8' := by simp
  generalize hreason : path ++ " is not valid UTF-8" = reason at h hends
  rcases h with _ | name | _
  · simp at hends
  · simp [List.getLast?_cons, List.getLast?_append] at hends
  · simp at hends

/-- **Code that cannot be compiled** is not the fault of the plan. -/
theorem not_isPlanFault_of_compile {source : ModuleSource} {e : HostError}
    (h : (s.compile source).2 = .error e) : ¬ e.IsPlanFault := by
  -- Whatever the code is read from, the errors are those of reading and of compiling.
  have hbytes (bytes : Bytes) (h : (Compiled.ofBytes s.world bytes).2 = .error e) :
      ¬ e.IsPlanFault := by
    rw [Compiled.ofBytes] at h
    split at h
    · obtain rfl := Except.error.inj h
      rintro ⟨⟩
    · split at h
      · obtain rfl := Except.error.inj h
        rintro ⟨⟩
      · split at h
        · obtain rfl := Except.error.inj h
          rintro ⟨⟩
        · simp at h
  have htext (text : String) (h : (Compiled.ofText s.world text).2 = .error e) :
      ¬ e.IsPlanFault := by
    rw [Compiled.ofText] at h
    split at h
    · obtain rfl := Except.error.inj h
      rintro ⟨⟩
    · simp at h
  cases source with
  | bytes content => exact hbytes content h
  | text content => exact htext content h
  | file path =>
    rw [compile, compileFile] at h
    split at h
    · obtain rfl := Except.error.inj h
      rintro ⟨⟩
    · split at h
      · split at h
        · obtain rfl := Except.error.inj h
          exact not_isPlanFault_of_path path
        · exact htext _ h
      · exact hbytes _ h

/-! ## The turns of a load -/

/-- **Whether a server is open** and serves no modules but those with some names. -/
structure Open (names : List String) (s : Server σ) : Prop where
  opened : s.closed = false
  serving : s.registry.closed = false
  left : s.left = []
  given : ∀ name, s.registry.entries.contains name = true → name ∈ names

theorem Open.withWorld (h : s.Open names) (w : World σ) : { s with world := w }.Open names :=
  ⟨h.opened, h.serving, h.left, h.given⟩

theorem Open.not_given (h : s.Open names) {name : String} (hnew : name ∉ names) :
    s.registry.entries.contains name = false := by
  by_contra hgiven
  exact hnew (h.given name (by simpa using hgiven))

/-- Whether work loads a module by a plan; only a plan that asks for instances comes so far. -/
def Loads (plan : LoadPlan) : ServerWork → Prop
  | .compiling p => p = plan ∧ plan.poolSize ≠ 0
  | .filling name _ _ => name = plan.name ∧ plan.poolSize ≠ 0
  | _ => False

/-- **How a load stands** on a server that is open and does not serve the name yet. -/
def LoadStands (names : List String) (plan : LoadPlan) (s : Server σ) :
    Standing ServerWork ServerReply → Prop
  | .busy work => s.Open names ∧ Loads plan work
  | .blocked work => s.Open names ∧ Loads plan work
  | .ended .done => s.Open (plan.name :: names) ∧ plan.poolSize ≠ 0
  | .ended (.refused e) =>
    s.left = [] ∧ (e.IsPlanFault → plan.poolSize = 0 ∧ e = plan.unsized)
  | .ended _ => False

theorem LoadStands.left (h : LoadStands names plan s standing) : s.left = [] := by
  match standing with
  | .busy work => exact h.1.left
  | .blocked work => exact h.1.left
  | .ended .done => exact h.1.left
  | .ended (.refused e) => exact h.1

theorem LoadStands.withWorld (h : LoadStands names plan s standing) (w : World σ) :
    LoadStands names plan { s with world := w } standing := by
  match standing with
  | .busy work => exact ⟨h.1.withWorld w, h.2⟩
  | .blocked work => exact ⟨h.1.withWorld w, h.2⟩
  | .ended .done => exact ⟨h.1.withWorld w, h.2⟩
  | .ended (.refused e) => exact h

/-- **A load begins** if its plan has a name that is not given yet and asks for instances. -/
theorem loadStands_load (h : s.Open names) (hname : plan.name ≠ "") (hnew : plan.name ∉ names) :
    LoadStands names plan (s.load plan).1 (s.load plan).2 := by
  have hopen : s.ensureOpen = .ok () := by simp [ensureOpen, h.opened]
  have havailable : s.registry.checkAvailable plan.name = .ok () := by
    simp [Registry.checkAvailable, h.serving, h.not_given hnew]
  by_cases hsize : plan.poolSize = 0
  · have hvalid : plan.validate = .error plan.unsized := by
      simp [LoadPlan.validate, LoadPlan.unsized, hname, hsize]
    rw [load, hopen, hvalid]
    exact ⟨h.left, fun _ => ⟨hsize, rfl⟩⟩
  · have hvalid : plan.validate = .ok () := by
      simp [LoadPlan.validate, hname, hsize]
    rw [load, hopen, hvalid, havailable]
    exact ⟨h, rfl, hsize⟩

/-- A pool that is full is published, for its name is not given. -/
theorem loadStands_afterFilling (h : s.Open names) (hnew : plan.name ∉ names)
    (hsize : plan.poolSize ≠ 0) (hash : String) (w : World σ)
    {filling : Standing Filling Filling.Result} (hfails : filling.FailsToInstantiate) :
    LoadStands names plan (s.afterFilling plan.name hash (w, filling)).1
      (s.afterFilling plan.name hash (w, filling)).2 := by
  match filling with
  | .busy f => exact ⟨h.withWorld w, rfl, hsize⟩
  | .blocked f => exact ⟨h.withWorld w, rfl, hsize⟩
  | .ended (.error e) =>
    obtain ⟨reason, rfl⟩ := hfails e rfl
    exact ⟨h.left, nofun⟩
  | .ended (.ok p) =>
    rw [afterFilling, publish_free (s := { s with world := w }) h.serving (h.not_given hnew)]
    refine ⟨⟨h.opened, h.serving, h.left, fun name hname => ?_⟩, hsize⟩
    simp only [publishing, Dictionary.contains_insert, Bool.or_eq_true, decide_eq_true_eq] at hname
    rcases hname with rfl | hname
    · exact List.mem_cons_self
    · exact List.mem_cons_of_mem _ (h.given name hname)

/-- Code that was compiled is used to fill a pool. -/
theorem loadStands_fill (h : s.Open names) (hnew : plan.name ∉ names) (hsize : plan.poolSize ≠ 0) :
    LoadStands names plan (s.fill plan).1 (s.fill plan).2 := by
  have hfault {e : HostError} : (s.compile plan.source).2 = .error e → ¬ e.IsPlanFault :=
    not_isPlanFault_of_compile
  rw [fill]
  generalize s.compile plan.source = compiled at hfault
  obtain ⟨w, result⟩ := compiled
  cases result with
  | error e => exact ⟨h.left, fun he => absurd he (hfault rfl)⟩
  | ok c =>
    exact loadStands_afterFilling (s := { s with world := w }) (h.withWorld w) hnew hsize _ _
      (Filling.begin_fails w _ hsize _)

/-- **A turn of a load** goes on with it. -/
theorem loadStands_proceed (h : s.Open names) (hnew : plan.name ∉ names) {work : ServerWork}
    (hwork : Loads plan work) : LoadStands names plan (s.proceed work).1 (s.proceed work).2 := by
  match work with
  | .compiling p =>
    obtain ⟨rfl, hsize⟩ := hwork
    exact loadStands_fill h hnew hsize
  | .filling name hash f =>
    obtain ⟨rfl, hsize⟩ := hwork
    exact loadStands_afterFilling h hnew hsize hash _ (Filling.proceed_fails quantum s.world f)

/-- **A load that has a name of its own keeps to this**: what it is refused for is not its name. -/
theorem persists_loadStands (names : List String) (hnew : plan.name ∉ names) :
    Persists (LoadStands (σ := σ) names plan) where
  left _ _ h := h.left
  proceed s st work h hwork := by
    have hboth : s.Open names ∧ Loads plan work := by
      cases st <;> cases hwork <;> exact h
    exact loadStands_proceed hboth.1 hnew hboth.2
  elapse _ _ w _ _ h := h.withWorld w

end Server
end FunctionHost

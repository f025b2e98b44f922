import FunctionHost.Cli.Program
import FunctionHost.Proofs.Server.Undisturbed

/-!
# Modules loaded at the start

The program loads the modules of its settings file one after another, while nothing else goes on.
After each of them it provides what it has loaded so far, and no other name is given (`Loaded`); it
stops at the first module that cannot be loaded (`load_fails`).
-/
namespace FunctionHost

/-- A pool is that of one module only. -/
theorem Server.Provides.name_eq {σ : Type} {s : Server σ} {p q : LoadPlan} {c d : Compiled}
    {n : Nat} (hp : s.Provides p c n) (hq : s.Provides q d n) : p.name = q.name := by
  obtain ⟨made, i, -, hpool⟩ := hp.filled.eq
  obtain ⟨made', i', -, hpool'⟩ := hq.filled.eq
  exact congrArg (·.blueprint.name) (hpool.symm.trans hpool')

namespace Cli.Program

variable {r loaded : Running} {plans done : List LoadPlan}

/-- **What comes of a command** of the program while nothing else goes on, if a law is kept by its
turns: what the law says, or the command is given up. -/
theorem Running.run_alone {I : Server Router → Standing ServerWork ServerReply → Prop}
    (h : Server.Persists I) (hv : r.schedule.Vacant) {command : ServerCommand} {id : RequestId}
    (hbegin : I (r.server.begin { request := id } command).1
      (r.server.begin { request := id } command).2) :
    ∃ s st, I s st ∧
      ((st = .ended (r.run command id).2 ∧ (r.run command id).1.schedule.Vacant ∧
        (r.run command id).1.server = s) ∨
      ((∃ y, st.work? = some y) ∧ (r.run command id).2 = .refused .canceled)) := by
  obtain ⟨s, st, hs, hrun⟩ := Server.run_alone h hv hbegin
  refine ⟨s, st, hs, ?_⟩
  rw [Running.run]
  generalize Session.run Server.subject r command { request := id } = ran at hrun
  obtain ⟨r', feedback⟩ := ran
  rcases hrun with ⟨reply, rfl, hresult, hvacant, hstate⟩ | ⟨hgoes, hhang⟩
  · obtain rfl : feedback = .result reply := hresult
    exact .inl ⟨rfl, hvacant, hstate⟩
  · obtain rfl : feedback = .hang := hhang
    exact .inr ⟨hgoes, rfl⟩

/-- **A program that has loaded modules** as some plans say, and does nothing at the moment. -/
structure Loaded (done : List LoadPlan) (r : Running) : Prop where
  vacant : r.schedule.Vacant
  whole : Traffic.Whole ⟨r.server, []⟩
  opened : r.server.registry.closed = false
  given : ∀ name, r.server.registry.entries.contains name = true → ∃ p ∈ done, p.name = name
  provides : ∀ p ∈ done, ∃ c n, r.server.Provides p c n

/-- What to load for an entry of a settings file. -/
def planOf (config : Option String) (f : SettingsFile) (entry : ModuleEntry) : LoadPlan :=
  { LoadPlan.ofEntry entry f.runtime.pool.defaultSize with
    source := .file (FilePath.join (baseFolder config) entry.path) }

theorem mem_plans_iff {config : Option String} {f : SettingsFile} {p : LoadPlan} :
    p ∈ Program.plans config f ↔ ∃ entry ∈ f.modules, planOf config f entry = p := List.mem_map

/-- A program that was just started has loaded nothing. -/
theorem loaded_start {files : Files} {f : SettingsFile} {w : World Router}
    (hstart : start files f = (w, .ok r)) : Loaded [] r := by
  unfold start at hstart
  split at hstart
  · cases hstart
  · rename_i hs
    cases hstart
    have hfresh := Server.fresh_of_start hs
    refine ⟨⟨rfl, rfl⟩, Traffic.whole_of_start hs, ?_, fun name hname => ?_, nofun⟩
    · rw [Running.server, hfresh.registry]
    · rw [Running.server, hfresh.registry] at hname
      simp [Dictionary.contains_iff, Dictionary.empty] at hname

theorem files_of_start {files : Files} {f : SettingsFile} {w : World Router}
    (hstart : start files f = (w, .ok r)) :
    r.server.files = files := by
  unfold start at hstart
  split at hstart
  · cases hstart
  · rename_i hs
    cases hstart
    unfold Server.start at hs
    split at hs
    · cases hs
    · split at hs
      · cases hs
      · dsimp only at hs
        split at hs
        · cases hs
        · cases hs
          rfl

/-- Events change nothing about it. -/
theorem Loaded.report (h : Loaded done r) (e : Event) : Loaded done (r.report e) where
  vacant := h.vacant.withState _
  whole := Server.whole_withWorld h.whole rfl
  opened := h.opened
  given := h.given
  provides p hp := by
    obtain ⟨c, n, hprovides⟩ := h.provides p hp
    exact ⟨c, n, hprovides.withWorld rfl⟩

/-- A module is published, and nothing else is. -/
theorem Loaded.publishing (h : Loaded done r) {r' : Running} {w : World Router} {plan : LoadPlan}
    {c : Compiled} {p : Pool} (hvacant : r'.schedule.Vacant)
    (hserver : r'.server = r.server.publishing w plan.name c.contentHash p)
    (hwhole : Traffic.Whole ⟨r'.server, []⟩) (hengine : w.engine = r.server.world.engine)
    (hc : (r.server.compile plan.source).2 = .ok c)
    (hp : Filled Router (r.server.blueprint plan.name c) plan.poolSize
      r.server.settings.pool.checkoutTimeout p)
    (hfree : r.server.registry.entries.contains plan.name = false) :
    Loaded (done ++ [plan]) r' where
  vacant := hvacant
  whole := hwhole
  opened := by
    rw [hserver]
    exact h.opened
  given name hname := by
    rw [hserver, Server.publishing, Dictionary.contains_insert, Bool.or_eq_true,
      decide_eq_true_eq] at hname
    rcases hname with rfl | hname
    · exact ⟨plan, List.mem_append_right _ (List.mem_singleton_self _), rfl⟩
    · obtain ⟨other, hother, hname⟩ := h.given name hname
      exact ⟨other, List.mem_append_left _ hother, hname⟩
  provides other hother := by
    rw [hserver]
    rcases List.mem_append.mp hother with hother | hother
    · obtain ⟨d, n, hprovides⟩ := h.provides other hother
      exact ⟨d, n, hprovides.publishing hengine hfree _ _⟩
    · obtain rfl := List.mem_singleton.mp hother
      exact ⟨c, _, Server.provides_publishing hengine h.opened hc hp⟩

/-- **One more module is loaded**, or it is refused. -/
theorem Loaded.load (h : Loaded done r) (plan : LoadPlan) :
    (∃ e, (r.run (.load plan) request).2 = .refused e) ∨
      (r.run (.load plan) request).2 = .done ∧
        Loaded (done ++ [plan]) (r.run (.load plan) request).1 := by
  have hbegin : Server.Stocks r.server plan (r.server.begin { request := request } (.load plan)).1
      (r.server.begin { request := request } (.load plan)).2 := Server.stocks_load r.server plan
  obtain ⟨s, st, ⟨halone, hstocks⟩, ⟨hended, hvacant, hserver⟩ | ⟨-, hgivenUp⟩⟩ :=
    Running.run_alone (Server.persists_stocks r.server plan) h.vacant
      ⟨Server.alone_begin h.whole _ _, hbegin⟩
  · generalize r.run (.load plan) request = ran at hended hvacant hserver
    obtain ⟨r', reply⟩ := ran
    cases hstocks with
    | compiling hst => rw [hended] at hst; cases hst
    | filling hst hc hf => rw [hended] at hst; cases hst
    | @refused _ e =>
      cases hended
      exact .inl ⟨e, rfl⟩
    | done hc hp ho hfree =>
      cases hended
      have hwhole := halone.whole
      rw [← hserver] at hwhole
      exact .inr ⟨rfl, h.publishing hvacant hserver hwhole halone.engine hc hp hfree⟩
  · exact .inl ⟨.canceled, hgivenUp⟩

/-- A module may be loaded from anywhere. -/
theorem Loaded.run_source (h : Loaded done r) {p : LoadPlan} {source : ModuleSource}
    (hcompile : r.server.compile source = r.server.compile p.source) :
    r.run (.load { p with source := source }) request = r.run (.load p) request := by
  rw [Running.run, Running.run, Server.run_load_source h.vacant h.whole.nothing hcompile request]

/-- **When all modules are loaded** they are provided. -/
theorem loaded_of_load (h : Loaded done r) (hload : load r plans = (loaded, .ok ())) :
    Loaded (done ++ plans) loaded := by
  induction plans generalizing r done with
  | nil =>
    cases hload
    rw [List.append_nil]
    exact h.report _
  | cons plan plans ih =>
    have hfirst := h.load plan
    rw [Program.load] at hload
    generalize r.run (.load plan) request = ran at hfirst hload
    obtain ⟨r', reply⟩ := ran
    rcases hfirst with ⟨e, rfl⟩ | ⟨rfl, hnext⟩
    · cases hload
    · have hall := ih hnext hload
      rw [List.append_assoc] at hall
      exact hall

/-- **The program stops** at a module that cannot be loaded. -/
theorem load_fails {failure : Failure} (hload : load r plans = (loaded, .error failure)) :
    ∃ p ∈ plans, ∃ e, failure = .loading p.name e := by
  induction plans generalizing r with
  | nil => cases hload
  | cons plan plans ih =>
    rw [load] at hload
    split at hload
    · cases hload
      exact ⟨plan, List.mem_cons_self, _, rfl⟩
    · obtain ⟨p, hp, hfails⟩ := ih hload
      exact ⟨p, List.mem_cons_of_mem _ hp, hfails⟩

/-- A name that no plan has is given to no module. -/
theorem Loaded.get_of_missing (h : Loaded done r) {name : String}
    (hname : ∀ p ∈ done, p.name ≠ name) :
    r.server.registry.get name = .error (.moduleNotFound name) := by
  have hfree : r.server.registry.entries.find? name = none := by
    rw [← Option.not_isSome_iff_eq_none]
    intro hgiven
    obtain ⟨p, hp, hp'⟩ := h.given name hgiven
    exact hname p hp hp'
  simp [Registry.get, h.opened, hfree]

end Cli.Program
end FunctionHost

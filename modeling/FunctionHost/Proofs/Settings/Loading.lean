import FunctionHost.Proofs.Cli.Loading
import FunctionHost.Proofs.Server.InTurn
import FunctionHost.Proofs.Settings.Validation
import Mathlib

/-!
# Loading what a settings file lists

The entries of a settings file that was accepted have names, and no name is there twice, so a server
that loads them one after another never refuses a module because of its name.  It refuses one for
which no instances are asked, and a file is accepted without a look at the size that counts for the
entries that have none of their own.  So all entries can be loaded, as far as the file decides,
unless that size is zero and counts for one of them (`SettingsFile.loadable_iff`).
-/
namespace FunctionHost

open Server (Open LoadStands)

namespace Cli.Program

variable {r : Running} {names : List String} {plan : LoadPlan} {plans : List LoadPlan}

/-- **What comes of loading a module** that has a name of its own, while nothing else goes on: it is
served, or it is refused for something that is not its name. -/
theorem run_load (hv : r.schedule.Vacant) (h : r.server.Open names) (hname : plan.name ≠ "")
    (hnew : plan.name ∉ names) :
    (∃ e, (r.run (.load plan) request).2 = .refused e ∧
      (e.IsPlanFault → plan.poolSize = 0 ∧ e = plan.unsized)) ∨
    (r.run (.load plan) request).2 = .done ∧
      (r.run (.load plan) request).1.schedule.Vacant ∧
      (r.run (.load plan) request).1.server.Open (plan.name :: names) ∧ plan.poolSize ≠ 0 := by
  have hbegin : LoadStands names plan (r.server.begin { request := request } (.load plan)).1
      (r.server.begin { request := request } (.load plan)).2 :=
    Server.loadStands_load h hname hnew
  obtain ⟨s, st, hstands, ⟨rfl, hv', rfl⟩ | ⟨-, hgivenUp⟩⟩ :=
    Running.run_alone (Server.persists_loadStands names hnew) hv hbegin
  · generalize r.run (.load plan) request = ran at hstands hv'
    obtain ⟨r', reply⟩ := ran
    match reply with
    | .refused e => exact .inl ⟨e, rfl, hstands.2⟩
    | .done => exact .inr ⟨rfl, hv', hstands⟩
  · exact .inl ⟨.canceled, hgivenUp, nofun⟩

/-- **Loading modules with different names** one after another fails because of a plan only where
that plan asks for no instances, and does not succeed if one does. -/
theorem load_faults (hv : r.schedule.Vacant) (h : r.server.Open names)
    (hnamed : ∀ p ∈ plans, p.name ≠ "") (hnew : ∀ p ∈ plans, p.name ∉ names)
    (hnodup : (plans.map (·.name)).Nodup) :
    (∀ name e, (load r plans).2 = .error (.loading name e) → e.IsPlanFault →
      ∃ p ∈ plans, p.name = name ∧ p.poolSize = 0 ∧ e = p.unsized) ∧
    ((load r plans).2 = .ok () → ∀ p ∈ plans, p.poolSize ≠ 0) := by
  induction plans generalizing r names with
  | nil => exact ⟨by simp [load], fun _ => nofun⟩
  | cons plan plans ih =>
    simp only [List.forall_mem_cons] at hnamed hnew
    obtain ⟨hother, hnodup⟩ := List.nodup_cons.mp hnodup
    have hfirst := run_load hv h hnamed.1 hnew.1
    rw [load]
    generalize r.run (.load plan) request = ran at hfirst
    obtain ⟨r', reply⟩ := ran
    rcases hfirst with ⟨e, hreply, hfault⟩ | ⟨hreply, hv', hopen, hsize⟩
    · obtain rfl : reply = .refused e := hreply
      refine ⟨fun name e' he hplan => ?_, by simp⟩
      simp only [Except.error.injEq, Failure.loading.injEq] at he
      obtain ⟨rfl, rfl⟩ := he
      obtain ⟨hsize, he⟩ := hfault hplan
      exact ⟨plan, List.mem_cons_self, rfl, hsize, he⟩
    · obtain rfl : reply = .done := hreply
      -- The names that come later are still free, for all names differ.
      have hnext : ∀ p ∈ plans, p.name ∉ plan.name :: names := by
        intro p hp hmem
        rcases List.mem_cons.mp hmem with heq | hmem
        · exact hother (List.mem_map.mpr ⟨p, hp, heq⟩)
        · exact hnew.2 p hp hmem
      obtain ⟨hfails, hdone⟩ := ih hv' hopen hnamed.2 hnext hnodup
      refine ⟨fun name e he hplan => ?_, fun hok => List.forall_mem_cons.mpr ⟨hsize, hdone hok⟩⟩
      obtain ⟨p, hp, hp'⟩ := hfails name e he hplan
      exact ⟨p, List.mem_cons_of_mem _ hp, hp'⟩

end Cli.Program

namespace SettingsFile

variable {f : SettingsFile}

/-- **Whether a settings file is accepted**, by itself or as the text that it was read from. -/
def Accepted (f : SettingsFile) : Prop := f.validate = .ok () ∨ ∃ text, ofText text = .ok f

theorem Accepted.validate (h : f.Accepted) : f.validate = .ok () := by
  rcases h with h | ⟨text, h⟩
  · exact h
  · rw [ofText] at h
    split at h
    · simp at h
    · split at h
      · simp at h
      · dsimp only at h
        rename_i document _
        cases hvalid : (ofDocument document).validate with
        | error e => simp [hvalid, Except.map] at h
        | ok u =>
          simp only [hvalid, Except.map, Except.ok.injEq] at h
          exact h ▸ hvalid

/-- Whether all entries have a size that counts for them and is not zero, as far as that is left to
the default. -/
def HasSizes (f : SettingsFile) : Prop :=
  ∀ e ∈ f.modules, e.poolSize = none → f.runtime.pool.defaultSize ≠ 0

/-- What to load for the entries, wherever their code comes from. -/
def plans (f : SettingsFile) (source : ModuleEntry → ModuleSource) : List LoadPlan :=
  f.modules.map fun e => { LoadPlan.ofEntry e f.runtime.pool.defaultSize with source := source e }

theorem plans_eq (config : Option String) (f : SettingsFile) : Cli.Program.plans config f =
    f.plans fun e => .file (FilePath.join (Cli.Program.baseFolder config) e.path) := rfl

/-- An entry that was accepted asks for no instances only by default. -/
theorem poolSize_ofEntry {e : ModuleEntry} (hsize : e.poolSize ≠ some 0) (default : UInt64) :
    (LoadPlan.ofEntry e default).poolSize ≠ 0 ↔ (e.poolSize = none → default ≠ 0) := by
  cases hown : e.poolSize with
  | none => simp [LoadPlan.ofEntry, hown, ← UInt64.toNat_inj]
  | some n =>
    have hn : n ≠ 0 := fun heq => hsize (by rw [hown, heq])
    simpa [LoadPlan.ofEntry, hown, ← UInt64.toNat_inj] using hn

theorem validate_ofEntry {e : ModuleEntry} (hname : e.name ≠ "") (default : UInt64) :
    (LoadPlan.ofEntry e default).validate = .ok () ↔ (LoadPlan.ofEntry e default).poolSize ≠ 0 := by
  have hname' : (LoadPlan.ofEntry e default).name ≠ "" := hname
  by_cases hsize : (LoadPlan.ofEntry e default).poolSize = 0
  · simp [LoadPlan.validate, hsize, hname']
  · simp [LoadPlan.validate, hsize, hname']

/-- **An accepted settings file can be loaded, as far as it decides, if its modules have sizes.**

No name is there twice.  The plans for the entries are acceptable if and only if none of them is
left to a default size of zero.  A new server that loads the entries in order, wherever their code
comes from, finds fault with a plan only then, and only with the size of an entry that has none of
its own: never with a name, and never because a name is given already.  If it loads all of them, all
have sizes. -/
theorem loadable_iff (hf : f.Accepted) :
    (f.modules.map (·.name)).Nodup ∧
    ((∀ e ∈ f.modules, (LoadPlan.ofEntry e f.runtime.pool.defaultSize).validate = .ok ()) ↔
      f.HasSizes) ∧
    ∀ (w v : World Router) (files : Files) (plan : ServerPlan) (s : Server Router),
      Server.start w files plan = (v, .ok s) → ∀ source : ModuleEntry → ModuleSource,
      let loaded := Cli.Program.load { schedule := { state := s } } (f.plans source)
      (∀ name e, loaded.2 = .error (.loading name e) → e.IsPlanFault →
        e = .invalidConfig ("module '" ++ name ++ "': pool_size must be at least 1") ∧
        f.runtime.pool.defaultSize = 0 ∧
        ∃ entry ∈ f.modules, entry.name = name ∧ entry.poolSize = none) ∧
      (loaded.2 = .ok () → f.HasSizes) := by
  obtain ⟨hnamed, hsized, hdistinct⟩ := (validation_is_exact f).1.mp hf.validate
  have hname : ∀ e ∈ f.modules, e.name ≠ "" := by
    intro e he hempty
    obtain ⟨c, hc, -⟩ := hnamed e he
    simp [hempty] at hc
  refine ⟨hdistinct, ?_, ?_⟩
  · refine forall₂_congr fun e he => ?_
    rw [validate_ofEntry (hname e he), poolSize_ofEntry (hsized e he)]
  · intro w v files plan s hs source loaded
    have hfresh := Server.fresh_of_start hs
    -- A server that was just started serves nothing.
    have hopen : s.Open [] := by
      refine ⟨hfresh.opened, by rw [hfresh.registry], hfresh.left, fun name hgiven => ?_⟩
      rw [hfresh.registry] at hgiven
      simp [Dictionary.contains_iff, Dictionary.empty] at hgiven
    have hplans : ∀ p ∈ f.plans source, p.name ≠ "" := by
      simpa [plans, LoadPlan.ofEntry] using hname
    have hnodup : ((f.plans source).map (·.name)).Nodup := by
      simpa [plans, LoadPlan.ofEntry, Function.comp_def] using hdistinct
    obtain ⟨hfails, hdone⟩ := Cli.Program.load_faults (r := { schedule := { state := s } })
      ⟨rfl, rfl⟩ hopen hplans (by simp) hnodup
    refine ⟨fun name e he hplan => ?_, fun hok e he => ?_⟩
    · obtain ⟨p, hp, rfl, hsize, rfl⟩ := hfails name e he hplan
      obtain ⟨entry, hentry, rfl⟩ := List.mem_map.mp hp
      have hleft := (poolSize_ofEntry (hsized entry hentry) f.runtime.pool.defaultSize).not.mp
        (not_not.mpr hsize)
      obtain ⟨hown, hzero⟩ := Classical.not_imp.mp hleft
      exact ⟨rfl, not_not.mp hzero, entry, hentry, rfl, hown⟩
    · have hsize : (LoadPlan.ofEntry e f.runtime.pool.defaultSize).poolSize ≠ 0 :=
        hdone hok { LoadPlan.ofEntry e f.runtime.pool.defaultSize with source := source e }
          (List.mem_map_of_mem he)
      exact (poolSize_ofEntry (hsized e he) _).mp hsize

/-- The same code under two names, of which only one entry says how many instances to keep. -/
theorem two_entries_are_loadable :
    let f : SettingsFile := { modules := [⟨"a", "a.wasm", none⟩, ⟨"A ", "a.wasm", some 1⟩] }
    f.Accepted ∧ (∀ e ∈ f.modules, (LoadPlan.ofEntry e 4).validate = .ok ()) ∧
    ∃ v s, Server.start (Cli.Program.world {}) Files.none {} = (v, .ok s) ∧
      ∀ config name e, (Cli.Program.load { schedule := { state := s } }
        (Cli.Program.plans config f)).2 = .error (.loading name e) → ¬ e.IsPlanFault := by
  intro f
  have hf : f.Accepted := .inl rfl
  have hsizes : f.HasSizes := fun _ _ _ => by decide
  have hstart : Server.start (Cli.Program.world {}) Files.none {} = (_, .ok _) := rfl
  obtain ⟨-, hvalid, hloaded⟩ := loadable_iff hf
  refine ⟨hf, hvalid.mpr hsizes, _, _, hstart, fun config name e he hplan => ?_⟩
  rw [plans_eq] at he
  obtain ⟨-, hzero, -⟩ := (hloaded _ _ _ _ _ hstart _).1 name e he hplan
  exact absurd hzero (by decide)

/-- A settings text whose only entry is left to a default size of zero. -/
def unsizedText : String :=
  "[runtime.pool]\ndefault_size = 0\n[[modules]]\nname = \"a\"\npath = \"b\"\n"

set_option maxRecDepth 10000 in
/-- An entry is accepted that has no size, though the size by default is zero: its plan is not
acceptable. -/
theorem unsized_entry_is_accepted : ∃ f e, ofText unsizedText = .ok f ∧ f.modules = [e] ∧
    (LoadPlan.ofEntry e f.runtime.pool.defaultSize).validate =
      .error (.invalidConfig "module 'a': pool_size must be at least 1") := by
  have htext : ofText unsizedText =
      .ok { runtime := { pool := { defaultSize := 0 } }, modules := [⟨"a", "b", none⟩] } := by
    cbv
  exact ⟨_, _, htext, rfl, rfl⟩

end SettingsFile
end FunctionHost

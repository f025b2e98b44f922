import FunctionHost.Proofs.Cli.Loading
import FunctionHost.Proofs.Server.Traffic
import Mathlib

/-!
# Invocations by name

What the program runs is named by a text: the name of a module, a dot, and an entrypoint.  The first
dot of the text is taken for that dot (`target?_eq_some_iff`), so the text names the module that it
was made for unless the name of that module has a dot itself, which settings files allow.

A module that is named is called while nothing else goes on.  It has all its instances, so one of
them executes the entrypoint, and no other module takes part (`Executes`).
-/
namespace FunctionHost.Cli.Program

/-! ## Texts that name an entrypoint -/

/-- **The module ends at the first dot.** -/
theorem target?_eq_some_iff {text module entrypoint : String} :
    target? text = some (module, entrypoint) ↔
      text = module ++ "." ++ entrypoint ∧ '.' ∉ module.toList := by
  let other (c : Char) : Bool := decide (c ≠ '.')
  rw [target?, List.span_eq_takeWhile_dropWhile]
  constructor
  · intro h
    split at h
    · rename_i before c after hspan
      cases h
      obtain ⟨rfl, hafter⟩ := Prod.mk.inj hspan
      have hdot : c = '.' := by
        have hhead := List.head?_dropWhile_not other text.toList
        rw [hafter] at hhead
        simpa [other] using hhead
      refine ⟨String.toList_inj.mp ?_, fun hmem => ?_⟩
      · have hparts := List.takeWhile_append_dropWhile (p := other) (l := text.toList)
        rw [hafter, hdot] at hparts
        simpa [other] using hparts.symm
      · rw [String.toList_ofList] at hmem
        simpa using List.mem_takeWhile_imp hmem
    · cases h
  · rintro ⟨rfl, hmodule⟩
    have hall : ∀ c ∈ module.toList, other c = true := by
      rintro c hc
      refine decide_eq_true ?_
      rintro rfl
      exact hmodule hc
    simp only [String.toList_append, List.append_assoc]
    rw [List.takeWhile_append_of_pos hall, List.dropWhile_append_of_pos hall]
    simp [other]

/-- A module can be named by some text unless its name has a dot. -/
theorem exists_target?_iff {name : String} :
    (∃ text entrypoint, target? text = some (name, entrypoint)) ↔ '.' ∉ name.toList := by
  constructor
  · rintro ⟨text, entrypoint, htarget⟩
    exact (target?_eq_some_iff.mp htarget).2
  · intro hname
    exact ⟨_, "", target?_eq_some_iff.mpr ⟨rfl, hname⟩⟩

/-! ## Calls of one module -/

/-- The request for an entrypoint of a module. -/
def asked (name entrypoint payload : String) : FunctionHost.Request where
  context := { request := request }
  name := name
  entrypoint := entrypoint
  payload := Bytes.ofText payload

/-- The program once it has told what it is about to run. -/
def told (r : Running) (q : FunctionHost.Request) : Running :=
  r.report (event "Invoking" [("request_id", .text request.shown), ("module", .text q.name),
    ("entrypoint", .text q.entrypoint)])

/-- What is printed of a reply. -/
def answer : ServerReply → Except Failure Bytes
  | .output bytes => .ok (Bytes.ofText (Utf8.decodeLossy bytes ++ "\n"))
  | .refused e => .error (.host e)
  | .done | .unloaded _ => .ok ByteArray.empty

variable {r : Running} {p : LoadPlan} {done : List LoadPlan} {c : Compiled} {n : Nat}
  {target name entrypoint : String}

theorem invoke_eq (htarget : target? target = some (name, entrypoint)) (payload : String) :
    invoke r target payload =
      let q := asked name entrypoint payload
      let ran := (told r q).run q.command request
      (ran.1, answer ran.2) := by
  rcases hran : (told r (asked name entrypoint payload)).run
    (asked name entrypoint payload).command request with ⟨worked, reply⟩
  dsimp only
  rw [hran]
  simp only [told, asked, FunctionHost.Request.command] at hran
  simp only [invoke, htarget, hran]
  cases reply <;> rfl

/-- **What it is to execute a request** in a pool: once the request was told, an instance with the
code of the pool is called, turn by turn, and what the call comes to is printed, or the call is given
up because it never ends.  No other pool is touched. -/
inductive Executes (r : Running) (n : Nat) (q : FunctionHost.Request) :
    Running × Except Failure Bytes → Prop
  | answered {worked : Running} {ws : List (World Router)} {i j : Instance} {outcome : Call.Result}
      (hown : q.OwnCall (r.server.pool n).blueprint ((told r q).server.world :: ws) i
        (j, .ended outcome))
      (hothers : ∀ k, k ≠ n → worked.server.pool k = r.server.pool k) :
      Executes r n q (worked, answer (.ofCall outcome))
  | givenUp {worked : Running} {s : Server Router} {ws : List (World Router)}
      {st : Standing ServerWork ServerReply} {y : ServerWork}
      (hengaged : q.Engaged n s ((told r q).server.world :: ws) st)
      (hy : st.work? = some y) (hcode : (s.pool n).blueprint = (r.server.pool n).blueprint)
      (hothers : ∀ k, k ≠ n → s.pool k = r.server.pool k) :
      Executes r n q (worked, answer (.refused .canceled))

/-- A request that is executed never reads as if there were no such module. -/
theorem Executes.found {q : FunctionHost.Request} {turn : Running × Except Failure Bytes}
    (h : Executes r n q turn) (name : String) :
    turn.2 ≠ .error (.host (.moduleNotFound name)) := by
  cases h with
  | @answered _ _ _ _ outcome hown hothers =>
    have hown := hown.own
    cases outcome with
    | ok bytes => exact nofun
    | error e =>
      rintro ⟨⟩
      exact nomatch hown _ rfl
  | givenUp hengaged hy hcode hothers => exact nofun

/-- **A module that is named is called.** -/
theorem Loaded.executes (h : Loaded done r) (hp : r.server.Provides p c n)
    (htarget : target? target = some (p.name, entrypoint)) (payload : String) :
    Executes r n (asked p.name entrypoint payload) (invoke r target payload) := by
  let q := asked p.name entrypoint payload
  have htold : Loaded done (told r q) := h.report _
  have hprovides : (told r q).server.Provides p c n := hp.withWorld rfl
  obtain ⟨s, st, hs, ⟨rfl, -, rfl⟩ | ⟨⟨y, hy⟩, hgivenUp⟩⟩ :=
    Running.run_alone (Server.persists_undisturbed _ q _) htold.vacant
      (Server.undisturbed_begin htold.whole hprovides rfl rfl rfl)
  all_goals
    obtain ⟨ws, hengaged⟩ := hs.engaged
    rw [invoke_eq htarget]
  · -- The request is over, so it was answered with what its call came to.
    generalize hreply : Standing.ended _ = st at hengaged
    cases hengaged with
    | calling hst hl hown hcall hon => rw [← hreply] at hst; cases hst
    | restoring hst hown hcomes => rw [← hreply] at hst; cases hst
    | answered hown hgone =>
      dsimp only
      rw [Standing.ended.inj hreply]
      exact .answered (hs.blueprint ▸ hown) hs.others
  · dsimp only
    rw [hgivenUp]
    exact .givenUp hengaged hy hs.blueprint hs.others

/-- **A name that no module has** is refused. -/
theorem Loaded.invoke_of_missing (h : Loaded done r) (hname : ∀ p ∈ done, p.name ≠ name)
    (htarget : target? target = some (name, entrypoint)) (payload : String) :
    (invoke r target payload).2 = .error (.host (.moduleNotFound name)) := by
  let q := asked name entrypoint payload
  have htold : Loaded done (told r q) := h.report _
  have hget : (told r q).server.registry.get name = .error (.moduleNotFound name) :=
    htold.get_of_missing hname
  have hopen : (told r q).server.ensureOpen = .ok () :=
    if_neg (Bool.eq_false_iff.mp (htold.whole.lawful.proper.flags.symm.trans htold.opened))
  have hbegin : ((told r q).server.begin { request := request } q.command).2 =
      .ended (.refused (.moduleNotFound name)) := by
    simp only [FunctionHost.Request.command, q, asked, Server.begin, Server.execute] at hget hopen ⊢
    simp only [hopen, hget]
    rfl
  rw [invoke_eq htarget]
  obtain ⟨s, st, ⟨-, rfl⟩, ⟨hreply, -⟩ | ⟨⟨y, hy⟩, -⟩⟩ :=
    Running.run_alone (Server.persists_ended _ _) htold.vacant
      ⟨Server.alone_begin htold.whole _ _, hbegin⟩
  · exact congrArg answer (Standing.ended.inj hreply).symm
  · cases hy

/-! ## Calls of any module of a settings file -/

/-- **Whether an entrypoint of a module is executed**: in the pool of that module, which is no other
module's, and never as if there were no such module. -/
structure Invokes (r : Running) (done : List LoadPlan) (p : LoadPlan) (q : FunctionHost.Request)
    (turn : Running × Except Failure Bytes) : Prop where
  executes : ∃ c n, r.server.Provides p c n ∧ Executes r n q turn ∧
    ∀ other ∈ done, other.name ≠ p.name → ∃ d k, r.server.Provides other d k ∧ k ≠ n
  found : ∀ name, turn.2 ≠ .error (.host (.moduleNotFound name))

theorem Loaded.invokes (h : Loaded done r) (hp : p ∈ done)
    (htarget : target? target = some (p.name, entrypoint)) (payload : String) :
    Invokes r done p (asked p.name entrypoint payload) (invoke r target payload) := by
  obtain ⟨c, n, hprovides⟩ := h.provides p hp
  have hexecutes := h.executes hprovides htarget payload
  refine ⟨⟨c, n, hprovides, hexecutes, fun other hother hne => ?_⟩, hexecutes.found⟩
  obtain ⟨d, k, hother⟩ := h.provides other hother
  refine ⟨d, k, hother, ?_⟩
  rintro rfl
  exact hne (hother.name_eq hprovides)

variable {s : Surroundings} {q : Request} {f : SettingsFile} {w : World Router}

theorem run_of_loaded (hq : Request.ofArguments s.config s.arguments = .ok q)
    (hf : settings s.files q.config = .ok f) (hstart : start s.files f = (w, .ok r))
    {loaded : Running} (hload : load r (plans q.config f) = (loaded, .ok ())) :
    run s = finish ((s.filter.map Filter.ofText).getD Filter.standard) q loaded := by
  simp only [run, hq, serve, hf, hstart, hload]

theorem run_of_failed (hq : Request.ofArguments s.config s.arguments = .ok q)
    (hf : settings s.files q.config = .ok f) (hstart : start s.files f = (w, .ok r))
    {loaded : Running} {failure : Failure}
    (hload : load r (plans q.config f) = (loaded, .error failure)) :
    run s = failed ((s.filter.map Filter.ofText).getD Filter.standard) loaded.server.world
      failure := by
  simp only [run, hq, serve, hf, hstart, hload]

theorem finish_exitCode {failure : Failure} (h : (work r q).2 = .error failure) (filter : Filter) :
    (finish filter q r).exitCode = 1 := by
  rw [finish]
  generalize work r q = turn at h
  obtain ⟨worked, result⟩ := turn
  obtain rfl : result = .error failure := h
  rfl

/-- **A module is invoked by its name, unless that has a dot.**

The program that has loaded all modules of its settings file, and is to run what the name of one of
them, a dot and an entrypoint make, runs that entrypoint of that module on the payload and prints
what comes of it, if there is no dot in the name.  If there is one, the part of the name before the
first dot is taken for the name of a module: an entrypoint of that module is run, or, if there is no
such module, none at all. -/
theorem invoked_by_name (hq : Request.ofArguments s.config s.arguments = .ok q)
    (hf : settings s.files q.config = .ok f) (hstart : start s.files f = (w, .ok r)) :
    let filter := (s.filter.map Filter.ofText).getD Filter.standard
    let all := plans q.config f
    (∀ loaded failure, load r all = (loaded, .error failure) →
      (∃ entry ∈ f.modules, ∃ e, failure = .loading entry.name e) ∧
        run s = failed filter loaded.server.world failure) ∧
    ∀ loaded, load r all = (loaded, .ok ()) → run s = finish filter q loaded ∧
      ∀ entry ∈ f.modules, ∀ entrypoint, q.invoke = some (entry.name ++ "." ++ entrypoint) →
        ('.' ∉ entry.name.toList → Invokes loaded all (planOf q.config f entry)
          (asked entry.name entrypoint q.payload) (work loaded q)) ∧
        ∀ first rest, entry.name = first ++ "." ++ rest → '.' ∉ first.toList →
          (∀ other ∈ f.modules, other.name = first → Invokes loaded all (planOf q.config f other)
            (asked first (rest ++ "." ++ entrypoint) q.payload) (work loaded q)) ∧
          ((∀ other ∈ f.modules, other.name ≠ first) →
            (work loaded q).2 = .error (.host (.moduleNotFound first))) := by
  intro filter all
  refine ⟨fun loaded failure hload => ?_, fun loaded hload => ?_⟩
  · obtain ⟨p, hp, e, rfl⟩ := load_fails hload
    obtain ⟨entry, hentry, rfl⟩ := mem_plans_iff.mp hp
    exact ⟨⟨entry, hentry, e, rfl⟩, run_of_failed hq hf hstart hload⟩
  · have hloaded : Loaded all loaded := loaded_of_load (loaded_start hstart) hload
    have hplan {entry : ModuleEntry} (h : entry ∈ f.modules) : planOf q.config f entry ∈ all :=
      mem_plans_iff.mpr ⟨entry, h, rfl⟩
    refine ⟨run_of_loaded hq hf hstart hload, fun entry hentry entrypoint hinvoke => ?_⟩
    have hwork : work loaded q =
        invoke loaded (entry.name ++ "." ++ entrypoint) q.payload := by
      rw [work, hinvoke]
    rw [hwork]
    refine ⟨fun hname => ?_, fun first rest hname hfirst => ?_⟩
    · have htarget : target? (entry.name ++ "." ++ entrypoint) = some (entry.name, entrypoint) :=
        target?_eq_some_iff.mpr ⟨rfl, hname⟩
      exact hloaded.invokes (hplan hentry) htarget q.payload
    · -- The dot in the name is the first of the text, so the rest of the name goes to the entrypoint.
      have htarget : target? (entry.name ++ "." ++ entrypoint) =
          some (first, rest ++ "." ++ entrypoint) := by
        refine target?_eq_some_iff.mpr ⟨?_, hfirst⟩
        rw [hname]
        simp only [String.append_assoc]
      refine ⟨fun other hother hsame => ?_, fun hmissing => ?_⟩
      · subst hsame
        exact hloaded.invokes (hplan hother) htarget q.payload
      · refine hloaded.invoke_of_missing (fun p hp => ?_) htarget q.payload
        obtain ⟨other, hother, rfl⟩ := mem_plans_iff.mp hp
        exact hmissing other hother

/-! ## A program with one module -/

/-- The settings of a program with one module. -/
def loneFile (name : String) : SettingsFile := { modules := [⟨name, "m", some 1⟩] }

/-- A program that is to run something, its settings file and its only module. -/
def lone (text target : String) : Surroundings where
  arguments := ["--config", "c", "--invoke", target]
  files path :=
    if path = "c" then .ok (Bytes.ofText text)
    else if path = "m" then .ok .tidyGuest
    else .error .missing

/-- Whether the module can be loaded under a name. -/
def loneLoads (text name : String) : Bool :=
  match start (lone text "").files (loneFile name) with
  | (_, .ok r) =>
    match (r.run (.load ⟨name, .bytes .tidyGuest, 1⟩) request).2 with
    | .done => true
    | _ => false
  | (_, .error _) => false

theorem settings_lone {text target : String} (htext : SettingsFile.ofText text = .ok f) :
    settings (lone text target).files (some "c") = .ok f := by
  have hfile : (lone text target).files "c" = .ok (Bytes.ofText text) := by simp [lone]
  have hdecode : Utf8.decode? (Bytes.ofText text) = some text :=
    Utf8.decode?_eq_some_iff.mpr rfl
  simp only [settings, SettingsFile.ofFile, hfile, hdecode, htext]
  rfl

theorem load_lone {text name : String} (hloads : loneLoads text name = true) (target : String) :
    ∃ w r, start (lone text target).files (loneFile name) = (w, .ok r) ∧
      ∃ loaded, load r (plans (some "c") (loneFile name)) = (loaded, .ok ()) := by
  have hpath : FilePath.join (baseFolder (some "c")) "m" = "m" := by cbv
  have hplans : plans (some "c") (loneFile name) = [⟨name, .file "m", 1⟩] :=
    congrArg (fun path => [(⟨name, .file path, 1⟩ : LoadPlan)]) hpath
  have hextension : FilePath.extension? "m" = none := by cbv
  rw [loneLoads] at hloads
  split at hloads
  · rename_i w r hstart
    have hfile : r.server.files "m" = .ok .tidyGuest := by
      rw [files_of_start hstart]
      simp [lone]
    have hrun := (loaded_start hstart).run_source (p := ⟨name, .bytes .tidyGuest, 1⟩)
      (Server.compile_file hfile (by simp [hextension]))
    refine ⟨w, r, hstart, ?_⟩
    rw [hplans, load, hrun]
    generalize r.run _ request = ran at hloads
    obtain ⟨r', reply⟩ := ran
    cases reply with
    | done => exact ⟨_, rfl⟩
    | refused e => cases hloads
    | output bytes => cases hloads
    | unloaded outcome => cases hloads
  · cases hloads

/-- One module with a plain name. -/
def plainText : String := "[[modules]]\nname = \"m\"\npath = \"m\"\npool_size = 1\n"

set_option maxRecDepth 10000 in
/-- A module with a plain name is invoked. -/
theorem plain_name_is_invoked :
    let s := lone plainText "m.run"
    let q : Request := { config := some "c", invoke := some "m.run" }
    let f := loneFile "m"
    Request.ofArguments s.config s.arguments = .ok q ∧ settings s.files q.config = .ok f ∧
      ∃ w r loaded, start s.files f = (w, .ok r) ∧
        load r (plans q.config f) = (loaded, .ok ()) ∧ run s = finish .standard q loaded ∧
        Invokes loaded (plans q.config f) (planOf q.config f ⟨"m", "m", some 1⟩)
          (asked "m" "run" "") (work loaded q) := by
  intro s q f
  have hq : Request.ofArguments s.config s.arguments = .ok q := by decide +kernel
  have htext : SettingsFile.ofText plainText = .ok f := by cbv
  have hf : settings s.files q.config = .ok f := settings_lone htext
  have hloads : loneLoads plainText "m" = true := by decide +kernel
  obtain ⟨w, r, hstart, loaded, hload⟩ := load_lone hloads "m.run"
  obtain ⟨hrun, hinvokes⟩ := (invoked_by_name hq hf hstart).2 loaded hload
  refine ⟨hq, hf, w, r, loaded, hstart, hload, hrun, ?_⟩
  exact (hinvokes ⟨"m", "m", some 1⟩ (List.mem_singleton_self _) "run" rfl).1 (by decide)

/-- One module with a dot in its name. -/
def dottedText : String := "[[modules]]\nname = \"a.b\"\npath = \"m\"\npool_size = 1\n"

set_option maxRecDepth 10000 in
/-- **A module with a dot in its name is missed**: it is loaded, and no module is found when it is
invoked. -/
theorem dotted_name_is_missed :
    let s := lone dottedText "a.b.run"
    let q : Request := { config := some "c", invoke := some ("a.b" ++ "." ++ "run") }
    let f := loneFile "a.b"
    Request.ofArguments s.config s.arguments = .ok q ∧ settings s.files q.config = .ok f ∧
      ∃ w r loaded, start s.files f = (w, .ok r) ∧
        load r (plans q.config f) = (loaded, .ok ()) ∧
        (work loaded q).2 = .error (.host (.moduleNotFound "a")) ∧ (run s).exitCode = 1 := by
  intro s q f
  have hq : Request.ofArguments s.config s.arguments = .ok q := by decide +kernel
  have htext : SettingsFile.ofText dottedText = .ok f := by cbv
  have hf : settings s.files q.config = .ok f := settings_lone htext
  have hloads : loneLoads dottedText "a.b" = true := by decide +kernel
  obtain ⟨w, r, hstart, loaded, hload⟩ := load_lone hloads "a.b.run"
  have hloaded := loaded_of_load (loaded_start hstart) hload
  have htarget : target? "a.b.run" = some ("a", "b.run") := by decide
  have hmissing : (work loaded q).2 = .error (.host (.moduleNotFound "a")) := by
    refine hloaded.invoke_of_missing (fun p hp => ?_) htarget ""
    obtain ⟨entry, hentry, rfl⟩ := mem_plans_iff.mp hp
    obtain rfl := List.mem_singleton.mp hentry
    decide
  refine ⟨hq, hf, w, r, loaded, hstart, hload, hmissing, ?_⟩
  rw [run_of_loaded hq hf hstart hload]
  exact finish_exitCode hmissing _

end FunctionHost.Cli.Program

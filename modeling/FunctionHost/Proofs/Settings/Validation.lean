import FunctionHost.Settings.File

/-!
# Validating settings files

A list of module entries is usable (`Usable`) if every entry has a name that is not blank, none asks
for an empty pool and no name is there twice.  `validateFrom` looks at one entry after another and
knows the names before it; by induction on the entries it accepts those that are usable together
with the ones before (`validateFrom_eq_ok_iff`), and refuses the first one behind which they are not
(`validateFrom_eq_error_iff`).  Of several offences of that entry only the first is told
(`Offends`).
-/
namespace FunctionHost

/-- Whether the name of an entry has a character that is not blank. -/
def ModuleEntry.IsNamed (e : ModuleEntry) : Prop := ∃ c ∈ e.name.toList, Text.isBlank c = false

theorem ModuleEntry.isNamed_iff (e : ModuleEntry) : e.IsNamed ↔ Text.blank e.name = false := by
  simp [IsNamed, Text.blank]

namespace SettingsFile

variable {before entries : List ModuleEntry} {e : ModuleEntry} {reason : String}

/-- **Whether module entries can be used together.** -/
structure Usable (entries : List ModuleEntry) : Prop where
  named : ∀ e ∈ entries, e.IsNamed
  sized : ∀ e ∈ entries, e.poolSize ≠ some 0
  distinct : (entries.map (·.name)).Nodup

/-- **What is wrong with an entry** behind others: of several offences the one that is listed first
here counts. -/
inductive Offends (before : List ModuleEntry) (e : ModuleEntry) : String → Prop
  | unnamed (hname : ¬ e.IsNamed) : Offends before e "name must not be empty"
  | unsized (hname : e.IsNamed) (hsize : e.poolSize = some 0) :
      Offends before e "pool_size must be greater than zero"
  | again (hname : e.IsNamed) (hsize : e.poolSize ≠ some 0) (hmem : e.name ∈ before.map (·.name)) :
      Offends before e "declared more than once"

/-- The names of the entries that were looked at, the last one first. -/
def namesOf (before : List ModuleEntry) : List String := (before.map (·.name)).reverse

theorem namesOf_snoc (before : List ModuleEntry) (e : ModuleEntry) :
    namesOf (before ++ [e]) = e.name :: namesOf before := by
  simp [namesOf]

theorem usable_nil : Usable [] := ⟨nofun, nofun, List.nodup_nil⟩

/-- Nothing is wrong with an entry that has a name and a size and comes for the first time. -/
theorem offence_eq_none_iff : offence (namesOf before) e = none ↔
    e.IsNamed ∧ e.poolSize ≠ some 0 ∧ e.name ∉ before.map (·.name) := by
  rw [e.isNamed_iff, offence]
  by_cases hname : Text.blank e.name
  · simp [hname]
  · by_cases hsize : e.poolSize = some 0
    · simp [hname, hsize]
    · simp [hname, hsize, namesOf]

/-- **An offence is told** as it is listed. -/
theorem offence_eq_some_iff :
    offence (namesOf before) e = some reason ↔ Offends before e reason := by
  constructor
  · intro h
    rw [offence] at h
    split at h
    · rename_i hblank
      obtain rfl := Option.some.inj h
      exact .unnamed (by simp [e.isNamed_iff, hblank])
    · rename_i hblank
      have hname : e.IsNamed := by simpa [e.isNamed_iff] using hblank
      split at h
      · rename_i hsize
        obtain rfl := Option.some.inj h
        exact .unsized hname hsize
      · rename_i hsize
        split at h
        · rename_i hmem
          obtain rfl := Option.some.inj h
          exact .again hname hsize (List.mem_reverse.mp hmem)
        · simp at h
  · intro h
    rcases h with hname | ⟨hname, hsize⟩ | ⟨hname, hsize, hmem⟩
    · simp_all [offence, e.isNamed_iff]
    · simp_all [offence, e.isNamed_iff]
    · simp_all [offence, e.isNamed_iff, namesOf]

/-- **Usable entries can be used with one more** if nothing is wrong with that one behind them. -/
theorem usable_snoc :
    Usable (before ++ [e]) ↔ Usable before ∧ offence (namesOf before) e = none := by
  rw [offence_eq_none_iff]
  constructor
  · rintro ⟨hnamed, hsized, hdistinct⟩
    simp only [List.forall_mem_append, List.forall_mem_singleton] at hnamed hsized
    rw [List.map_append, List.nodup_append] at hdistinct
    obtain ⟨hnodup, -, hdisjoint⟩ := hdistinct
    refine ⟨⟨hnamed.1, hsized.1, hnodup⟩, hnamed.2, hsized.2, fun hmem => ?_⟩
    exact hdisjoint _ hmem _ List.mem_cons_self rfl
  · rintro ⟨⟨hnamed, hsized, hdistinct⟩, hname, hsize, hnew⟩
    refine ⟨?_, ?_, ?_⟩
    · exact List.forall_mem_append.mpr ⟨hnamed, List.forall_mem_singleton.mpr hname⟩
    · exact List.forall_mem_append.mpr ⟨hsized, List.forall_mem_singleton.mpr hsize⟩
    · rw [List.map_append, List.nodup_append]
      refine ⟨hdistinct, by simp, fun name hmem other hother heq => hnew ?_⟩
      obtain rfl : other = e.name := List.mem_singleton.mp hother
      exact heq ▸ hmem

/-- Entries of which some first ones cannot be used together cannot be used. -/
theorem Usable.of_append (h : Usable (before ++ entries)) : Usable before where
  named e he := h.named e (List.mem_append_left _ he)
  sized e he := h.sized e (List.mem_append_left _ he)
  distinct := by
    have hnodup := h.distinct
    rw [List.map_append] at hnodup
    exact (List.nodup_append.mp hnodup).1

/-- **Entries are accepted** behind usable ones if all of them can be used together. -/
theorem validateFrom_eq_ok_iff (hbefore : Usable before) (entries : List ModuleEntry) :
    validateFrom (namesOf before) entries = .ok () ↔ Usable (before ++ entries) := by
  induction entries generalizing before with
  | nil => simp [validateFrom, hbefore]
  | cons e entries ih =>
    have hlist : before ++ e :: entries = (before ++ [e]) ++ entries := by simp
    rw [validateFrom, hlist]
    cases hoffence : offence (namesOf before) e with
    | none =>
      rw [← namesOf_snoc]
      exact ih (usable_snoc.mpr ⟨hbefore, hoffence⟩)
    | some reason =>
      refine iff_of_false (by simp) fun h => ?_
      have hnone := (usable_snoc.mp h.of_append).2
      rw [hoffence] at hnone
      simp at hnone

/-- **Entries are refused** because of the first one that offends behind those before it. -/
theorem validateFrom_eq_error_iff (hbefore : Usable before) (entries : List ModuleEntry)
    (error : SettingsError) :
    validateFrom (namesOf before) entries = .error error ↔
      ∃ more e after reason, entries = more ++ e :: after ∧ Usable (before ++ more) ∧
        Offends (before ++ more) e reason ∧ error = .invalidModule e.name reason := by
  induction entries generalizing before with
  | nil => simp [validateFrom]
  | cons e entries ih =>
    rw [validateFrom]
    cases hoffence : offence (namesOf before) e with
    | none =>
      have hnext := usable_snoc.mpr ⟨hbefore, hoffence⟩
      dsimp only
      rw [← namesOf_snoc, ih hnext]
      constructor
      · rintro ⟨more, e', after, reason, rfl, husable, hoffends, herror⟩
        rw [List.append_assoc] at husable hoffends
        exact ⟨e :: more, e', after, reason, rfl, husable, hoffends, herror⟩
      · rintro ⟨more, e', after, reason, hlist, husable, hoffends, herror⟩
        rcases List.cons_eq_append_iff.mp hlist with ⟨rfl, heq⟩ | ⟨more, rfl, rfl⟩
        · -- The first entry does not offend.
          obtain ⟨rfl, -⟩ := List.cons.inj heq
          rw [List.append_nil, ← offence_eq_some_iff, hoffence] at hoffends
          simp at hoffends
        · refine ⟨more, e', after, reason, rfl, ?_, ?_, herror⟩
          · rwa [List.append_assoc]
          · rwa [List.append_assoc]
    | some reason =>
      dsimp only
      constructor
      · intro h
        obtain rfl := Except.error.inj h
        refine ⟨[], e, entries, reason, rfl, ?_, ?_, rfl⟩
        · rwa [List.append_nil]
        · rwa [List.append_nil, ← offence_eq_some_iff]
      · rintro ⟨more, e', after, reason', hlist, husable, hoffends, rfl⟩
        rcases List.cons_eq_append_iff.mp hlist with ⟨rfl, heq⟩ | ⟨more, rfl, rfl⟩
        · obtain ⟨rfl, -⟩ := List.cons.inj heq
          rw [List.append_nil, ← offence_eq_some_iff, hoffence] at hoffends
          rw [Option.some.inj hoffends]
        · -- Behind the first entry nothing can be used.
          have hlist : before ++ e :: more = (before ++ [e]) ++ more := by simp
          rw [hlist] at husable
          have hnone := (usable_snoc.mp husable.of_append).2
          rw [hoffence] at hnone
          simp at hnone

/-- **Validation is exact and tells of the first offence.**

A settings file is accepted if and only if its entries can be used together.  It is refused with an
error if and only if the error names the entry up to which, and not before which, they cannot be
used together, with the first offence of that entry. -/
theorem validation_is_exact (f : SettingsFile) :
    (f.validate = .ok () ↔ Usable f.modules) ∧
    ∀ error, f.validate = .error error ↔
      ∃ before e after reason, f.modules = before ++ e :: after ∧ Usable before ∧
        ¬ Usable (before ++ [e]) ∧ Offends before e reason ∧
        error = .invalidModule e.name reason := by
  refine ⟨validateFrom_eq_ok_iff usable_nil f.modules, fun error => ?_⟩
  have hfirst := validateFrom_eq_error_iff usable_nil f.modules error
  simp only [List.nil_append] at hfirst
  refine hfirst.trans (exists_congr fun before => exists_congr fun e => exists_congr fun after =>
    exists_congr fun reason => and_congr_right fun _ => and_congr_right fun _ => ?_)
  constructor
  · rintro ⟨hoffends, herror⟩
    refine ⟨fun h => ?_, hoffends, herror⟩
    rw [usable_snoc, offence_eq_some_iff.mpr hoffends] at h
    simp at h
  · rintro ⟨-, hoffends, herror⟩
    exact ⟨hoffends, herror⟩

/-- A name that differs only in blanks is another name, and a blank one is told before its size. -/
example : validateFrom []
      [⟨"a", "", none⟩, ⟨"a ", "", some 1⟩, ⟨" ", "", some 0⟩, ⟨"a", "", none⟩] =
    .error (.invalidModule " " "name must not be empty") := rfl

end SettingsFile
end FunctionHost

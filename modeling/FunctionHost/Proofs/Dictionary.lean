import FunctionHost.Dictionary
import Mathlib.Logic.Function.Basic

/-!
# What is found in a dictionary

`Dictionary.find?` is the view of a dictionary.  An insertion changes what is found under one name, a
removal makes it disappear, and nothing else is changed (`find?_insert`, `find?_erase`).  The names
are those under which something is found; they are in order, so none of them is there twice.
-/
namespace FunctionHost
namespace Dictionary

variable {α : Type} {name other : String} {value : α} {e : String × α} {d : Dictionary α}

/-! ## Entries -/

/-- Other entries stay where they are. -/
theorem mem_insertEntry_of_mem {entries : List (String × α)} (h : e ∈ entries) (hne : e.1 ≠ name) :
    e ∈ insertEntry name value entries := by
  induction entries with
  | nil => cases h
  | cons head rest ih =>
    unfold insertEntry
    split
    · exact List.mem_cons_of_mem _ h
    · split
      · rename_i heq
        rcases List.mem_cons.mp h with rfl | h
        · exact absurd heq.symm hne
        · exact List.mem_cons_of_mem _ h
      · rcases List.mem_cons.mp h with rfl | h
        · exact List.mem_cons_self
        · exact List.mem_cons_of_mem _ (ih h)

theorem find?_insertEntry (entries : List (String × α)) :
    (insertEntry name value entries).find? (·.1 = other) =
      if other = name then some (name, value) else entries.find? (·.1 = other) := by
  induction entries with
  | nil =>
    by_cases h : other = name
    · subst h
      simp [insertEntry]
    · simp [insertEntry, h, Ne.symm h]
  | cons head rest ih =>
    unfold insertEntry
    split
    · by_cases h : other = name
      · subst h
        simp
      · simp [h, Ne.symm h]
    · split
      · rename_i heq
        subst heq
        by_cases h : other = head.1
        · subst h
          simp
        · simp [h, Ne.symm h]
      · rename_i hne
        rw [List.find?_cons, List.find?_cons, ih]
        by_cases h : other = name
        · subst h
          simp [Ne.symm hne]
        · simp [h]

/-! ## What is found -/

theorem mem_of_find? (h : d.find? name = some value) : ∃ e ∈ d.entries, e.2 = value := by
  obtain ⟨e, he, rfl⟩ := Option.map_eq_some_iff.mp h
  exact ⟨e, List.mem_of_find?_eq_some he, rfl⟩

/-- **What is found after an insertion.** -/
theorem find?_insert (d : Dictionary α) (name : String) (value : α) :
    (d.insert name value).find? = Function.update d.find? name (some value) := by
  funext other
  rw [find?, insert, find?_insertEntry]
  by_cases h : other = name
  · rw [if_pos h, h, Function.update_self]
    rfl
  · rw [if_neg h, Function.update_of_ne h]
    rfl

@[simp] theorem find?_insert_self : (d.insert name value).find? name = some value := by
  rw [find?_insert, Function.update_self]

theorem find?_insert_of_ne (h : other ≠ name) : (d.insert name value).find? other = d.find? other := by
  rw [find?_insert, Function.update_of_ne h]

/-- **Inserting what is there changes nothing.** -/
theorem insert_of_find? (h : d.find? name = some value) : d.insert name value = d := by
  have hsame (entries : List (String × α))
      (hsorted : entries.Pairwise fun a b => Text.Before a.1 b.1)
      (hmem : (name, value) ∈ entries) : insertEntry name value entries = entries := by
    induction hsorted with
    | nil => cases hmem
    | @cons e rest first tail ih =>
      unfold insertEntry
      rcases List.mem_cons.mp hmem with rfl | hmem
      · rw [if_neg (Text.Before.irrefl name), if_pos rfl]
      · -- The name stands further behind, so it comes after this one.
        have hbefore : Text.Before e.1 name := first _ hmem
        have hlate : ¬ Text.Before name e.1 := fun hname =>
          Text.Before.irrefl name (hname.trans hbefore)
        have hne : name ≠ e.1 := fun heq => Text.Before.irrefl name (heq ▸ hbefore)
        rw [if_neg hlate, if_neg hne, ih hmem]
  obtain ⟨⟨other, _⟩, he, rfl⟩ := Option.map_eq_some_iff.mp h
  have hname := List.find?_some he
  obtain rfl : other = name := of_decide_eq_true hname
  have hentries := hsame d.entries d.sorted (List.mem_of_find?_eq_some he)
  cases d
  simp only [insert, mk.injEq]
  exact hentries

/-- **What is found after a removal.** -/
theorem find?_erase (d : Dictionary α) (name : String) :
    (d.erase name).find? = Function.update d.find? name none := by
  funext other
  rw [find?, erase, List.find?_filter]
  by_cases h : other = name
  · subst h
    simp
  · rw [Function.update_of_ne h, find?]
    congr 2
    funext e
    by_cases he : e.1 = other
    · simp [he, h]
    · simp [he]

/-- An entry whose name comes after all others goes to the end. -/
theorem insertEntry_of_last {entries : List (String × α)}
    (h : ∀ e ∈ entries, Text.Before e.1 name) :
    insertEntry name value entries = entries ++ [(name, value)] := by
  induction entries with
  | nil => rfl
  | cons e rest ih =>
    have hbefore : Text.Before e.1 name := h e List.mem_cons_self
    have hlate : ¬ Text.Before name e.1 := fun hname =>
      Text.Before.irrefl name (hname.trans hbefore)
    have hne : name ≠ e.1 := fun heq => Text.Before.irrefl name (heq ▸ hbefore)
    rw [insertEntry, if_neg hlate, if_neg hne, ih fun x hx => h x (List.mem_cons_of_mem _ hx)]
    rfl

/-- **A dictionary is what its entries make** when they are inserted one after another. -/
theorem foldl_insert_entries (d : Dictionary α) :
    d.entries.foldl (fun made e => made.insert e.1 e.2) empty = d := by
  have hmade (more : List (String × α)) (made : Dictionary α)
      (hsorted : (made.entries ++ more).Pairwise fun a b => Text.Before a.1 b.1) :
      (more.foldl (fun made e => made.insert e.1 e.2) made).entries = made.entries ++ more := by
    induction more generalizing made with
    | nil => exact (List.append_nil _).symm
    | cons e more ih =>
      have hlast : (made.insert e.1 e.2).entries = made.entries ++ [e] :=
        insertEntry_of_last fun x hx =>
          (List.pairwise_append.mp hsorted).2.2 x hx e List.mem_cons_self
      rw [List.foldl_cons, ih, hlast, List.append_assoc]
      · rfl
      · rwa [hlast, List.append_assoc]
  have hentries := hmade d.entries empty d.sorted
  cases d
  rw [mk.injEq]
  exact hentries

theorem contains_iff : d.contains name = true ↔ ∃ e ∈ d.entries, e.1 = name := by
  rw [contains, find?, Option.isSome_map, List.find?_isSome]
  constructor
  · rintro ⟨e, he, hname⟩
    exact ⟨e, he, of_decide_eq_true hname⟩
  · rintro ⟨e, he, hname⟩
    exact ⟨e, he, decide_eq_true hname⟩

theorem contains_insert :
    (d.insert name value).contains other = (decide (other = name) || d.contains other) := by
  rw [contains, find?_insert]
  by_cases h : other = name
  · simp [h]
  · simp [h, contains]

theorem contains_erase :
    (d.erase name).contains other = (decide (other ≠ name) && d.contains other) := by
  rw [contains, find?_erase]
  by_cases h : other = name
  · simp [h]
  · simp [h, contains]

/-! ## Names -/

theorem mem_names_iff : name ∈ d.names ↔ (d.find? name).isSome = true := by
  rw [names, List.mem_map]
  exact contains_iff.symm

/-- **The names are in order.** -/
theorem names_ordered (d : Dictionary α) : d.names.Pairwise Text.Before :=
  List.pairwise_map.mpr d.sorted

/-- **No name is given twice.** -/
theorem names_nodup (d : Dictionary α) : d.names.Nodup := by
  have hne (a b : String) (h : Text.Before a b) : a ≠ b := by
    rintro rfl
    exact Text.Before.irrefl a h
  exact d.names_ordered.imp (hne _ _)

end Dictionary
end FunctionHost

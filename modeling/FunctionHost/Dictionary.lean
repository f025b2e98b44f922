import FunctionHost.Text.Order
/-!
# Dictionaries

Values by name, kept in the order of the names.  `find?` is the view: what an insertion and a
removal do is said in terms of it.
-/
namespace FunctionHost

/-- **A dictionary.** -/
structure Dictionary (α : Type) where
  /-- The entries. -/
  entries : List (String × α)
  /-- They stand in the order of their names. -/
  sorted : entries.Pairwise fun a b => Text.Before a.1 b.1

namespace Dictionary

variable {α : Type}

/-- The dictionary without entries. -/
def empty : Dictionary α := ⟨[], .nil⟩

instance : Inhabited (Dictionary α) := ⟨empty⟩

/-- Puts an entry where it belongs, in place of one of the same name. -/
def insertEntry (name : String) (value : α) : List (String × α) → List (String × α)
  | [] => [(name, value)]
  | e :: rest =>
    if Text.Before name e.1 then (name, value) :: e :: rest
    else if name = e.1 then (name, value) :: rest
    else e :: insertEntry name value rest

theorem mem_insertEntry {name : String} {value : α} {e : String × α} {entries : List (String × α)}
    (h : e ∈ insertEntry name value entries) : e = (name, value) ∨ e ∈ entries := by
  induction entries with
  | nil => exact .inl (List.mem_singleton.mp h)
  | cons head rest ih =>
    unfold insertEntry at h
    split at h
    · exact (List.mem_cons.mp h).imp id id
    · split at h
      · exact (List.mem_cons.mp h).imp id (List.mem_cons_of_mem _)
      · rcases List.mem_cons.mp h with rfl | h
        · exact .inr List.mem_cons_self
        · exact (ih h).imp id (List.mem_cons_of_mem _)

theorem pairwise_insertEntry (name : String) (value : α) {entries : List (String × α)}
    (h : entries.Pairwise fun a b => Text.Before a.1 b.1) :
    (insertEntry name value entries).Pairwise fun a b => Text.Before a.1 b.1 := by
  induction h with
  | nil => simp [insertEntry]
  | @cons head rest first tail ih =>
    unfold insertEntry
    split
    · rename_i lt
      refine .cons (fun e he => ?_) (.cons first tail)
      rcases List.mem_cons.1 he with rfl | he
      · exact lt
      · exact lt.trans (first e he)
    · split
      · rename_i eq
        exact .cons (fun e he => eq ▸ first e he) tail
      · rename_i nlt ne
        refine .cons (fun e he => ?_) ih
        rcases mem_insertEntry he with rfl | he
        · exact Text.Before.of_not nlt ne
        · exact first e he

/-- The dictionary with a value under a name. -/
def insert (d : Dictionary α) (name : String) (value : α) : Dictionary α :=
  ⟨insertEntry name value d.entries, pairwise_insertEntry name value d.sorted⟩

/-- The dictionary without a name. -/
def erase (d : Dictionary α) (name : String) : Dictionary α :=
  ⟨d.entries.filter (·.1 ≠ name), d.sorted.filter _⟩

/-- The value under a name. -/
def find? (d : Dictionary α) (name : String) : Option α :=
  (d.entries.find? (·.1 = name)).map (·.2)

/-- Whether there is a value under a name. -/
def contains (d : Dictionary α) (name : String) : Bool := (d.find? name).isSome

/-- The names, in order. -/
def names (d : Dictionary α) : List String := d.entries.map (·.1)

/-- How many entries there are. -/
def size (d : Dictionary α) : Nat := d.entries.length

end Dictionary
end FunctionHost

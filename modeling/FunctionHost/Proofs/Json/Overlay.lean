import FunctionHost.Proofs.Json.Documents

/-!
# Documents with gaps

Members may be deleted from a document that was written, at any depth: a `Deletion` says of each way
into the document whether the member there is gone, and `without` is what is left.  A record that
has defaults reads what is left.  A member that is gone is then its default, and any other is what
is left of it is read as (`Restored`); so a record is read if each of its members is
(`readsAs_without`).
-/
namespace FunctionHost
namespace Json

/-- **A step** into a document. -/
inductive Step where
  /-- To the member of a record that has a name. -/
  | member (name : String)
  /-- To the item of a list that has an index. -/
  | item (index : Nat)
  deriving DecidableEq, Repr

/-- **Which members are deleted** from a document, by the ways to them. -/
abbrev Deletion := List Step → Bool

namespace Deletion

/-- Whether a member of the document itself is deleted. -/
def of (gone : Deletion) (name : String) : Bool := gone [.member name]

/-- What is deleted from a part of the document. -/
def inside (gone : Deletion) (step : Step) : Deletion := fun path => gone (step :: path)

/-- Nothing is deleted. -/
def nothing : Deletion := fun _ => false

/-- What a member is in what is left: its default if it is deleted. -/
def restore {α : Type} (gone : Deletion) (name : String) (standard kept : α) : α :=
  if gone.of name then standard else kept

end Deletion

mutual

/-- **What is left of a document** once members are deleted. -/
def without (gone : Deletion) : Json → Json
  | .list items => .list (withoutItems gone 0 items)
  | .record members => .record (withoutMembers gone members)
  | document => document

@[inherit_doc without]
def withoutItems (gone : Deletion) (index : Nat) : List Json → List Json
  | [] => []
  | item :: items =>
    item.without (gone.inside (.item index)) :: withoutItems gone (index + 1) items

@[inherit_doc without]
def withoutMembers (gone : Deletion) : List (String × Json) → List (String × Json)
  | [] => []
  | (name, document) :: members =>
    if gone.of name then withoutMembers gone members
    else (name, document.without (gone.inside (.member name))) :: withoutMembers gone members

end

mutual

/-- All of a document is left if nothing is deleted. -/
theorem without_nothing (d : Json) : d.without .nothing = d := by
  match d with
  | .list items => rw [without, withoutItems_nothing]
  | .record members => rw [without, withoutMembers_nothing]
  | .null | .bool _ | .number _ | .text _ => rfl

theorem withoutItems_nothing (items : List Json) (index : Nat) :
    withoutItems .nothing index items = items := by
  match items with
  | [] => rfl
  | item :: items =>
    have hitem : item.without (Deletion.nothing.inside (.item index)) = item := without_nothing item
    rw [withoutItems, hitem, withoutItems_nothing]

theorem withoutMembers_nothing (members : List (String × Json)) :
    withoutMembers .nothing members = members := by
  match members with
  | [] => rfl
  | (name, document) :: members =>
    have hdocument : document.without (Deletion.nothing.inside (.member name)) = document :=
      without_nothing document
    rw [withoutMembers, hdocument, withoutMembers_nothing]
    rfl

end

namespace Reader

/-! ## Members that may be gone -/

/-- **What a member is read as** that may be deleted. -/
structure Restored (gone : Deletion) (name : String) (shape : Shape) (fallback : Option Json)
    (written read : Json) : Prop where
  deleted : gone.of name = true → fallback = some read
  kept : gone.of name = false →
    ReadsAs (value shape) (written.without (gone.inside (.member name))) read

/-- **What the members of a record are read as**, one by one. -/
inductive Restores (gone : Deletion) :
    List (String × Shape × Option Json) → List (String × Json) → List (String × Json) → Prop
  | nil : Restores gone [] [] []
  | cons {name : String} {shape : Shape} {fallback : Option Json} {written read : Json}
      {shapes : List (String × Shape × Option Json)} {members complete : List (String × Json)}
      (h : Restored gone name shape fallback written read)
      (hrest : Restores gone shapes members complete) :
    Restores gone ((name, shape, fallback) :: shapes) ((name, written) :: members)
      ((name, read) :: complete)

variable {gone : Deletion} {name : String} {shape : Shape} {fallback : Option Json}
  {written read : Json} {shapes known : List (String × Shape × Option Json)}
  {members complete found : List (String × Json)}

/-- A member is restored if what is left of it is read, unless it is gone. -/
theorem restored {α : Type} (write : α → Json) (standard : α) {value : α}
    (h : gone.of name = false →
      ReadsAs (Reader.value shape) (written.without (gone.inside (.member name))) (write value)) :
    Restored gone name shape (some (write standard)) written
      (write (gone.restore name standard value)) := by
  constructor
  · intro hgone
    rw [Deletion.restore, if_pos hgone]
  · intro hkept
    rw [Deletion.restore, if_neg (by rw [hkept]; exact Bool.false_ne_true)]
    exact h hkept

/-- The record has the names of its shape. -/
theorem Restores.names (h : Restores gone shapes members complete) :
    complete.map (·.1) = shapes.map (·.1) := by
  induction h with
  | nil => rfl
  | cons _ _ ih => rw [List.map_cons, List.map_cons, ih]

/-- The members that are left are known, and read as those that are not gone. -/
theorem Restores.knows (h : Restores gone shapes members complete)
    (hnodup : (known.map (·.1)).Nodup) (hknown : shapes ⊆ known) :
    (withoutMembers gone members).Forall₂ (KnowsAs (memberReaders known))
      (complete.filter (!gone.of ·.1)) := by
  induction h with
  | nil => exact .nil
  | @cons name shape fallback written read shapes members complete hmember _ ih =>
    obtain ⟨hhead, hrest⟩ := List.cons_subset.mp hknown
    by_cases hgone : gone.of name = true
    · rw [withoutMembers, if_pos hgone, List.filter_cons_of_neg (by simpa using hgone)]
      exact ih hrest
    · have hkept : gone.of name = false := by simpa using hgone
      rw [withoutMembers, if_neg hgone, List.filter_cons_of_pos (by simpa using hgone)]
      exact .cons ⟨rfl, _, find?_memberReaders hnodup hhead, hmember.kept hkept⟩ (ih hrest)

/-- Those that are gone are their defaults. -/
theorem Restores.complete_eq (h : Restores gone shapes members complete)
    (hdeleted : ∀ m ∈ complete, gone.of m.1 = true → found.find? (·.1 == m.1) = none)
    (hkept : ∀ m ∈ complete, gone.of m.1 = false → found.find? (·.1 == m.1) = some m) :
    Shape.complete found shapes = .ok complete := by
  induction h with
  | nil => rfl
  | @cons name shape fallback written read shapes members complete hmember _ ih =>
    obtain ⟨hgone, hdeleted⟩ := List.forall_mem_cons.mp hdeleted
    obtain ⟨hthere, hkept⟩ := List.forall_mem_cons.mp hkept
    have hvalue : ((found.find? (·.1 == name)).map (·.2) <|> fallback) = some read := by
      by_cases h : gone.of name = true
      · rw [hgone h, hmember.deleted h]
        rfl
      · rw [hthere (by simpa using h)]
        rfl
    rw [Shape.complete, hvalue, ih hdeleted hkept]
    rfl

/-- **What is left of a record is read**, with the defaults of the members that are gone. -/
theorem readsAs_without (h : Restores gone shapes members complete)
    (hnodup : (shapes.map (·.1)).Nodup) (title : String) :
    ReadsAs (value (.record title shapes)) ((Json.record members).without gone)
      (.record complete) := by
  have hnames : (complete.map (·.1)).Nodup := h.names ▸ hnodup
  have hleft : ((complete.filter (!gone.of ·.1)).map (·.1)).Nodup :=
    (List.filter_sublist.map _).nodup hnames
  rw [without]
  refine readsAs_record (h.knows hnodup (List.Subset.refl _)) hleft (h.complete_eq ?_ ?_)
  · intro m _ hgone
    refine List.find?_eq_none.mpr fun other hother hname => ?_
    have hkept := (List.mem_filter.mp (List.mem_reverse.mp hother)).2
    rw [eq_of_beq hname, hgone] at hkept
    cases hkept
  · intro m hm hkept
    rw [find?_reverse hleft]
    exact find?_of_mem hleft (List.mem_filter.mpr ⟨hm, by rw [hkept]; rfl⟩)

/-! ## Values -/

theorem readsAs_u32 (n : UInt32) : ReadsAs (value .u32) (.nat n.toNat) (.nat n.toNat) :=
  readsAs_count (by decide) (Nat.le_pred_of_lt n.toNat_lt) "u32"

theorem readsAs_u64 (n : UInt64) : ReadsAs (value .u64) (.nat n.toNat) (.nat n.toNat) :=
  readsAs_count (by decide) (Nat.le_pred_of_lt n.toNat_lt) "u64"

theorem readsAs_usize (n : UInt64) : ReadsAs (value .usize) (.nat n.toNat) (.nat n.toNat) :=
  readsAs_count (by decide) (Nat.le_pred_of_lt n.toNat_lt) "usize"

/-- **Nothing is read** where there may be nothing. -/
theorem readsAs_optional_null (inner : Shape) : ReadsAs (value (.optional inner)) .null .null := by
  intro rest _
  rw [writeBytes, ascii_null]
  refine (reads_firstByte rfl _).bind ((reads_advance 110 _).bind ?_)
  exact (reads_word _ rest).bind (reads_pure _ rest)

/-- **A number is read** where there may be nothing. -/
theorem readsAs_optional_nat {inner : Shape} {n : Nat}
    (h : ReadsAs (value inner) (.nat n) (.nat n)) :
    ReadsAs (value (.optional inner)) (.nat n) (.nat n) := by
  intro rest hrest
  obtain ⟨byte, more, hbegin, hbyte, -⟩ := digits_begin n
  obtain ⟨hblank, hne⟩ := isDigit_ne byte hbyte
  have hinner := h rest hrest
  rw [Json.nat, writeBytes_nat, hbegin, List.cons_append] at hinner ⊢
  refine (reads_firstByte hblank _).bind ?_
  simp only [if_neg (hne 110 (by decide))]
  exact hinner

/-! ### Members with such values -/

theorem restored_flag (standard b : Bool) : Restored gone name .flag (some (.bool standard))
    (.bool b) (.bool (gone.restore name standard b)) :=
  restored .bool standard fun _ => readsAs_flag b

theorem restored_text (standard s : String) : Restored gone name .text (some (.text standard))
    (.text s) (.text (gone.restore name standard s)) :=
  restored .text standard fun _ => readsAs_text s

theorem restored_u32 (standard n : UInt32) : Restored gone name .u32 (some (.nat standard.toNat))
    (.nat n.toNat) (.nat (gone.restore name standard n).toNat) :=
  restored (fun n : UInt32 => .nat n.toNat) standard fun _ => readsAs_u32 n

theorem restored_u64 (standard n : UInt64) : Restored gone name .u64 (some (.nat standard.toNat))
    (.nat n.toNat) (.nat (gone.restore name standard n).toNat) :=
  restored (fun n : UInt64 => .nat n.toNat) standard fun _ => readsAs_u64 n

theorem restored_usize (standard n : UInt64) :
    Restored gone name .usize (some (.nat standard.toNat)) (.nat n.toNat)
      (.nat (gone.restore name standard n).toNat) :=
  restored (fun n : UInt64 => .nat n.toNat) standard fun _ => readsAs_usize n

/-- A text that has no default stays and is read. -/
theorem restored_required (h : gone.of name = false) (s : String) :
    Restored gone name .text none (.text s) (.text s) where
  deleted hgone := absurd (h.symm.trans hgone) Bool.false_ne_true
  kept _ := readsAs_text s

/-! ## Lists -/

/-- **The items of a list are read** one by one, each with its own gaps. -/
theorem readsAs_withoutItems {α : Type} {write : α → Json} {restored : Nat → α → α}
    (h : ∀ index a, ReadsAs (value shape) ((write a).without (gone.inside (.item index)))
      (write (restored index a))) (items : List α) (index : Nat) :
    (withoutItems gone index (items.map write)).Forall₂ (ReadsAs (value shape))
      ((items.mapIdx fun i => restored (index + i)).map write) := by
  induction items generalizing index with
  | nil => exact .nil
  | cons a items ih =>
    have hrest := ih (index + 1)
    simp only [Nat.add_right_comm index 1] at hrest
    rw [List.mapIdx_cons]
    exact .cons (h index a) hrest

end Reader
end Json
end FunctionHost

/-!
# Lists whose entries have numbers

Waiters, leases and restorations are kept in lists and found by number.  As long as no number is
given twice, an entry can be split off its list: what is left is what `filter` leaves, and putting
another entry in its place changes nothing else.
-/
namespace FunctionHost
namespace Numbered

variable {α : Type} {number : α → Nat} {l : List α} {a x : α} {n : Nat}

theorem mem_of_find? (h : l.find? (fun y => decide (number y = n)) = some a) :
    a ∈ l ∧ number a = n :=
  ⟨List.mem_of_find?_eq_some h, by simpa using List.find?_some h⟩

/-- **An entry and the rest of its list.** -/
theorem perm_cons_filter (hn : (l.map number).Nodup) (ha : a ∈ l) :
    l.Perm (a :: l.filter fun y => decide (number y ≠ number a)) := by
  induction l with
  | nil => cases ha
  | cons b l ih =>
    obtain ⟨hb, hl⟩ := List.nodup_cons.mp hn
    rcases List.mem_cons.mp ha with rfl | ha
    -- The entry is the head, and nothing in the tail has its number.
    · have hrest : l.filter (fun y => decide (number y ≠ number a)) = l := by
        refine List.filter_eq_self.mpr fun y hy => decide_eq_true fun he => ?_
        exact hb (he ▸ List.mem_map_of_mem hy)
      rw [List.filter_cons_of_neg (by simp), hrest]
    · have hne : number b ≠ number a := fun he => hb (he ▸ List.mem_map_of_mem ha)
      rw [List.filter_cons_of_pos (by simpa using hne)]
      exact ((ih hl ha).cons b).trans (List.Perm.swap a b _)

/-- An entry is known by its number. -/
theorem eq_of_number (hn : (l.map number).Nodup) (ha : a ∈ l) (hx : x ∈ l)
    (h : number x = number a) : x = a := by
  rcases List.mem_cons.mp ((perm_cons_filter hn ha).mem_iff.mp hx) with rfl | hx
  · rfl
  · exact absurd h (by simpa using (List.mem_filter.mp hx).2)

theorem find?_of_mem (hn : (l.map number).Nodup) (ha : a ∈ l) :
    l.find? (fun y => decide (number y = number a)) = some a := by
  have hfound : (l.find? fun y => decide (number y = number a)).isSome :=
    List.find?_isSome.mpr ⟨a, ha, decide_eq_true rfl⟩
  obtain ⟨x, hx⟩ := Option.isSome_iff_exists.mp hfound
  obtain ⟨hmem, hnumber⟩ := mem_of_find? hx
  rw [hx, eq_of_number hn ha hmem hnumber]

/-- Putting an entry in its own place changes nothing. -/
theorem map_set_self (hn : (l.map number).Nodup) (ha : a ∈ l) :
    (l.map fun y => if number y = number a then a else y) = l := by
  refine (List.map_congr_left fun y hy => ?_).trans (List.map_id l)
  by_cases h : number y = number a
  · rw [if_pos h, eq_of_number hn ha hy h]
    rfl
  · rw [if_neg h]
    rfl

/-- **An entry put in the place of another** with the same number. -/
theorem perm_set (hn : (l.map number).Nodup) (ha : a ∈ l) (hx : number x = number a) :
    (l.map fun y => if number y = number x then x else y).Perm
      (x :: l.filter fun y => decide (number y ≠ number a)) := by
  -- No entry that is left has the number, so none of them is exchanged.
  have hrest : ((l.filter fun y => decide (number y ≠ number a)).map
      fun y => if number y = number x then x else y) =
      l.filter fun y => decide (number y ≠ number a) := by
    refine (List.map_congr_left fun y hy => ?_).trans (List.map_id _)
    have hne : number y ≠ number a := by simpa using (List.mem_filter.mp hy).2
    rw [hx, if_neg hne, id]
  have h := (perm_cons_filter hn ha).map fun y => if number y = number x then x else y
  rw [List.map_cons, hrest, if_pos hx.symm] at h
  exact h

theorem map_number_set (hx : number x = n) :
    (l.map fun y => if number y = n then x else y).map number = l.map number := by
  rw [List.map_map]
  refine List.map_congr_left fun y _ => ?_
  by_cases hy : number y = n <;> simp [hy, hx]

theorem map_number_filter :
    (l.filter fun y => decide (number y ≠ n)).map number =
      (l.map number).filter fun m => decide (m ≠ n) := by
  rw [List.filter_map]; rfl

theorem length_filter (hn : (l.map number).Nodup) (ha : a ∈ l) :
    l.length = (l.filter fun y => decide (number y ≠ number a)).length + 1 :=
  (perm_cons_filter hn ha).length_eq

theorem countP_filter (hn : (l.map number).Nodup) (ha : a ∈ l) (is : α → Bool) :
    l.countP is =
      (l.filter fun y => decide (number y ≠ number a)).countP is + (is a).toNat := by
  rw [(perm_cons_filter hn ha).countP_eq is, List.countP_cons]
  cases is a <;> rfl

theorem countP_set (hn : (l.map number).Nodup) (ha : a ∈ l) (hx : number x = number a)
    (is : α → Bool) :
    (l.map fun y => if number y = number x then x else y).countP is =
      (l.filter fun y => decide (number y ≠ number a)).countP is + (is x).toNat := by
  rw [(perm_set hn ha hx).countP_eq is, List.countP_cons]
  cases is x <;> rfl

/-! ## Numbers that are given out in turn -/

/-- **Different numbers**, all of them given out before the next one. -/
def GivenOut (ns : List Nat) (next : Nat) : Prop := ns.Nodup ∧ ∀ m ∈ ns, m < next

variable {ns : List Nat} {next : Nat}

theorem GivenOut.nil (next : Nat) : GivenOut [] next :=
  ⟨List.nodup_nil, fun _ h => nomatch h⟩

theorem GivenOut.mono {next' : Nat} (h : GivenOut ns next) (hle : next ≤ next') :
    GivenOut ns next' :=
  ⟨h.1, fun m hm => Nat.lt_of_lt_of_le (h.2 m hm) hle⟩

theorem GivenOut.succ (h : GivenOut ns next) : GivenOut ns (next + 1) := h.mono (Nat.le_succ next)

theorem GivenOut.perm {ms : List Nat} (h : GivenOut ns next) (hp : ns.Perm ms) :
    GivenOut ms next :=
  ⟨hp.nodup_iff.mp h.1, fun m hm => h.2 m (hp.mem_iff.mpr hm)⟩

theorem GivenOut.of_append {k : List Nat} (h : GivenOut (k ++ ns) next) : GivenOut ns next :=
  ⟨(List.nodup_append.mp h.1).2.1, fun m hm => h.2 m (List.mem_append_right k hm)⟩

theorem GivenOut.cons (h : GivenOut ns next) : GivenOut (next :: ns) (next + 1) := by
  refine ⟨List.nodup_cons.mpr ⟨fun hm => Nat.lt_irrefl _ (h.2 _ hm), h.1⟩, fun m hm => ?_⟩
  rcases List.mem_cons.mp hm with rfl | hm
  · exact Nat.lt_succ_self _
  · exact Nat.lt_succ_of_lt (h.2 m hm)

theorem GivenOut.append (h : GivenOut ns next) : GivenOut (ns ++ [next]) (next + 1) :=
  h.cons.perm (List.perm_append_singleton next ns).symm

theorem GivenOut.filter (h : GivenOut ns next) (keep : Nat → Bool) :
    GivenOut (ns.filter keep) next :=
  ⟨h.1.filter keep, fun m hm => h.2 m (List.mem_filter.mp hm).1⟩

end Numbered
end FunctionHost

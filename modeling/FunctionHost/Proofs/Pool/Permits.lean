import FunctionHost.Pool.Permits
import FunctionHost.Proofs.Numbered

/-!
# Permits are neither lost nor made up

A permit can be used if nobody has it, or if it was granted to somebody who waits and has not
noticed yet.  Giving one back makes one more available, whoever gets it; taking one makes one fewer;
and whoever stops waiting leaves as many available as before (`available_withdraw`), be a permit
theirs already or not.
-/
namespace FunctionHost
namespace Permits

/-- **How many permits can be used**: free ones and granted ones. -/
def available (p : Permits) : Nat := p.free + p.waiters.countP (·.granted)

/-- The numbers under which somebody waits. -/
def tickets (p : Permits) : List Nat := p.waiters.map (·.ticket)

variable {p q : Permits} {w : Waiter}

theorem grantFirst_eq_some {ws ws' : List Waiter} (h : grantFirst ws = some ws') :
    ws'.countP (·.granted) = ws.countP (·.granted) + 1 ∧
      ws'.map (·.ticket) = ws.map (·.ticket) := by
  induction ws generalizing ws' with
  | nil => cases h
  | cons w rest ih =>
    rw [grantFirst] at h
    split at h
    · rename_i hg
      obtain ⟨rest', hrest, rfl⟩ := Option.map_eq_some_iff.mp h
      obtain ⟨hcount, htickets⟩ := ih hrest
      simp [hg, hcount, htickets]
    · rename_i hg
      cases h
      simp [hg]

/-! ## Giving back -/

theorem available_release (p : Permits) : p.release.available = p.available + 1 := by
  unfold release available
  split
  · rename_i ws h
    split at h
    · cases h
    · rw [(grantFirst_eq_some h).1, Nat.add_assoc]
  · exact Nat.add_right_comm _ _ _

@[simp] theorem tickets_release (p : Permits) : p.release.tickets = p.tickets := by
  unfold release tickets
  split
  · rename_i ws h
    split at h
    · cases h
    · exact (grantFirst_eq_some h).2
  · rfl

@[simp] theorem closed_release (p : Permits) : p.release.closed = p.closed := by
  unfold release; split <;> rfl

/-! ## Taking -/

theorem take?_eq_some (h : p.take? = some q) :
    p.closed = false ∧ p.free = q.free + 1 ∧ q.waiters = p.waiters ∧ q.closed = p.closed := by
  unfold take? at h
  split at h
  · rename_i free hc hf
    cases h
    exact ⟨hc, hf, rfl, hc ▸ rfl⟩
  · cases h

/-! ## Waiting -/

theorem mem_of_waiter? {ticket : Nat} (h : p.waiter? ticket = some w) :
    w ∈ p.waiters ∧ w.ticket = ticket :=
  Numbered.mem_of_find? h

theorem available_enqueue (p : Permits) (hg : w.granted = false) :
    (p.enqueue w).available = p.available := by
  simp [enqueue, available, hg]

@[simp] theorem tickets_enqueue (p : Permits) (w : Waiter) :
    (p.enqueue w).tickets = p.tickets ++ [w.ticket] := by
  simp [enqueue, tickets]

theorem available_remove (hn : p.tickets.Nodup) (hw : w ∈ p.waiters) :
    p.available = (p.remove w.ticket).available + if w.granted then 1 else 0 := by
  have h := (Numbered.perm_cons_filter hn hw).countP_eq (·.granted)
  rw [List.countP_cons] at h
  simp only [available, remove, h, Nat.add_assoc]

@[simp] theorem tickets_remove (p : Permits) (ticket : Nat) :
    (p.remove ticket).tickets = p.tickets.filter fun m => decide (m ≠ ticket) :=
  Numbered.map_number_filter

/-- **Whoever stops waiting leaves as many permits available as before.** -/
theorem available_withdraw (hn : p.tickets.Nodup) (hw : w ∈ p.waiters) :
    (p.withdraw w).available = p.available := by
  rw [available_remove hn hw, withdraw]
  split
  · exact available_release _
  · rfl

@[simp] theorem tickets_withdraw (p : Permits) (w : Waiter) :
    (p.withdraw w).tickets = p.tickets.filter fun m => decide (m ≠ w.ticket) := by
  unfold withdraw
  split <;> simp

@[simp] theorem closed_withdraw (p : Permits) (w : Waiter) :
    (p.withdraw w).closed = p.closed := by
  unfold withdraw
  split
  · exact closed_release _
  · rfl

end Permits
end FunctionHost

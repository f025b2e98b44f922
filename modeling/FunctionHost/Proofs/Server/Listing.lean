import FunctionHost.Proofs.Server.Loading

/-!
# What is given in a registry

`Server.Proper` is what holds of a server and its registry at every point of every run: a name is
given once, to a pool of that name that is open, and after the end nothing is given any more.  Work
that leaves served pools open keeps it, and so does whatever gives a name to a filled pool, takes one
back or begins to shut the server down.
-/
namespace FunctionHost

variable {σ : Type}

/-! ## Registries -/

/-- What a registry knows under a name. -/
theorem Registry.mem_of_get {α : Type} {r : Registry α} {name : String} {entry : α}
    (h : r.get name = .ok entry) : r.closed = false ∧ (name, entry) ∈ r.entries.entries := by
  unfold Registry.get at h
  split at h
  · cases h
  · rename_i hc
    refine ⟨Bool.eq_false_iff.mpr hc, ?_⟩
    split at h
    · rename_i hfound
      cases h
      obtain ⟨e, he, rfl⟩ := Option.map_eq_some_iff.mp hfound
      have hname : e.1 = name := by simpa using List.find?_some he
      exact hname ▸ List.mem_of_find?_eq_some he
    · cases h

namespace Server

/-! ## Servers and their registries -/

/-- Whether a name is given. -/
def lists (s : Server σ) (name : String) : Bool := s.registry.entries.contains name

/-- **A server and its registry**: each name is given once, to an open pool of that name; and a
server that was shut down has a closed and empty registry. -/
structure Proper (s : Server σ) : Prop where
  once : s.registry.names.Nodup
  named : ∀ e ∈ s.registry.entries.entries,
    e.2.pool < s.pools.size ∧ (s.pool e.2.pool).name = e.1
  usable : ∀ e ∈ s.registry.entries.entries, (s.pool e.2.pool).closed = false
  flags : s.registry.closed = s.closed
  emptied : s.closed = true → s.registry.entries.entries = []
  kindred : ∀ n, (s.pool n).Kindred

variable {s t : Server σ} {x : Option ServerWork} {drained : Nat → Prop} {w : World σ}
  {name hash : String} {p : Pool} {n : Nat}

namespace Proper

theorem world (h : Proper s) (w : World σ) : Proper { s with world := w } :=
  ⟨h.once, h.named, h.usable, h.flags, h.emptied, h.kindred⟩

theorem withLeft (h : Proper s) (left : List (Nat × Nat)) : Proper { s with left := left } :=
  ⟨h.once, h.named, h.usable, h.flags, h.emptied, h.kindred⟩

/-- **Work that drains no pool that is served keeps the registry right.** -/
theorem acts (h : Proper s) (ha : Acts x drained s t)
    (hd : ∀ e ∈ s.registry.entries.entries, ¬ drained e.2.pool) : Proper t := by
  obtain ⟨hregistry, hclosed, -⟩ := ha.listed
  refine ⟨hregistry ▸ h.once, fun e he => ?_, fun e he => ?_, ?_, fun hc => ?_,
    fun n => ha.kindred (h.kindred n)⟩
  · rw [hregistry] at he
    have hname : (t.pool e.2.pool).name = (s.pool e.2.pool).name :=
      congrArg Blueprint.name (ha.fixed e.2.pool).1
    exact ⟨ha.size.symm ▸ (h.named e he).1, hname.trans (h.named e he).2⟩
  · rw [hregistry] at he
    exact (ha.closed_eq (hd e he)).trans (h.usable e he)
  · rw [hregistry, hclosed]
    exact h.flags
  · rw [hregistry]
    exact h.emptied (hclosed ▸ hc)

/-- Names may be taken back. -/
theorem erase (h : Proper s) (name : String) :
    Proper { s with
      registry := { s.registry with entries := s.registry.entries.erase name } } := by
  have hmem : ∀ e ∈ (s.registry.entries.erase name).entries,
      e ∈ s.registry.entries.entries := fun e he => (List.mem_filter.mp he).1
  refine ⟨Dictionary.names_nodup _, fun e he => h.named e (hmem e he),
    fun e he => h.usable e (hmem e he), h.flags, fun hc => ?_, h.kindred⟩
  exact List.eq_nil_iff_forall_not_mem.mpr fun e he => by
    have hold := hmem e he
    rw [h.emptied hc] at hold
    exact nomatch hold

end Proper

theorem pool_publishing_of_lt (hn : n < s.pools.size) :
    (s.publishing w name hash p).pool n = s.pool n := by
  simp [publishing, pool, Array.getD_eq_getD_getElem?, Array.getElem?_push_lt, hn]

theorem pool_publishing : (s.publishing w name hash p).pool s.pools.size = p := by
  simp [publishing, pool, Array.getD_eq_getD_getElem?]

/-- There is nothing in a pool that is not there. -/
theorem pool_of_size_le (hn : s.pools.size ≤ n) : s.pool n = default := by
  simp [pool, Array.getD_eq_getD_getElem?, hn]

theorem kindred_default : (default : Pool).Kindred :=
  have hfilled : Pool.InHands 0 (Filling.pool default []) [] [] := Pool.inHands_pool rfl
  ⟨hfilled.numbered, fun _ hx => (nomatch hx), .nil _⟩

/-- **A filled pool may be published under a name that is free.** -/
theorem Proper.publishing (h : Proper s) {b : Blueprint} {size : Nat} {timeout : Option Nat}
    (hp : Filled σ b size timeout p) (hb : b.name = name) (ho : s.registry.closed = false)
    (w : World σ) (hash : String) : Proper (s.publishing w name hash p) := by
  have hsize : (s.publishing w name hash p).pools.size = s.pools.size + 1 := Array.size_push p
  have hentries {e : String × Served}
      (he : e ∈ (s.publishing w name hash p).registry.entries.entries) :
      e = (name, ⟨hash, s.pools.size⟩) ∨ e ∈ s.registry.entries.entries :=
    Dictionary.mem_insertEntry he
  refine ⟨Dictionary.names_nodup _, fun e he => ?_, fun e he => ?_, h.flags, fun hc => ?_,
    fun n => ?_⟩
  · rcases hentries he with rfl | he
    · refine ⟨hsize ▸ Nat.lt_succ_self _, ?_⟩
      rw [pool_publishing]
      exact hp.counts.1.trans hb
    · obtain ⟨hlt, hname⟩ := h.named e he
      rw [pool_publishing_of_lt hlt]
      exact ⟨hsize ▸ Nat.lt_succ_of_lt hlt, hname⟩
  · rcases hentries he with rfl | he
    · rw [pool_publishing]
      exact hp.counts.2.2.2.2
    · rw [pool_publishing_of_lt (h.named e he).1]
      exact h.usable e he
  · exact nomatch (ho.symm.trans h.flags).trans hc
  · rcases Nat.lt_trichotomy n s.pools.size with hn | rfl | hn
    · rw [pool_publishing_of_lt hn]
      exact h.kindred n
    · rw [pool_publishing]
      exact Pool.kindred_of_filled hp
    · rw [pool_of_size_le (hsize ▸ hn)]
      exact kindred_default

/-! ## Turns -/

theorem registry_of_shut (hf : s.registry.closed = s.closed) (ho : s.closed = false) :
    s.shut.registry = { entries := .empty, closed := true } := by
  have hopen : s.registry.closed = false := hf.trans ho
  simp only [shut, ho, Registry.close, hopen, Bool.false_eq_true, if_false]
  rfl

theorem Proper.shut (h : Proper s) : Proper s.shut := by
  cases hc : s.closed with
  | true =>
    rw [Server.shut, hc]
    exact h.world _
  | false =>
    have hregistry := registry_of_shut h.flags hc
    have hpools : s.shut.pools = s.pools ∧ s.shut.closed = true := by
      rw [Server.shut, hc]
      exact ⟨rfl, rfl⟩
    refine ⟨?_, fun e he => ?_, fun e he => ?_, ?_, fun _ => ?_, fun n => ?_⟩
    · rw [hregistry]
      exact List.nodup_nil
    · rw [hregistry] at he
      exact (List.not_mem_nil he).elim
    · rw [hregistry] at he
      exact (List.not_mem_nil he).elim
    · rw [hregistry, hpools.2]
    · rw [hregistry]
      rfl
    · rw [pool, hpools.1]
      exact h.kindred n

/-- Shutting a server down is beginning to, and acting on its pools, all of which it closes. -/
theorem acts_shutDown (h : Proper s) (ho : s.closed = false) :
    Acts none (fun _ => True) s.shut s.shutDown.1 ∧
      ∀ e ∈ s.registry.entries.entries, (s.shutDown.1.pool e.2.pool).closed = true := by
  obtain ⟨hshutDown, hentries, hacts, hclosed⟩ :=
    Traffic.shutDown_eq ho fun e he => (h.named e he).1
  have hall : s.registry.close.2.getD [] = s.registry.entries.entries := by
    rw [Registry.close, h.flags.trans ho]
    rfl
  generalize hc : (s.registry.close.2.getD []).foldl (fun s e => s.closePool e.2.pool) s.shut =
    closed at hshutDown hacts hclosed
  have hdrains : ∀ d ∈ (s.registry.close.2.getD []).map closed.draining,
      d.pool < s.shut.pools.size ∧ (closed.pool d.pool).closed = true ∧ True := by
    intro d hd
    obtain ⟨e, he, rfl⟩ := List.mem_map.mp hd
    exact ⟨hentries e he, hclosed e he, trivial⟩
  rw [hshutDown]
  refine ⟨hacts.pollClose hdrains, fun e he => ?_⟩
  have hlook : Acts none (fun _ => True) closed (closed.pollClose _).1 :=
    Acts.refl.pollClose fun d hd => ⟨hacts.size.symm ▸ (hdrains d hd).1, (hdrains d hd).2⟩
  exact hlook.closed_of_closed (hclosed e (hall.symm ▸ he))

theorem shutDown_of_closed (hc : s.closed = true) :
    s.shutDown = (s.report (event .debug "Shutdown already performed" []), .ended .done) := by
  rw [shutDown, if_pos hc]

/-- **Unloading a module** is taking its name back, and draining its pool. -/
theorem acts_unload (h : Proper s) (name : String) :
    (s.lists name = false ∧ s.unload name = s.refuse (.moduleNotFound name)) ∨
      ∃ e ∈ s.registry.entries.entries, e.1 = name ∧ Acts none (fun n => n = e.2.pool)
        { s with registry := { s.registry with entries := s.registry.entries.erase name } }
        (s.unload name).1 := by
  rw [unload, Registry.remove]
  cases hfound : s.registry.entries.entries.find? (·.1 = name) with
  | none =>
    have hnone : s.registry.entries.find? name = none := by rw [Dictionary.find?, hfound]; rfl
    have hlists : s.lists name = false := by rw [lists, Dictionary.contains, hnone]; rfl
    simp only [hnone]
    exact .inl ⟨hlists, trivial⟩
  | some e =>
    have hsome : s.registry.entries.find? name = some e.2 := by
      rw [Dictionary.find?, hfound]
      rfl
    have hmem := List.mem_of_find?_eq_some hfound
    have hname : e.1 = name := by simpa using List.find?_some hfound
    have hk := (h.named e hmem).1
    simp only [hsome]
    let t : Server σ :=
      { s with registry := { s.registry with entries := s.registry.entries.erase name } }
    have hclose : Acts none (fun n => n = e.2.pool) t (t.closePool e.2.pool) :=
      Acts.refl.close hk rfl
    have hclosed : ((t.closePool e.2.pool).pool e.2.pool).closed = true :=
      congrArg Pool.closed (pool_after (s := t) hk)
    exact .inr ⟨e, hmem, hname, hclose.pollUnload hk hclosed rfl _⟩

/-- **A request acts on the pool of its module**, which is open. -/
theorem acts_execute {rounds : Nat} (h : Proper s) (name entrypoint : String) (payload : Bytes)
    (c : Context) : Acts none (fun _ => False) s (s.execute rounds name entrypoint payload c).1 := by
  unfold execute
  split
  · exact .refl
  · exact .refl
  · rename_i served _ hget
    have hk : served.pool < s.pools.size := (h.named _ (Registry.mem_of_get hget).2).1
    exact acts_checkout hk

end Server
end FunctionHost

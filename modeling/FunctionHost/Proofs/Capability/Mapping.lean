import FunctionHost.Proofs.Capability.KeyValue
import FunctionHost.Proofs.Guest.Request
import FunctionHost.Proofs.Json.Documents

/-!
# The key-value store is a map

A `Mapping` is all that a guest can know of the key-value store: what value there is under each key.
A request for the store changes the map as it says (`Mapping.after`), and what is answered depends on
the map alone (`Mapping.Answers`): a value, that there is none, nothing, or the keys in order.

One request at a time, the store holds the map and answers as the map does (`KeyValue.find?_apply`,
`KeyValue.answers_apply`), and no request for another namespace has anything to do with it
(`Router.store?_callback_of_ne`).  So a router whose store was empty at first answers any calls as the
map does that these calls have made (`Router.maps_of_empty`).
-/
namespace FunctionHost

/-- **A map** from keys to values. -/
abbrev Mapping := String → Option Bytes

/-- Whether a request sets a value under a key. -/
structure HostRequest.Sets (key : String) (value : Bytes) (r : HostRequest) : Prop where
  space : r.space = KeyValue.space
  operation : r.operation = "set"
  key : r.key = key
  payload : r.payload = value

/-- **Whether a value was the last to be set** under a key, and was not deleted since. -/
def LastSet (calls : List (Context × HostRequest)) (key : String) (value : Bytes) : Prop :=
  ∃ before c r later, calls = before ++ (c, r) :: later ∧ r.Sets key value ∧
    ∀ q ∈ later, q.2.IsUpdate → q.2.key ≠ key

namespace Mapping

variable {m : Mapping} {r : HostRequest} {c : Context} {key : String} {value : Bytes}
  {calls : List (Context × HostRequest)}

/-- **The map after a request.**  Without a key nothing is set or deleted. -/
def after (m : Mapping) (r : HostRequest) : Mapping :=
  if r.space = KeyValue.space ∧ r.key ≠ "" then
    match r.operation with
    | "set" => Function.update m r.key (some r.payload)
    | "delete" => Function.update m r.key none
    | _ => m
  else m

/-- The map after some calls; there is nothing in it at first. -/
def ofCalls (calls : List (Context × HostRequest)) : Mapping :=
  calls.foldl (fun m q => m.after q.2) fun _ => none

/-- The shape of a list of keys. -/
def keyList : Shape := .record "KeyList" [("keys", .listOf .text, none)]

/-- **What a map answers** to a request. -/
structure Answers (m : Mapping) (r : HostRequest) (reply : Reply) : Prop where
  /-- The value under the key, or that there is none. -/
  get : r.operation = "get" → r.key ≠ "" → reply = (m r.key).elim (.error (.notFound r.key)) .ok
  /-- Nothing. -/
  update : r.operation = "set" ∨ r.operation = "delete" → r.key ≠ "" → reply = .ok ByteArray.empty
  /-- A document with the keys there are, in order. -/
  keys : r.operation = "keys" → ∃ (document : Bytes) (names : List String),
    reply = .ok document ∧
    Json.read keyList document.toList = .ok (.record [("keys", .list (names.map .text))]) ∧
      names.Pairwise Text.Before ∧ ∀ key, key ∈ names ↔ (m key).isSome
  /-- An operation on a key needs one. -/
  noKey : r.operation ∈ ["get", "set", "delete"] → r.key = "" → reply = .error KeyValue.emptyKey
  /-- There are no other operations. -/
  unknown : r.operation ∉ ["get", "set", "delete", "keys"] →
    reply = .error (.unknownOperation KeyValue.space r.operation)

/-! ## What was set last -/

theorem ofCalls_snoc (calls : List (Context × HostRequest)) (c : Context) (r : HostRequest) :
    ofCalls (calls ++ [(c, r)]) = (ofCalls calls).after r := List.foldl_append

/-- What is no update changes nothing. -/
theorem after_of_not_update (h : ¬ r.IsUpdate) : m.after r = m := by
  unfold after
  split
  · rename_i hr
    split
    · rename_i hop
      exact absurd ⟨hr.1, .inl hop⟩ h
    · rename_i hop
      exact absurd ⟨hr.1, .inr hop⟩ h
    · rfl
  · rfl

theorem after_of_noKey (h : r.key = "") : m.after r = m := if_neg fun hr => hr.2 h

/-- An update says what there is under its key. -/
theorem after_of_update (h : r.IsUpdate) (hkey : r.key ≠ "") : m.after r =
    Function.update m r.key (if r.operation = "set" then some r.payload else none) := by
  rw [after, if_pos ⟨h.space, hkey⟩]
  rcases h.operation with hop | hop
  · rw [hop]
    rfl
  · rw [hop]
    rfl

theorem after_of_ne (h : key ≠ r.key) : m.after r key = m key := by
  by_cases hr : r.IsUpdate ∧ r.key ≠ ""
  · rw [after_of_update hr.1 hr.2, Function.update_of_ne h]
  · by_cases hkey : r.key = ""
    · rw [after_of_noKey hkey]
    · rw [after_of_not_update fun hu => hr ⟨hu, hkey⟩]

/-- **What there is under a key after a request** was set by it, or was there before and is not
touched by it. -/
theorem after_eq_some_iff (hkey : key ≠ "") : m.after r key = some value ↔
    r.Sets key value ∨ (r.IsUpdate → r.key ≠ key) ∧ m key = some value := by
  by_cases hr : r.IsUpdate ∧ r.key = key
  · obtain ⟨hr, rfl⟩ := hr
    rw [after_of_update hr hkey, Function.update_self]
    constructor
    · intro h
      split at h
      · rename_i hop
        exact .inl ⟨hr.space, hop, rfl, Option.some.inj h⟩
      · cases h
    · rintro (h | ⟨h, -⟩)
      · rw [if_pos h.operation, h.payload]
      · exact absurd rfl (h hr)
  · have huntouched : r.IsUpdate → r.key ≠ key := fun hu h => hr ⟨hu, h⟩
    have hsame : m.after r key = m key := by
      by_cases hu : r.IsUpdate
      · exact after_of_ne (huntouched hu).symm
      · rw [after_of_not_update hu]
    rw [hsame]
    constructor
    · exact fun h => .inr ⟨huntouched, h⟩
    · rintro (h | ⟨-, h⟩)
      · exact absurd ⟨⟨h.space, .inl h.operation⟩, h.key⟩ hr
      · exact h

theorem lastSet_snoc : LastSet (calls ++ [(c, r)]) key value ↔
    r.Sets key value ∨ (r.IsUpdate → r.key ≠ key) ∧ LastSet calls key value := by
  constructor
  · rintro ⟨before, c', r', later, heq, hset, hlater⟩
    rcases List.eq_nil_or_concat' later with rfl | ⟨rest, q, rfl⟩
    · have hlast := List.append_inj_right' heq rfl
      cases hlast
      exact .inl hset
    · rw [← List.cons_append, ← List.append_assoc] at heq
      have hlast := List.append_inj_right' heq rfl
      cases hlast
      exact .inr ⟨hlater _ (List.mem_append_right _ (List.mem_singleton_self _)), before, c', r', rest,
        List.append_inj_left' heq rfl, hset, fun q hq => hlater q (List.mem_append_left _ hq)⟩
  · rintro (hset | ⟨hr, before, c', r', later, rfl, hset, hlater⟩)
    · exact ⟨calls, c, r, [], rfl, hset, fun _ hq => nomatch hq⟩
    · refine ⟨before, c', r', later ++ [(c, r)], ?_, hset, fun q hq => ?_⟩
      · rw [List.append_assoc, List.cons_append]
      · rcases List.mem_append.mp hq with hq | hq
        · exact hlater q hq
        · cases List.mem_singleton.mp hq
          exact hr

/-- **What there is under a key** is what was set there last. -/
theorem ofCalls_eq_some_iff (hkey : key ≠ "") :
    ofCalls calls key = some value ↔ LastSet calls key value := by
  induction calls using List.reverseRecOn with
  | nil =>
    constructor
    · intro h
      cases h
    · rintro ⟨before, c, r, later, h, -⟩
      exact absurd h.symm (List.append_ne_nil_of_right_ne_nil _ (List.cons_ne_nil _ _))
  | append_singleton calls q ih => rw [ofCalls_snoc, lastSet_snoc, after_eq_some_iff hkey, ih]

/-- There is never anything without a key. -/
theorem ofCalls_noKey (calls : List (Context × HostRequest)) : ofCalls calls "" = none := by
  induction calls using List.reverseRecOn with
  | nil => rfl
  | append_singleton calls q ih =>
    obtain ⟨c, r⟩ := q
    rw [ofCalls_snoc]
    by_cases hkey : r.key = ""
    · rw [after_of_noKey hkey, ih]
    · rw [after_of_ne (Ne.symm hkey), ih]

end Mapping

/-! ## The store -/

namespace KeyValue

variable {store : KeyValue} {m : Mapping} {r : HostRequest}

theorem find?_updated : (store.updated r).entries.find? =
    Function.update store.entries.find? r.key
      (if r.operation = "set" then some r.payload else none) := by
  unfold updated
  split
  · exact Dictionary.find?_insert ..
  · exact Dictionary.find?_erase ..

/-- Nothing but an update changes the store. -/
theorem apply_of_not_update (hspace : r.space = space) (h : ¬ r.IsUpdate) :
    (store.apply r.operation r.key r.payload).1 = store := by
  unfold apply
  split
  · split
    · rfl
    · split <;> rfl
  · rename_i hop
    exact absurd ⟨hspace, .inl hop⟩ h
  · rename_i hop
    exact absurd ⟨hspace, .inr hop⟩ h
  · rfl
  · rfl

/-- **A request changes the store** as it changes the map. -/
theorem find?_apply (h : store.entries.find? = m) (hspace : r.space = space) :
    (store.apply r.operation r.key r.payload).1.entries.find? = m.after r := by
  by_cases hr : r.IsUpdate
  · rw [apply_update hr]
    by_cases hkey : r.key = ""
    · rw [if_pos (by rw [hkey]; rfl), Mapping.after_of_noKey hkey, h]
    · rw [if_neg (by simpa using hkey), Mapping.after_of_update hr hkey, find?_updated, h]
  · rw [apply_of_not_update hspace hr, Mapping.after_of_not_update hr, h]

/-- The keys of the store, as they are read from the document that lists them. -/
theorem read_keyList (store : KeyValue) : Json.read Mapping.keyList store.keyList.toBytes.toList =
    .ok (.record [("keys", .list (store.entries.names.map .text))]) :=
  Json.read_texts "KeyList" "keys" store.entries.names

/-- **The store answers** as the map does. -/
theorem answers_apply (h : store.entries.find? = m) (hspace : r.space = space) :
    m.Answers r (store.apply r.operation r.key r.payload).2 where
  get := by
    intro hop hkey
    have hempty : r.key.isEmpty = false := by simpa using hkey
    rw [← h]
    simp only [apply, hop, hempty]
    cases store.entries.find? r.key <;> rfl
  update := by
    intro hop hkey
    have hempty : ¬ r.key.isEmpty = true := by simpa using hkey
    rw [apply_update ⟨hspace, hop⟩, if_neg hempty]
  keys := by
    intro hop
    refine ⟨store.keyList.toBytes, store.entries.names, ?_, store.read_keyList,
      store.entries.names_ordered, fun key => ?_⟩
    · simp only [apply, hop]
    · rw [← h]
      exact Dictionary.mem_names_iff
  noKey := by
    intro hop hkey
    have hempty : r.key.isEmpty = true := by rw [hkey]; rfl
    simp only [List.mem_cons, List.not_mem_nil, or_false] at hop
    rcases hop with hop | hop | hop <;> simp only [apply, hop, hempty, if_true]
  unknown := by
    intro hop
    simp only [List.mem_cons, List.not_mem_nil, not_or] at hop
    obtain ⟨hget, hset, hdelete, hkeys, -⟩ := hop
    -- The four operations that there are have been ruled out.
    unfold apply
    split
    · contradiction
    · contradiction
    · contradiction
    · contradiction
    · rfl

/-- **What is refused changes nothing.** -/
theorem apply_of_error {e : CallbackError} (hspace : r.space = space)
    (h : (store.apply r.operation r.key r.payload).2 = .error e) :
    (store.apply r.operation r.key r.payload).1 = store := by
  by_cases hr : r.IsUpdate
  · rw [apply_update hr] at h ⊢
    by_cases hkey : r.key.isEmpty
    · rw [if_pos hkey]
    · rw [if_neg hkey] at h
      cases h
  · exact apply_of_not_update hspace hr

end KeyValue

/-! ## The router -/

namespace Router

variable {router : Router} {store : KeyValue} {m : Mapping} {r : HostRequest}

/-- Whether a router has a store and what is in it. -/
def Holds (router : Router) (m : Mapping) : Prop :=
  ∃ store, router.store? = some store ∧ store.entries.find? = m

/-- **How a router answers some calls as a map does**, one after another.

* In the end the store holds the map that the calls have made (`holds`).
* Under a key there is the value that was the last to be set there and was not deleted since; nothing
  is ever there without a key (`last`).
* Each request for the store is answered from the map that the calls before it have made
  (`answers`), and if it is refused nothing is changed (`refused`). -/
structure Maps (router : Router) (calls : List (Context × HostRequest)) : Prop where
  holds : (Callback.after callback router calls).Holds (.ofCalls calls)
  last : ∀ before, before <+: calls → ∀ key value,
    Mapping.ofCalls before key = some value ↔ key ≠ "" ∧ LastSet before key value
  answers : ∀ before c r later, calls = before ++ (c, r) :: later → r.space = KeyValue.space →
    (Mapping.ofCalls before).Answers r (callback c r (Callback.after callback router before)).reply
  refused : ∀ before c r later, calls = before ++ (c, r) :: later → r.space = KeyValue.space →
    ∀ e, (callback c r (Callback.after callback router before)).reply = .error e →
      (callback c r (Callback.after callback router before)).state =
        Callback.after callback router before

/-- **A request for another namespace** leaves the store alone. -/
theorem store?_callback_of_ne (h : r.space ≠ KeyValue.space) (c : Context) :
    (callback c r router).state.store? = router.store? := by
  unfold callback
  split
  · rfl
  · rw [Answer.map, store?, store?, Dictionary.find?_insert_of_ne (Ne.symm h)]

/-- **A call changes what is in the store** as it changes the map. -/
theorem Holds.callback (h : router.Holds m) (c : Context) (r : HostRequest) :
    (callback c r router).state.Holds (m.after r) := by
  obtain ⟨store, hstore, hm⟩ := h
  by_cases hspace : r.space = KeyValue.space
  · refine ⟨_, ?_, KeyValue.find?_apply hm hspace⟩
    rw [(callback_of_space hstore hspace c).2.1, store?_withStore]
  · have hsame : m.after r = m := Mapping.after_of_not_update fun hu => hspace hu.space
    exact ⟨store, (store?_callback_of_ne hspace c).trans hstore, hm.trans hsame.symm⟩

/-- **Calls change what is in the store** as they change the map. -/
theorem holds_after (h : router.store? = some {}) (calls : List (Context × HostRequest)) :
    (Callback.after Router.callback router calls).Holds (.ofCalls calls) := by
  induction calls using List.reverseRecOn with
  | nil => exact ⟨{}, h, rfl⟩
  | append_singleton calls q ih =>
    obtain ⟨c, r⟩ := q
    rw [Mapping.ofCalls_snoc, Callback.after, List.foldl_append]
    exact ih.callback c r

/-- **A router whose store is empty** answers all calls as a map does. -/
theorem maps_of_empty (h : router.store? = some {}) (calls : List (Context × HostRequest)) :
    router.Maps calls where
  holds := holds_after h calls
  last := by
    intro before _ key value
    by_cases hkey : key = ""
    · subst hkey
      rw [Mapping.ofCalls_noKey]
      simp
    · rw [Mapping.ofCalls_eq_some_iff hkey]
      exact (and_iff_right hkey).symm
  answers := by
    intro before c r later _ hspace
    obtain ⟨store, hstore, hm⟩ := holds_after h before
    rw [(callback_of_space hstore hspace c).2.2]
    exact KeyValue.answers_apply hm hspace
  refused := by
    intro before c r later _ hspace e he
    obtain ⟨store, hstore, -⟩ := holds_after h before
    obtain ⟨-, hstate, hreply⟩ := callback_of_space hstore hspace c
    rw [hstate, KeyValue.apply_of_error hspace (hreply.symm.trans he), withStore_of_store? hstore]

end Router
end FunctionHost

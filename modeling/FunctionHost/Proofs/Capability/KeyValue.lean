import FunctionHost.Capability.Router
import FunctionHost.Proofs.Dictionary

/-!
# Updates of the key-value store

A guest updates the store by `set` and by `delete`.  An update under an empty key is refused and
changes nothing at all; any other one is made when the router is asked, and answered with nothing,
at once (`Router.callback_update`).  So whether an update was made is known as soon as it is asked
for, and its answer takes no room.
-/
namespace FunctionHost

/-! ## Updates -/

/-- **Whether a request is for an update** of the store. -/
structure HostRequest.IsUpdate (r : HostRequest) : Prop where
  space : r.space = KeyValue.space
  operation : r.operation = "set" ∨ r.operation = "delete"

namespace KeyValue

variable {store : KeyValue} {r : HostRequest}

/-- **The store once an update is made.** -/
def updated (store : KeyValue) (r : HostRequest) : KeyValue :=
  if r.operation = "set" then ⟨store.entries.insert r.key r.payload⟩
  else ⟨store.entries.erase r.key⟩

/-- An update is made and answered with nothing, unless its key is empty. -/
theorem apply_update (h : r.IsUpdate) :
    store.apply r.operation r.key r.payload =
      if r.key.isEmpty then (store, .error emptyKey)
      else (store.updated r, .ok ByteArray.empty) := by
  rcases h.operation with hop | hop <;> simp [apply, updated, hop]

end KeyValue

namespace Router

variable {router : Router} {store : KeyValue} {r : HostRequest}

/-- The key-value store of a router, if it has one. -/
def store? (router : Router) : Option KeyValue :=
  match router.capabilities.find? KeyValue.space with
  | some (.keyValue store) => some store
  | _ => none

/-- The router with another store. -/
def withStore (router : Router) (store : KeyValue) : Router :=
  ⟨router.capabilities.insert KeyValue.space (.keyValue store)⟩

theorem find?_of_store? (h : router.store? = some store) :
    router.capabilities.find? KeyValue.space = some (.keyValue store) := by
  unfold store? at h
  split at h
  · rename_i hfound
    rw [hfound, Option.some.inj h]
  · cases h

@[simp] theorem store?_withStore (router : Router) (store : KeyValue) :
    (router.withStore store).store? = some store := by
  rw [store?, withStore, Dictionary.find?_insert_self]

/-- A router with the store that it has is the same router. -/
theorem withStore_of_store? (h : router.store? = some store) : router.withStore store = router := by
  rw [withStore, Dictionary.insert_of_find? (find?_of_store? h)]

/-- **A request for the store** is the store's affair, and answered at once. -/
theorem callback_of_space (hstore : router.store? = some store) (h : r.space = KeyValue.space)
    (c : Context) :
    (callback c r router).delay = 0 ∧
      (callback c r router).state =
        router.withStore (store.apply r.operation r.key r.payload).1 ∧
      (callback c r router).reply = (store.apply r.operation r.key r.payload).2 := by
  have hfound := find?_of_store? hstore
  simp only [callback, h, hfound, Capability.callback, KeyValue.callback, Answer.map]
  exact ⟨trivial, rfl, trivial⟩

/-- **What an update does**: it is made and answered with nothing, unless its key is empty; then
nothing is changed.  The answer is there at once. -/
theorem callback_update (hstore : router.store? = some store) (h : r.IsUpdate) (c : Context) :
    (callback c r router).delay = 0 ∧
      if r.key.isEmpty then
        (callback c r router).state = router ∧
          (callback c r router).reply = .error KeyValue.emptyKey
      else
        (callback c r router).state = router.withStore (store.updated r) ∧
          (callback c r router).reply = .ok ByteArray.empty := by
  obtain ⟨hdelay, hstate, hreply⟩ := callback_of_space hstore h.space c
  rw [hstate, hreply, KeyValue.apply_update h]
  refine ⟨hdelay, ?_⟩
  split
  · exact ⟨withStore_of_store? hstore, rfl⟩
  · exact ⟨rfl, rfl⟩

end Router
end FunctionHost

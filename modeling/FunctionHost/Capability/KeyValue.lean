import FunctionHost.Callback
import FunctionHost.Dictionary
import FunctionHost.Json.Value
/-!
# The key-value capability

Guests share one store of byte strings under non-empty keys.  An operation reads or changes the
store as soon as it is asked for; one that is refused leaves the store alone.
-/
namespace FunctionHost

/-- **A key-value store.** -/
structure KeyValue where
  /-- What is stored. -/
  entries : Dictionary Bytes := .empty
  deriving Inhabited

namespace KeyValue

/-- The namespace under which guests find the store. -/
def space : String := "kvstore"

/-- The document that lists the keys. -/
def keyList (store : KeyValue) : Json :=
  .record [("keys", .list (store.entries.names.map .text))]

/-- The refusal of an empty key. -/
def emptyKey : CallbackError := .invalidArgument "key must not be empty"

/-- **An operation**: the store afterwards and the outcome. -/
def apply (store : KeyValue) (operation key : String) (payload : Bytes) : KeyValue × Reply :=
  match operation with
  | "get" =>
    if key.isEmpty then (store, .error emptyKey)
    else
      match store.entries.find? key with
      | some value => (store, .ok value)
      | none => (store, .error (.notFound key))
  | "set" =>
    if key.isEmpty then (store, .error emptyKey)
    else (⟨store.entries.insert key payload⟩, .ok ByteArray.empty)
  | "delete" =>
    if key.isEmpty then (store, .error emptyKey)
    else (⟨store.entries.erase key⟩, .ok ByteArray.empty)
  | "keys" => (store, .ok store.keyList.toBytes)
  | other => (store, .error (.unknownOperation space other))

/-- The capability. -/
def callback : Callback KeyValue := fun c r store =>
  let (store, reply) := store.apply r.operation r.key r.payload
  { state := store
    reply := reply
    events := [{
      target := "capsule_host::kvstore"
      level := .debug
      message := "kvstore call"
      fields := [("request_id", .text c.request.shown), ("operation", .text r.operation),
        ("key", .text r.key)] }] }

end KeyValue
end FunctionHost

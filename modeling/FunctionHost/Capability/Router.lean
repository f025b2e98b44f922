import FunctionHost.Capability.HttpClient
import FunctionHost.Capability.KeyValue
import FunctionHost.Capability.Log
import FunctionHost.Capability.Probe
/-!
# The router

Capabilities by namespace.  A host call goes to the capability of its namespace; each capability
keeps its own state, which no call to another one touches.
-/
namespace FunctionHost

/-- **A capability** together with its state. -/
inductive Capability where
  /-- The key-value store. -/
  | keyValue (store : KeyValue)
  /-- The log. -/
  | log
  /-- The client of HTTP. -/
  | httpClient (client : HttpClient)
  /-- The probe. -/
  | probe (probe : Probe)
  /-- A capability that answers every request with a label and what was asked. -/
  | labelled (space label : String)
  deriving Inhabited

namespace Capability

/-- The namespace that the capability serves. -/
def space : Capability → String
  | .keyValue _ => KeyValue.space
  | .log => Log.space
  | .httpClient _ => HttpClient.space
  | .probe _ => Probe.space
  | .labelled space _ => space

/-- The answer of a labelled capability: label, operation and key, each with a colon, and the
payload. -/
def labelledReply (label : String) (r : HostRequest) : Bytes :=
  Bytes.ofText (label ++ ":" ++ r.operation ++ ":" ++ r.key ++ ":") ++ r.payload

/-- A capability as a callback. -/
def callback : Callback Capability := fun c r capability =>
  match capability with
  | .keyValue store => (KeyValue.callback c r store).map .keyValue
  | .log => (Log.callback c r ()).map fun _ => .log
  | .httpClient client => (HttpClient.callback c r client).map .httpClient
  | .probe state => (Probe.callback c r state).map .probe
  | .labelled space label =>
    { state := .labelled space label, reply := .ok (labelledReply label r) }

end Capability

/-- **A router.** -/
structure Router where
  /-- The capabilities by namespace. -/
  capabilities : Dictionary Capability := .empty
  deriving Inhabited

namespace Router

/-- The report that a capability was registered. -/
def registered (space : String) : Event :=
  { target := "capsule_host::router"
    level := .debug
    message := "Capability registered"
    fields := [("namespace", .text space)] }

/-- The router with a capability in place of the one that had its namespace; that one is handed
back. -/
def register (r : Router) (c : Capability) : Router × Option Capability :=
  (⟨r.capabilities.insert c.space c⟩, r.capabilities.find? c.space)

/-- The router with some capabilities, registered in order. -/
def ofList (capabilities : List Capability) : Router :=
  capabilities.foldl (fun r c => (r.register c).1) {}

/-- The namespaces that are served, in order. -/
def namespaces (r : Router) : List String := r.capabilities.names

/-- Whether a namespace is served. -/
def contains (r : Router) (space : String) : Bool := r.capabilities.contains space

/-- The router, as diagnostics show it. -/
def shown (r : Router) : String :=
  Text.record "CapabilityRouter" [("namespaces", Text.list (r.namespaces.map Text.quoted))]

/-- **The router as a callback.** -/
def callback : Callback Router := fun c request r =>
  match r.capabilities.find? request.space with
  | none => { state := r, reply := .error (.unknownNamespace request.space) }
  | some capability =>
    (capability.callback c request).map fun changed =>
      ⟨r.capabilities.insert request.space changed⟩

end Router
end FunctionHost

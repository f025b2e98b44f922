import FunctionHost.Settings.Host
import FunctionHost.Text.Blank
/-!
# Settings files

A settings file holds the settings of the host, those of its capabilities and the modules to load
at the start.  `validate` accepts a file whose modules have names, room for instances and no name
in common; otherwise it reports the first module that offends.
-/
namespace FunctionHost

/-- **Settings of the capability that sends requests over HTTP.** -/
structure HttpSettings where
  /-- Whether guests may use it. -/
  enabled : Bool := true
  /-- Seconds that a request may take. -/
  timeoutSecs : UInt64 := 30
  /-- Seconds that connecting may take. -/
  connectTimeoutSecs : UInt64 := 10
  /-- Bytes that the body of a response may have. -/
  maxBodyBytes : UInt64 := 10485760
  deriving DecidableEq, Repr, Inhabited

namespace HttpSettings

/-- The settings as a document. -/
def document (s : HttpSettings) : Json := .record [
  ("enabled", .bool s.enabled),
  ("timeout_secs", .nat s.timeoutSecs.toNat),
  ("connect_timeout_secs", .nat s.connectTimeoutSecs.toNat),
  ("max_body_bytes", .nat s.maxBodyBytes.toNat)]

/-- What a document of these settings looks like. -/
def shape : Shape :=
  let standard : HttpSettings := {}
  .record "HttpClientConfig" [
    ("enabled", .flag, some (.bool standard.enabled)),
    ("timeout_secs", .u64, some (.nat standard.timeoutSecs.toNat)),
    ("connect_timeout_secs", .u64, some (.nat standard.connectTimeoutSecs.toNat)),
    ("max_body_bytes", .usize, some (.nat standard.maxBodyBytes.toNat))]

/-- The settings that a document of their shape holds. -/
def ofDocument (d : Json) : HttpSettings where
  enabled := (d.child "enabled").asFlag
  timeoutSecs := .ofNat (d.child "timeout_secs").asNat
  connectTimeoutSecs := .ofNat (d.child "connect_timeout_secs").asNat
  maxBodyBytes := .ofNat (d.child "max_body_bytes").asNat

end HttpSettings

/-- Whether a capability without further settings is offered. -/
structure Toggle where
  /-- Whether guests may use it. -/
  enabled : Bool := true
  deriving DecidableEq, Repr, Inhabited

namespace Toggle

/-- The setting as a document. -/
def document (s : Toggle) : Json := .record [("enabled", .bool s.enabled)]

/-- What a document of the setting looks like. -/
def shape : Shape :=
  let standard : Toggle := {}
  .record "ToggleConfig" [("enabled", .flag, some (.bool standard.enabled))]

/-- The setting that a document of its shape holds. -/
def ofDocument (d : Json) : Toggle where
  enabled := (d.child "enabled").asFlag

end Toggle

/-- **Which capabilities guests may use.** -/
structure CapabilitySettings where
  /-- Requests over HTTP. -/
  httpClient : HttpSettings := {}
  /-- The key-value store. -/
  kvStore : Toggle := {}
  /-- The log. -/
  logger : Toggle := {}
  deriving DecidableEq, Repr, Inhabited

namespace CapabilitySettings

/-- The settings as a document. -/
def document (s : CapabilitySettings) : Json := .record [
  ("httpclient", s.httpClient.document),
  ("kvstore", s.kvStore.document),
  ("logger", s.logger.document)]

/-- What a document of these settings looks like. -/
def shape : Shape :=
  let standard : CapabilitySettings := {}
  .record "CapabilitiesConfig" [
    ("httpclient", HttpSettings.shape, some standard.httpClient.document),
    ("kvstore", Toggle.shape, some standard.kvStore.document),
    ("logger", Toggle.shape, some standard.logger.document)]

/-- The settings that a document of their shape holds. -/
def ofDocument (d : Json) : CapabilitySettings where
  httpClient := .ofDocument (d.child "httpclient")
  kvStore := .ofDocument (d.child "kvstore")
  logger := .ofDocument (d.child "logger")

end CapabilitySettings

/-- **A module to load.** -/
structure ModuleEntry where
  /-- The name to load it under. -/
  name : String
  /-- The file that holds it. -/
  path : String
  /-- How many instances to keep, if the entry says. -/
  poolSize : Option UInt64 := none
  deriving DecidableEq, Repr, Inhabited

namespace ModuleEntry

/-- The entry as a document. -/
def document (e : ModuleEntry) : Json := .record [
  ("name", .text e.name),
  ("path", .text e.path),
  ("pool_size", match e.poolSize with | none => .null | some n => .nat n.toNat)]

/-- What a document of an entry looks like. -/
def shape : Shape :=
  .record "ModuleEntry" [
    ("name", .text, none),
    ("path", .text, none),
    ("pool_size", .optional .usize, some .null)]

/-- The entry that a document of its shape holds. -/
def ofDocument (d : Json) : ModuleEntry where
  name := (d.child "name").asText
  path := (d.child "path").asText
  poolSize := match d.child "pool_size" with | .null => none | found => some (.ofNat found.asNat)

end ModuleEntry

/-- **A settings file.** -/
structure SettingsFile where
  /-- The settings of the host. -/
  runtime : HostSettings := {}
  /-- The settings of its capabilities. -/
  capabilities : CapabilitySettings := {}
  /-- The modules to load, in order. -/
  modules : List ModuleEntry := []
  deriving DecidableEq, Repr, Inhabited

/-- What is wrong with a settings file. -/
inductive SettingsError where
  /-- The file cannot be read. -/
  | unreadable (path cause : String)
  /-- The file is not what a settings file looks like. -/
  | malformed (reason : String)
  /-- A module entry is not usable. -/
  | invalidModule (name reason : String)
  deriving DecidableEq, Repr

/-- The wording of the error. -/
def SettingsError.message : SettingsError → String
  | .unreadable path cause => "Failed to read config file '" ++ path ++ "': " ++ cause
  | .malformed reason => "Failed to parse config file: " ++ reason
  | .invalidModule name reason => "Invalid module entry '" ++ name ++ "': " ++ reason

namespace SettingsFile

/-- The file as a document. -/
def document (f : SettingsFile) : Json := .record [
  ("runtime", f.runtime.document),
  ("capabilities", f.capabilities.document),
  ("modules", .list (f.modules.map ModuleEntry.document))]

/-- What a settings file looks like. -/
def shape : Shape :=
  let standard : SettingsFile := {}
  .record "ConfigFile" [
    ("runtime", HostSettings.shape, some standard.runtime.document),
    ("capabilities", CapabilitySettings.shape, some standard.capabilities.document),
    ("modules", .listOf ModuleEntry.shape, some (.list []))]

/-- The file that a document of its shape holds. -/
def ofDocument (d : Json) : SettingsFile where
  runtime := .ofDocument (d.child "runtime")
  capabilities := .ofDocument (d.child "capabilities")
  modules := (d.child "modules").asList.map .ofDocument

/-- What is wrong with an entry, given the names before it. -/
def offence (earlier : List String) (e : ModuleEntry) : Option String :=
  if Text.blank e.name then some "name must not be empty"
  else if e.poolSize = some 0 then some "pool_size must be greater than zero"
  else if e.name ∈ earlier then some "declared more than once"
  else none

/-- Accepts entries none of which offends, given the names before them. -/
def validateFrom (earlier : List String) : List ModuleEntry → Except SettingsError Unit
  | [] => .ok ()
  | e :: rest =>
    match offence earlier e with
    | some reason => .error (.invalidModule e.name reason)
    | none => validateFrom (e.name :: earlier) rest

/-- **Accepts a file** none of whose modules offends. -/
def validate (f : SettingsFile) : Except SettingsError Unit := validateFrom [] f.modules

end SettingsFile
end FunctionHost

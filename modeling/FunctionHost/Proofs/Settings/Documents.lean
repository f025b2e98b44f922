import FunctionHost.Proofs.Json.Overlay
import FunctionHost.Settings.File

/-!
# Settings in documents

Settings of a host and settings files are read back from the documents that are written for them,
and what is deleted from such a document is read as its default.  So a document only has to name
what differs from the defaults, at any depth: a member of a section, a whole section, or the number
of instances of a module.  The names and the paths of modules have no defaults and stay.

Each section says what is left of its settings (`overlay`), member by member, and is read as that
(`readsAs_document`).
-/
namespace FunctionHost

open Json (Deletion Step)
open Json.Reader

/-! ## Settings of a host -/

namespace EngineSettings

/-- **The settings with their defaults** where they are deleted. -/
def overlay (gone : Deletion) (s : EngineSettings) : EngineSettings :=
  let standard : EngineSettings := {}
  { poolingAllocator :=
      gone.restore "pooling_allocator" standard.poolingAllocator s.poolingAllocator
    maxInstances := gone.restore "max_instances" standard.maxInstances s.maxInstances
    instanceMemoryMb :=
      gone.restore "instance_memory_mb" standard.instanceMemoryMb s.instanceMemoryMb
    epochInterruption :=
      gone.restore "epoch_interruption" standard.epochInterruption s.epochInterruption
    epochTickMs := gone.restore "epoch_tick_ms" standard.epochTickMs s.epochTickMs }

theorem readsAs_document (gone : Deletion) (s : EngineSettings) :
    ReadsAs (value shape) (s.document.without gone) (s.overlay gone).document :=
  readsAs_without
    (.cons (restored_flag ..) <| .cons (restored_u32 ..) <| .cons (restored_u32 ..) <|
      .cons (restored_flag ..) <| .cons (restored_u64 ..) .nil)
    (by decide) "EngineConfig"

theorem ofDocument_document (s : EngineSettings) : ofDocument s.document = s := by
  simp [ofDocument, document, Json.child, Json.member?, Json.asFlag, Json.asNat, Json.nat]

end EngineSettings

namespace ExecutionSettings

/-- **The settings with their defaults** where they are deleted. -/
def overlay (gone : Deletion) (s : ExecutionSettings) : ExecutionSettings :=
  let standard : ExecutionSettings := {}
  { maxFuel := gone.restore "max_fuel" standard.maxFuel s.maxFuel
    fuelMetering := gone.restore "fuel_metering" standard.fuelMetering s.fuelMetering
    timeoutMs := gone.restore "timeout_ms" standard.timeoutMs s.timeoutMs
    maxMemoryMb := gone.restore "max_memory_mb" standard.maxMemoryMb s.maxMemoryMb
    allocateExport := gone.restore "allocate_export" standard.allocateExport s.allocateExport
    wasi := gone.restore "wasi" standard.wasi s.wasi
    inheritStdio := gone.restore "inherit_stdio" standard.inheritStdio s.inheritStdio }

theorem readsAs_document (gone : Deletion) (s : ExecutionSettings) :
    ReadsAs (value shape) (s.document.without gone) (s.overlay gone).document :=
  readsAs_without
    (.cons (restored_u64 ..) <| .cons (restored_flag ..) <| .cons (restored_u64 ..) <|
      .cons (restored_u32 ..) <| .cons (restored_text ..) <| .cons (restored_flag ..) <|
      .cons (restored_flag ..) .nil)
    (by decide) "ExecutionConfig"

theorem ofDocument_document (s : ExecutionSettings) : ofDocument s.document = s := by
  simp [ofDocument, document, Json.child, Json.member?, Json.asFlag, Json.asNat, Json.asText,
    Json.nat]

end ExecutionSettings

namespace PoolSettings

/-- **The settings with their defaults** where they are deleted. -/
def overlay (gone : Deletion) (s : PoolSettings) : PoolSettings :=
  let standard : PoolSettings := {}
  { defaultSize := gone.restore "default_size" standard.defaultSize s.defaultSize
    checkoutTimeoutMs :=
      gone.restore "checkout_timeout_ms" standard.checkoutTimeoutMs s.checkoutTimeoutMs
    drainTimeoutMs := gone.restore "drain_timeout_ms" standard.drainTimeoutMs s.drainTimeoutMs }

theorem readsAs_document (gone : Deletion) (s : PoolSettings) :
    ReadsAs (value shape) (s.document.without gone) (s.overlay gone).document :=
  readsAs_without
    (.cons (restored_usize ..) <| .cons (restored_u64 ..) <| .cons (restored_u64 ..) .nil)
    (by decide) "PoolConfig"

theorem ofDocument_document (s : PoolSettings) : ofDocument s.document = s := by
  simp [ofDocument, document, Json.child, Json.member?, Json.asNat, Json.nat]

end PoolSettings

namespace HostSettings

/-- **The settings with their defaults** where they, or their sections, are deleted. -/
def overlay (gone : Deletion) (s : HostSettings) : HostSettings where
  engine := gone.restore "engine" {} (s.engine.overlay (gone.inside (.member "engine")))
  execution :=
    gone.restore "execution" {} (s.execution.overlay (gone.inside (.member "execution")))
  pool := gone.restore "pool" {} (s.pool.overlay (gone.inside (.member "pool")))

theorem readsAs_document (gone : Deletion) (s : HostSettings) :
    ReadsAs (value shape) (s.document.without gone) (s.overlay gone).document :=
  readsAs_without
    (.cons (restored EngineSettings.document {} fun _ => s.engine.readsAs_document _) <|
      .cons (restored ExecutionSettings.document {} fun _ => s.execution.readsAs_document _) <|
      .cons (restored PoolSettings.document {} fun _ => s.pool.readsAs_document _) .nil)
    (by decide) "RuntimeConfig"

theorem ofDocument_document (s : HostSettings) : ofDocument s.document = s := by
  simp [ofDocument, document, Json.child, Json.member?, EngineSettings.ofDocument_document,
    ExecutionSettings.ofDocument_document, PoolSettings.ofDocument_document]

/-- **The settings that bytes hold**, or why they hold none. -/
def parse (bytes : Bytes) : Except String HostSettings :=
  (Json.read shape bytes.toList).map ofDocument

/-- **What is left of settings is read** with the defaults of what is deleted. -/
theorem parse_without (gone : Deletion) (s : HostSettings) :
    parse (s.document.without gone).toBytes = .ok (s.overlay gone) := by
  rw [parse, Json.read_of_readsAs (s.readsAs_document gone), Except.map, ofDocument_document]

theorem parse_document (s : HostSettings) : parse s.document.toBytes = .ok s := by
  have h := parse_without .nothing s
  rwa [Json.without_nothing] at h

end HostSettings

/-! ## Settings files -/

namespace HttpSettings

/-- **The settings with their defaults** where they are deleted. -/
def overlay (gone : Deletion) (s : HttpSettings) : HttpSettings :=
  let standard : HttpSettings := {}
  { enabled := gone.restore "enabled" standard.enabled s.enabled
    timeoutSecs := gone.restore "timeout_secs" standard.timeoutSecs s.timeoutSecs
    connectTimeoutSecs :=
      gone.restore "connect_timeout_secs" standard.connectTimeoutSecs s.connectTimeoutSecs
    maxBodyBytes := gone.restore "max_body_bytes" standard.maxBodyBytes s.maxBodyBytes }

theorem readsAs_document (gone : Deletion) (s : HttpSettings) :
    ReadsAs (value shape) (s.document.without gone) (s.overlay gone).document :=
  readsAs_without
    (.cons (restored_flag ..) <| .cons (restored_u64 ..) <| .cons (restored_u64 ..) <|
      .cons (restored_usize ..) .nil)
    (by decide) "HttpClientConfig"

theorem ofDocument_document (s : HttpSettings) : ofDocument s.document = s := by
  simp [ofDocument, document, Json.child, Json.member?, Json.asFlag, Json.asNat, Json.nat]

end HttpSettings

namespace Toggle

/-- **The setting with its default** where it is deleted. -/
def overlay (gone : Deletion) (s : Toggle) : Toggle :=
  let standard : Toggle := {}
  { enabled := gone.restore "enabled" standard.enabled s.enabled }

theorem readsAs_document (gone : Deletion) (s : Toggle) :
    ReadsAs (value shape) (s.document.without gone) (s.overlay gone).document :=
  readsAs_without (.cons (restored_flag ..) .nil) (by decide) "ToggleConfig"

theorem ofDocument_document (s : Toggle) : ofDocument s.document = s := rfl

end Toggle

namespace CapabilitySettings

/-- **The settings with their defaults** where they, or their sections, are deleted. -/
def overlay (gone : Deletion) (s : CapabilitySettings) : CapabilitySettings where
  httpClient :=
    gone.restore "httpclient" {} (s.httpClient.overlay (gone.inside (.member "httpclient")))
  kvStore := gone.restore "kvstore" {} (s.kvStore.overlay (gone.inside (.member "kvstore")))
  logger := gone.restore "logger" {} (s.logger.overlay (gone.inside (.member "logger")))

theorem readsAs_document (gone : Deletion) (s : CapabilitySettings) :
    ReadsAs (value shape) (s.document.without gone) (s.overlay gone).document :=
  readsAs_without
    (.cons (restored HttpSettings.document {} fun _ => s.httpClient.readsAs_document _) <|
      .cons (restored Toggle.document {} fun _ => s.kvStore.readsAs_document _) <|
      .cons (restored Toggle.document {} fun _ => s.logger.readsAs_document _) .nil)
    (by decide) "CapabilitiesConfig"

theorem ofDocument_document (s : CapabilitySettings) : ofDocument s.document = s := by
  simp [ofDocument, document, Json.child, Json.member?, HttpSettings.ofDocument_document,
    Toggle.ofDocument_document]

end CapabilitySettings

namespace ModuleEntry

/-- **The entry without its number of instances** where that is deleted. -/
def overlay (gone : Deletion) (e : ModuleEntry) : ModuleEntry :=
  { e with poolSize := gone.restore "pool_size" none e.poolSize }

/-- A number of instances as a document. -/
def sizeDocument : Option UInt64 → Json
  | none => .null
  | some n => .nat n.toNat

theorem readsAs_sizeDocument (gone : Deletion) (size : Option UInt64) :
    ReadsAs (value (.optional .usize)) ((sizeDocument size).without gone) (sizeDocument size) := by
  cases size with
  | none => exact readsAs_optional_null .usize
  | some n => exact readsAs_optional_nat (readsAs_usize n)

theorem document_eq (e : ModuleEntry) : e.document = .record [
    ("name", .text e.name), ("path", .text e.path), ("pool_size", sizeDocument e.poolSize)] := by
  obtain ⟨name, path, size⟩ := e
  cases size <;> rfl

theorem readsAs_document {gone : Deletion} (hname : gone.of "name" = false)
    (hpath : gone.of "path" = false) (e : ModuleEntry) :
    ReadsAs (value shape) (e.document.without gone) (e.overlay gone).document := by
  rw [document_eq, document_eq]
  exact readsAs_without
    (.cons (restored_required hname e.name) <| .cons (restored_required hpath e.path) <|
      .cons (restored sizeDocument none fun _ => readsAs_sizeDocument _ e.poolSize) .nil)
    (by decide) "ModuleEntry"

theorem ofDocument_document (e : ModuleEntry) : ofDocument e.document = e := by
  obtain ⟨name, path, size⟩ := e
  cases size <;>
    simp [ofDocument, document, Json.child, Json.member?, Json.asText, Json.asNat, Json.nat]

end ModuleEntry

namespace SettingsFile

/-- What is deleted from the entry of a module. -/
def inEntry (gone : Deletion) (index : Nat) : Deletion :=
  (gone.inside (.member "modules")).inside (.item index)

/-- **The file with its defaults** where they, or their sections, are deleted. -/
def overlay (gone : Deletion) (f : SettingsFile) : SettingsFile where
  runtime := gone.restore "runtime" {} (f.runtime.overlay (gone.inside (.member "runtime")))
  capabilities :=
    gone.restore "capabilities" {} (f.capabilities.overlay (gone.inside (.member "capabilities")))
  modules := gone.restore "modules" [] (f.modules.mapIdx fun i e => e.overlay (inEntry gone i))

/-- **Whether what has no default stays**: the names and the paths of modules. -/
def KeepsRequired (gone : Deletion) : Prop :=
  ∀ i, (inEntry gone i).of "name" = false ∧ (inEntry gone i).of "path" = false

/-- The modules as a document. -/
def listDocument (entries : List ModuleEntry) : Json := .list (entries.map ModuleEntry.document)

theorem readsAs_document {gone : Deletion} (hkept : KeepsRequired gone) (f : SettingsFile) :
    ReadsAs (value shape) (f.document.without gone) (f.overlay gone).document := by
  have hentry (i : Nat) (e : ModuleEntry) : ReadsAs (value ModuleEntry.shape)
      (e.document.without (inEntry gone i)) (e.overlay (inEntry gone i)).document :=
    ModuleEntry.readsAs_document (hkept i).1 (hkept i).2 e
  have hentries := readsAs_withoutItems hentry f.modules 0
  simp only [Nat.zero_add] at hentries
  exact readsAs_without
    (.cons (restored HostSettings.document {} fun _ => f.runtime.readsAs_document _) <|
      .cons (restored CapabilitySettings.document {} fun _ => f.capabilities.readsAs_document _) <|
      .cons (restored listDocument [] fun _ => readsAs_list hentries) .nil)
    (by decide) "ConfigFile"

theorem ofDocument_document (f : SettingsFile) : ofDocument f.document = f := by
  have hentries : ModuleEntry.ofDocument ∘ ModuleEntry.document = id :=
    funext ModuleEntry.ofDocument_document
  simp [ofDocument, document, Json.child, Json.member?, Json.asList,
    HostSettings.ofDocument_document, CapabilitySettings.ofDocument_document, hentries]

/-- **The file that bytes hold**, or why they hold none. -/
def parse (bytes : Bytes) : Except String SettingsFile :=
  (Json.read shape bytes.toList).map ofDocument

/-- **What is left of a file is read** with the defaults of what is deleted. -/
theorem parse_without {gone : Deletion} (hkept : KeepsRequired gone) (f : SettingsFile) :
    parse (f.document.without gone).toBytes = .ok (f.overlay gone) := by
  rw [parse, Json.read_of_readsAs (f.readsAs_document hkept), Except.map, ofDocument_document]

theorem overlay_nothing (f : SettingsFile) : f.overlay .nothing = f := by
  have hentries : f.modules.mapIdx (fun i e => e.overlay (inEntry .nothing i)) = f.modules :=
    List.mapIdx_eq_iff.mpr fun i => Option.map_id'.symm
  show { f with modules := f.modules.mapIdx fun i e => e.overlay (inEntry .nothing i) } = f
  rw [hentries]

theorem parse_document (f : SettingsFile) : parse f.document.toBytes = .ok f := by
  have h := parse_without (fun _ => ⟨rfl, rfl⟩ : KeepsRequired .nothing) f
  rwa [Json.without_nothing, overlay_nothing] at h

end SettingsFile

/-- **Settings survive in documents**, and documents only have to name what differs from the
defaults.  Settings of a host and settings files are read back from their documents; and whichever
members are deleted from these, apart from the names and the paths of modules, what is read has the
defaults of these members, and of all that is in deleted sections, and is the same otherwise. -/
theorem settings_read_back (s : HostSettings) (gone : Deletion) (f : SettingsFile)
    (goneFile : Deletion) (hkept : SettingsFile.KeepsRequired goneFile) :
    HostSettings.parse s.document.toBytes = .ok s ∧
      HostSettings.parse (s.document.without gone).toBytes = .ok (s.overlay gone) ∧
      SettingsFile.parse f.document.toBytes = .ok f ∧
      SettingsFile.parse (f.document.without goneFile).toBytes = .ok (f.overlay goneFile) :=
  ⟨s.parse_document, s.parse_without gone, f.parse_document, f.parse_without hkept⟩

/-- Settings whose texts have to be escaped and whose numbers need all of their bits. -/
def HostSettings.unusual : HostSettings where
  engine := { maxInstances := 4294967295, epochTickMs := 18446744073709551615 }
  execution := { maxFuel := 0, allocateExport := "a\"\\\n\u0000é", wasi := false }
  pool := { defaultSize := 18446744073709551615, drainTimeoutMs := 1 }

/-- A file whose modules say how many instances there are of them. -/
def SettingsFile.unusual : SettingsFile where
  runtime := .unusual
  capabilities := { httpClient := { enabled := false, timeoutSecs := 0 } }
  modules := [⟨"a", "", some 0⟩, ⟨"", "b", some 18446744073709551615⟩]

/-- The deletion of the members at the ends of some ways. -/
def Json.Deletion.ofPaths (paths : List (List Step)) : Deletion := fun path => path ∈ paths

/-- Of unusual settings a section and two members are deleted, and of a file a section of a section
and one of two numbers of instances. -/
theorem gaps_are_defaults :
    let gone : Deletion := .ofPaths [[.member "pool"], [.member "engine", .member "max_instances"],
      [.member "execution", .member "allocate_export"]]
    let goneFile : Deletion := .ofPaths [[.member "runtime", .member "execution"],
      [.member "capabilities", .member "httpclient", .member "enabled"],
      [.member "modules", .item 1, .member "pool_size"]]
    SettingsFile.KeepsRequired goneFile ∧
      HostSettings.parse (HostSettings.unusual.document.without gone).toBytes = .ok
        { engine := { epochTickMs := 18446744073709551615 }
          execution := { maxFuel := 0, wasi := false } } ∧
      SettingsFile.parse (SettingsFile.unusual.document.without goneFile).toBytes = .ok
        { runtime :=
            { engine := { maxInstances := 4294967295, epochTickMs := 18446744073709551615 }
              pool := { defaultSize := 18446744073709551615, drainTimeoutMs := 1 } }
          capabilities := { httpClient := { timeoutSecs := 0 } }
          modules := [⟨"a", "", some 0⟩, ⟨"", "b", none⟩] } := by
  intro gone goneFile
  have hkept : SettingsFile.KeepsRequired goneFile := by
    intro i
    constructor <;>
      simp [goneFile, SettingsFile.inEntry, Deletion.of, Deletion.inside, Deletion.ofPaths]
  obtain ⟨-, hhost, -, hfile⟩ :=
    settings_read_back HostSettings.unusual gone SettingsFile.unusual goneFile hkept
  exact ⟨hkept, hhost.trans (congrArg _ (by decide)), hfile.trans (congrArg _ (by decide))⟩

end FunctionHost

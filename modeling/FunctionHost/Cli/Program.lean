import FunctionHost.Capability.Router
import FunctionHost.Cli.Arguments
import FunctionHost.Cli.Failure
import FunctionHost.Journal.Filter
import FunctionHost.Server.Session
import FunctionHost.Settings.Text
/-!
# The program

Loads the modules of a settings file into a server.  Then it runs one entrypoint and shows what that
answered, or it serves until it is told to stop.  In the end the server is shut down.
-/
namespace FunctionHost.Cli

/-- **Where the program is started.** -/
structure Surroundings where
  /-- The arguments. -/
  arguments : List String := []
  /-- What the environment says about the settings file. -/
  config : Option String := none
  /-- What the environment says about the journal. -/
  filter : Option String := none
  /-- The files. -/
  files : Files := Files.none
  deriving Inhabited

/-- What the program prints. -/
inductive Printed where
  /-- An event. -/
  | event (e : Event)
  /-- What guests write and what an entrypoint answers. -/
  | bytes (content : Bytes)
  /-- Nothing: the program serves here until it is told to stop. -/
  | pause

/-- **How the program ends.** -/
structure Outcome where
  /-- What it prints to the standard output. -/
  output : List Printed := []
  /-- What it prints to the standard error. -/
  errors : Bytes := ByteArray.empty
  /-- Its exit code. -/
  exitCode : Nat := 0
  deriving Inhabited

namespace Program

/-- Servers as the program runs them. -/
abbrev Running := Session (Server Router) ServerTask ServerReply

/-- The server that runs. -/
def Running.server (r : Running) : Server Router := r.schedule.state

/-- The server after an event. -/
def Running.report (r : Running) (e : Event) : Running :=
  { r with schedule := { r.schedule with state := r.server.report e } }

/-- An event about the program. -/
def event (message : String) (fields : List (String × FieldValue)) : Event :=
  { target := "capsule", level := .info, message := message, fields := fields }

/-- Names, as events show them. -/
def names (list : List String) : FieldValue := .text (Text.list (list.map Text.quoted))

/-! ## Starting -/

/-- The settings that the program works with. -/
def settings (files : Files) : Option String → Except Failure SettingsFile
  | none => .ok {}
  | some path => (SettingsFile.ofFile files path).mapError (.settings path)

/-- The folder that the paths of a settings file begin in. -/
def baseFolder (config : Option String) : String := (config.map FilePath.parent).getD ""

/-- What to load for the entries of a settings file. -/
def plans (config : Option String) (f : SettingsFile) : List LoadPlan :=
  f.modules.map fun entry =>
    { LoadPlan.ofEntry entry f.runtime.pool.defaultSize with
      source := .file (FilePath.join (baseFolder config) entry.path) }

/-- The capabilities that guests may use. -/
def capabilities (s : CapabilitySettings) : List Capability :=
  (if s.httpClient.enabled then [.httpClient { settings := s.httpClient }] else [])
    ++ (if s.kvStore.enabled then [.keyValue {}] else [])
    ++ (if s.logger.enabled then [.log] else [])

/-- The world that the program works in. -/
def world (s : CapabilitySettings) : World Router :=
  let router := Router.ofList (capabilities s)
  let registered := (capabilities s).map fun c => Router.registered c.space
  { callback := Router.callback
    state := router
    journal := (registered ++ [event "Capabilities registered" [
      ("namespaces", names router.namespaces)]]).toArray }

/-- A server with no modules yet. -/
def start (files : Files) (f : SettingsFile) : World Router × Except Failure Running :=
  match Server.start (world f.capabilities) files { settings := f.runtime } with
  | (w, .error e) => (w, .error (.host e))
  | (w, .ok s) => (w, .ok { schedule := { state := s } })

/-- Runs a command to its end; one that never ends is given up. -/
def Running.run (r : Running) (command : ServerCommand) (request : RequestId) :
    Running × ServerReply :=
  match Session.run Server.subject r command { request := request } with
  | (r, .result reply) => (r, reply)
  | (r, _) => (r, .refused .canceled)

/-- The request that the program makes itself. -/
def request : RequestId := .generated 0

/-- Loads modules in order, until one cannot be loaded. -/
def load (r : Running) : List LoadPlan → Running × Except Failure Unit
  | [] => (r.report (event "Modules loaded" [("modules", names r.server.modules)]), .ok ())
  | plan :: rest =>
    match r.run (.load plan) request with
    | (r, .refused e) => (r, .error (.loading plan.name e))
    | (r, _) => load r rest

/-! ## Working -/

/-- The module and the entrypoint that a text names: a dot is between them, and the entrypoint may
have dots of its own. -/
def target? (text : String) : Option (String × String) :=
  match text.toList.span (· ≠ '.') with
  | (module, _ :: entrypoint) => some (String.ofList module, String.ofList entrypoint)
  | (_, []) => none

/-- **Runs an entrypoint** and prints what it answers. -/
def invoke (r : Running) (target : String) (payload : String) : Running × Except Failure Bytes :=
  match target? target with
  | none => (r, .error (.noEntrypoint target))
  | some (module, entrypoint) =>
    let r := r.report (event "Invoking" [("request_id", .text request.shown),
      ("module", .text module), ("entrypoint", .text entrypoint)])
    match r.run (.execute module entrypoint (Bytes.ofText payload)) request with
    | (r, .output bytes) => (r, .ok (Bytes.ofText (Utf8.decodeLossy bytes ++ "\n")))
    | (r, .refused e) => (r, .error (.host e))
    | (r, _) => (r, .ok ByteArray.empty)

/-- Does what is asked for: runs an entrypoint, or serves until it is told to stop. -/
def work (r : Running) (q : Request) : Running × Except Failure Bytes :=
  match q.invoke with
  | some target => invoke r target q.payload
  | none => (r.report (event "Shutdown signal received" []), .ok ByteArray.empty)

/-- Shuts the server down. -/
def stop (r : Running) : Running := (r.run .shutDown request).1

/-! ## Ending -/

/-- The events that a filter shows. -/
def shown (f : Filter) (events : List Event) : List Printed := (events.filter f.shows).map .event

/-- How the program ends after a failure. -/
def failed (f : Filter) (w : World Router) (failure : Failure) : Outcome where
  output := shown f w.journal.toList ++ [.bytes w.output]
  errors := w.errors ++ Bytes.ofText failure.report
  exitCode := 1

/-- The events from a position on that a filter shows. -/
def shownSince (f : Filter) (r : Running) (since : Nat) : List Printed :=
  shown f (r.server.world.journal.toList.drop since)

/-- How the program ends once its modules are loaded: what the entrypoint answers is printed before
the server is shut down. -/
def finish (f : Filter) (q : Request) (loaded : Running) : Outcome :=
  let (worked, result) := work loaded q
  let stopped := stop worked
  let printed (answer : Bytes) : List Printed :=
    shownSince f loaded 0
      ++ (if q.invoke.isNone then [.pause] else [])
      ++ shownSince f worked loaded.server.world.journal.size
      ++ [.bytes (worked.server.world.output ++ answer)]
      ++ shownSince f stopped worked.server.world.journal.size
  let errors := stopped.server.world.errors
  match result with
  | .error failure =>
    { output := printed ByteArray.empty
      errors := errors ++ Bytes.ofText failure.report
      exitCode := 1 }
  | .ok answer => { output := printed answer, errors := errors }

/-- How the program ends that is asked to do something. -/
def serve (f : Filter) (files : Files) (q : Request) : Outcome :=
  match settings files q.config with
  | .error failure => failed f { callback := Router.callback, state := {} } failure
  | .ok file =>
    match start files file with
    | (w, .error failure) => failed f w failure
    | (_, .ok r) =>
      match load r (plans q.config file) with
      | (r, .error failure) => failed f r.server.world failure
      | (r, .ok _) => finish f q r

/-- How the program ends that is not asked to do anything. -/
def refuse (config : Option String) (refusal : Refusal) : Outcome :=
  match refusal.reason? with
  | some reason =>
    let hint := "For more information, try '--help'.\n"
    let text := "error: " ++ reason ++ "\n\n" ++ usage ++ "\n\n" ++ hint
    { errors := Bytes.ofText text, exitCode := 2 }
  | none =>
    let text := if refusal = .version then versionText else helpText config
    { output := [.bytes (Bytes.ofText text)] }

/-- **Runs the program**: what it prints and how it ends. -/
def run (s : Surroundings) : Outcome :=
  match Request.ofArguments s.config s.arguments with
  | .error refusal => refuse s.config refusal
  | .ok q => serve ((s.filter.map Filter.ofText).getD Filter.standard) s.files q

/-- The files that the program reads after its settings file. -/
def modulePaths (s : Surroundings) : List String :=
  match Request.ofArguments s.config s.arguments with
  | .error _ => []
  | .ok q =>
    match settings s.files q.config with
    | .error _ => []
    | .ok file =>
      (plans q.config file).filterMap fun plan =>
        match plan.source with
        | .file path => some path
        | .bytes _ | .text _ => none

end Program
end FunctionHost.Cli

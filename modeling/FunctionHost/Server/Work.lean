import FunctionHost.Server.Basic
import FunctionHost.Server.Plan
/-!
# What a server does

Modules are loaded, called and unloaded, and in the end the server is shut down.  All of that may
have to wait, for guests, for an instance to become idle, or for leases to come back.  A
`ServerWork` is where some work waits; the functions here take it from one such place to the next.
-/
namespace FunctionHost

/-- A pool that is drained when its server is shut down. -/
structure Draining where
  /-- The name of the module. -/
  name : String
  /-- The number of the pool. -/
  pool : Nat
  /-- The wait for what is leased. -/
  wait : DrainWait
  deriving Inhabited

/-- **Where some work of a server waits.** -/
inductive ServerWork where
  /-- A module is to be compiled. -/
  | compiling (plan : LoadPlan)
  /-- The pool of a module is being filled. -/
  | filling (name contentHash : String) (f : Filling)
  /-- A request waits for an instance. -/
  | waiting (pool ticket : Nat) (context : Context) (entrypoint : String) (payload : Bytes)
  /-- A request is served by a leased instance. -/
  | calling (pool lease : Nat)
  /-- An instance is being restored, after a request with some outcome or after nobody's. -/
  | restoring (pool number : Nat) (outcome : Option Call.Result)
  /-- The pool of a module that is not served any more is being drained. -/
  | unloading (pool : Nat) (wait : DrainWait)
  /-- All pools are being drained. -/
  | closing (drains : List Draining)
  deriving Inhabited

/-- **What comes of the work of a server.** -/
inductive ServerReply where
  /-- It is done. -/
  | done
  /-- It was refused or failed. -/
  | refused (e : HostError)
  /-- What an entrypoint answered. -/
  | output (bytes : Bytes)
  /-- A module is not served any more. -/
  | unloaded (outcome : DrainOutcome)

namespace Server

variable {σ : Type}

/-- How far some work has come. -/
abbrev Turn (σ : Type) := Server σ × Standing ServerWork ServerReply

/-- The end of work that failed. -/
def refuse (s : Server σ) (e : HostError) : Turn σ := (s, .ended (.refused e))

/-! ## Loading -/

/-- The code that a file holds: text if the path ends so, bytes otherwise. -/
def compileFile (s : Server σ) (path : String) : World σ × Except HostError Compiled :=
  match s.files path with
  | .error fault =>
    (s.world.report (event .warn "Failed to read module" [
      ("path", .text path), ("error", .text fault.message)]), .error (.io fault.message))
  | .ok bytes =>
    if FilePath.extension? path = some "wat" then
      match Utf8.decode? bytes with
      | none => (s.world, .error (.invalidConfig (path ++ " is not valid UTF-8")))
      | some text => Compiled.ofText s.world text
    else Compiled.ofBytes s.world bytes

/-- The code that a source holds. -/
def compile (s : Server σ) : ModuleSource → World σ × Except HostError Compiled
  | .file path => s.compileFile path
  | .bytes content => Compiled.ofBytes s.world content
  | .text content => Compiled.ofText s.world content

/-- **Publishes a module** whose pool is full; if its name cannot be given any more the pool is
drained. -/
def publish (s : Server σ) (name contentHash : String) (p : Pool) : Turn σ :=
  match s.registry.publish name ⟨contentHash, s.pools.size⟩ with
  | .ok registry =>
    let s := { s with registry := registry, pools := s.pools.push p }
    (s.report (event .info "Module loaded" [("content_hash", .text contentHash)]), .ended .done)
  | .error e =>
    let (w, _, _) := Pool.emptied s.world p.close
    { s with world := w }.refuse e

/-- What follows a step of filling a pool. -/
def afterFilling (s : Server σ) (name contentHash : String) :
    World σ × Standing Filling Filling.Result → Turn σ
  | (w, .busy f) => ({ s with world := w }, .busy (.filling name contentHash f))
  | (w, .blocked f) => ({ s with world := w }, .blocked (.filling name contentHash f))
  | (w, .ended (.error e)) => { s with world := w }.refuse e
  | (w, .ended (.ok p)) => { s with world := w }.publish name contentHash p

/-- Compiles a module and begins to fill its pool. -/
def fill (s : Server σ) (plan : LoadPlan) : Turn σ :=
  match s.compile plan.source with
  | (w, .error e) => { s with world := w }.refuse e
  | (w, .ok c) =>
    let blueprint := Blueprint.withLinker s.linker s.settings.execution plan.name c
    s.afterFilling plan.name c.contentHash
      (Filling.begin w blueprint plan.poolSize s.settings.pool.checkoutTimeout)

/-- **Begins to load a module**: nothing is done for one that cannot be loaded anyway. -/
def load (s : Server σ) (plan : LoadPlan) : Turn σ :=
  match s.ensureOpen, plan.validate, s.registry.checkAvailable plan.name with
  | .error e, _, _ => s.refuse e
  | _, .error e, _ => s.refuse e
  | _, _, .error e => s.refuse e
  | .ok _, .ok _, .ok _ => (s, .blocked (.compiling plan))

/-! ## Calling -/

/-- The end of a request. -/
def answer (s : Server σ) : Call.Result → Turn σ
  | .ok bytes =>
    (s.report (event .debug "Execution complete" [("output_len", .number bytes.size)]),
      .ended (.output bytes))
  | .error e =>
    (s.report (event .debug "Execution failed" [("error", .text e.message)]),
      .ended (.refused e))

/-- What follows a step of restoring an instance. -/
def afterRestoration (s : Server σ) (pool number : Nat) (outcome : Option Call.Result) :
    World σ × Pool × Standing Unit Restored → Turn σ
  | (w, p, .busy _) => (s.after pool w p, .busy (.restoring pool number outcome))
  | (w, p, .blocked _) => (s.after pool w p, .blocked (.restoring pool number outcome))
  | (w, p, .ended _) =>
    match outcome with
    | none => (s.after pool w p, .ended .done)
    | some outcome => (s.after pool w p).answer outcome

/-- Takes a restoration further. -/
def restore (rounds : Nat) (s : Server σ) (pool number : Nat) (outcome : Option Call.Result) :
    Turn σ :=
  s.afterRestoration pool number outcome
    ((s.pool pool).proceedRestoration rounds s.world number)

/-- What follows a step of a call: at its end the instance is given back. -/
def afterCall (rounds : Nat) (s : Server σ) (pool lease : Nat) :
    World σ × Pool × Standing Unit Call.Result → Turn σ
  | (w, p, .busy _) => (s.after pool w p, .busy (.calling pool lease))
  | (w, p, .blocked _) => (s.after pool w p, .blocked (.calling pool lease))
  | (w, p, .ended outcome) =>
    match p.release lease with
    | (p, some number) => (s.after pool w p).restore rounds pool number (some outcome)
    | (p, none) => (s.after pool w p).answer outcome

/-- What follows a look at a wait for an instance: with a lease the call begins. -/
def afterCheckout (rounds : Nat) (s : Server σ) (pool : Nat) (c : Context) (entrypoint : String)
    (payload : Bytes) : World σ × Pool × Standing Nat (Except HostError Nat) → Turn σ
  | (w, p, .busy ticket) =>
    (s.after pool w p, .busy (.waiting pool ticket c entrypoint payload))
  | (w, p, .blocked ticket) =>
    (s.after pool w p, .blocked (.waiting pool ticket c entrypoint payload))
  | (w, p, .ended (.error e)) => (s.after pool w p).refuse (s.seenFromOutside e)
  | (w, p, .ended (.ok lease)) =>
    s.afterCall rounds pool lease (p.beginCall w lease c entrypoint payload)

/-- **Begins a request**: the context serves the module and the entrypoint from here on. -/
def execute (rounds : Nat) (s : Server σ) (name entrypoint : String) (payload : Bytes)
    (c : Context) : Turn σ :=
  match s.ensureOpen, s.registry.get name with
  | .error e, _ => s.refuse e
  | _, .error e => s.refuse e
  | .ok _, .ok served =>
    let c := c.serving name entrypoint
    s.afterCheckout rounds served.pool c entrypoint payload
      ((s.pool served.pool).checkout s.world c)

/-! ## Unloading -/

/-- The instant until which leases are waited for from now on. -/
def drainDeadline (s : Server σ) : Option Nat :=
  Pool.drainDeadline s.world.clock s.settings.pool.drainTimeoutMs.toNat

/-- Looks whether the pool of an unloaded module is drained. -/
def pollUnload (s : Server σ) (pool : Nat) (deadline : Option Nat) : Turn σ :=
  match (s.pool pool).pollDrain s.world deadline with
  | (w, p, none) => (s.after pool w p, .blocked (.unloading pool (p.await deadline)))
  | (w, p, some outcome) =>
    ((s.after pool w p).report (event .info "Module unloaded" [
      ("destroyed", .number outcome.destroyed),
      ("outstanding", .number outcome.outstanding)]), .ended (.unloaded outcome))

/-- **Begins to unload a module**: it is not served any more from here on. -/
def unload (s : Server σ) (name : String) : Turn σ :=
  match s.registry.remove name with
  | (_, none) => s.refuse (.moduleNotFound name)
  | (registry, some served) =>
    let s := { s with registry := registry }
    (s.after served.pool s.world (s.pool served.pool).close).pollUnload served.pool s.drainDeadline

/-! ## Shutting down -/

/-- Looks at each pool that is being drained: the modules that still had leases when they were
drained, and what is left to drain. -/
def pollDrains (s : Server σ) :
    List Draining → Server σ × List (String × DrainOutcome) × List Draining
  | [] => (s, [], [])
  | d :: rest =>
    match (s.pool d.pool).pollDrain s.world d.wait.deadline with
    | (w, p, none) =>
      let (s, drained, waiting) := (s.after d.pool w p).pollDrains rest
      (s, drained, { d with wait := p.await d.wait.deadline } :: waiting)
    | (w, p, some outcome) =>
      let (s, drained, waiting) := (s.after d.pool w p).pollDrains rest
      (s, (d.name, outcome) :: drained, waiting)

/-- The server after a module was drained that may still have had leases. -/
def reportDrained (s : Server σ) : String × DrainOutcome → Server σ
  | (name, outcome) =>
    if outcome.outstanding = 0 then s
    else s.report (event .warn "Module drained with leases outstanding" [
      ("module", .text name), ("outstanding", .number outcome.outstanding)])

/-- Looks whether all pools are drained. -/
def pollClose (s : Server σ) (drains : List Draining) : Turn σ :=
  let (s, drained, waiting) := s.pollDrains drains
  let s := drained.foldl reportDrained s
  if waiting.isEmpty then
    ({ s with ticking := false }.report (event .info "Shutdown complete" []), .ended .done)
  else (s, .blocked (.closing waiting))

/-- The pool of a module that is waited for from now on. -/
def draining (s : Server σ) : String × Served → Draining
  | (name, served) => ⟨name, served.pool, (s.pool served.pool).await s.drainDeadline⟩

/-- The server with a pool closed. -/
def closePool (s : Server σ) (number : Nat) : Server σ :=
  s.after number s.world (s.pool number).close

/-- **Begins to shut the server down**: nothing is served any more from here on, and all pools are
drained side by side. -/
def shutDown (s : Server σ) : Turn σ :=
  if s.closed then (s.report (event .debug "Shutdown already performed" []), .ended .done)
  else
    let (registry, entries) := s.registry.close
    let entries := entries.getD []
    let s := { s with closed := true, registry := registry }.report
      (event .info "Shutting down" [("modules", .number entries.length)])
    let s := entries.foldl (fun s entry => s.closePool entry.2.pool) s
    s.pollClose (entries.map s.draining)

end Server
end FunctionHost

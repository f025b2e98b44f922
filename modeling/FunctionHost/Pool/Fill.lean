import FunctionHost.Pool.Basic
/-!
# Filling a pool

A pool is there once all its instances are.  They are made one after another; if one cannot be
made there is no pool, and those made before are gone.
-/
namespace FunctionHost

/-- **A pool being filled.** -/
structure Filling where
  /-- What the instances are made from. -/
  blueprint : Blueprint
  /-- How many instances there are to be. -/
  size : Nat
  /-- Milliseconds that a request without a deadline waits for an instance. -/
  checkoutTimeout : Option Nat
  /-- The instances made so far, the last one first. -/
  made : List Instance
  /-- The one being made. -/
  birth : Birth
  deriving Inhabited

namespace Filling

variable {σ : Type}

/-- What comes of filling a pool. -/
abbrev Result := Except HostError Pool

/-- The world once the instances made so far are gone. -/
def discard (w : World σ) (made : List Instance) : World σ :=
  { w with slots := w.slots - made.length }

/-- The pool with all its instances. -/
def pool (f : Filling) (made : List Instance) : Pool :=
  { blueprint := f.blueprint
    size := f.size
    checkoutTimeout := f.checkoutTimeout
    made := made.length
    idle := made
    permits := { free := made.length }
    capacity := made.length }

/-- What follows a step of making an instance; the next one is begun at once. -/
def afterBirth (f : Filling) : Nat → World σ → Standing Birth Birth.Result →
    World σ × Standing Filling Result
  | _, w, .busy b => (w, .busy { f with birth := b })
  | _, w, .blocked b => (w, .blocked { f with birth := b })
  | _, w, .ended (.error e) => (discard w f.made, .ended (.error e))
  | 0, w, .ended (.ok i) =>
    let p := f.pool (i :: f.made)
    (w.report (Pool.event .info "Instance pool filled" [("size", .number f.size)]), .ended (.ok p))
  | missing + 1, w, .ended (.ok i) =>
    let f := { f with made := i :: f.made }
    let (w, standing) := Birth.begin w f.blueprint (f.made.length + 1)
    afterBirth f missing w standing

/-- **Begins to fill a pool.** -/
def begin (w : World σ) (blueprint : Blueprint) (size : Nat) (checkoutTimeout : Option Nat) :
    World σ × Standing Filling Result :=
  if size = 0 then (w, .ended (.error (.invalidConfig "pool size must be at least 1")))
  else
    let (w, standing) := Birth.begin w blueprint 1
    afterBirth ⟨blueprint, size, checkoutTimeout, [], default⟩ (size - 1) w standing

/-- **Takes the filling of a pool further.** -/
def proceed (rounds : Nat) (w : World σ) (f : Filling) : World σ × Standing Filling Result :=
  let (w, standing) := Birth.proceed rounds w f.birth
  afterBirth f (f.size - f.made.length - 1) w standing

/-- The world after the filling was given up. -/
def drop (w : World σ) (f : Filling) : World σ := discard (Birth.drop w) f.made

end Filling
end FunctionHost

import FunctionHost.Pool.Fill
import FunctionHost.Proofs.Guest.Frame

/-!
# Room for instances

The world counts the instances that live.  Whoever makes instances or lets them go changes that count
by their own instances and by no others: `World.Trades` says so without a subtraction, which would
hide a count that has gone wrong.  A guest at work changes nothing; an instance being made takes one
place and gives it back if nothing comes of it; a pool being filled holds the places of all that it
has made so far.
-/
namespace FunctionHost

open Wasm (Thread Word)

variable {σ : Type}

/-- **A change of what lives**: some instances were one's own and some are afterwards, and all
others live on. -/
def World.Trades (w : World σ) (own : Nat) (v : World σ) (own' : Nat) : Prop :=
  ∀ others, w.slots = others + own → v.slots = others + own'

namespace World.Trades

variable {w v u : World σ} {a b c : Nat}

theorem of_slots (h : v.slots = w.slots) : w.Trades a v a := fun _ hw => h.trans hw

/-- Nobody comes and nobody goes, however one's own are counted. -/
theorem of_eq (h : v.slots = w.slots) (hn : b = a) : w.Trades a v b := hn ▸ of_slots h

theorem trans (h : w.Trades a v b) (h' : v.Trades b u c) : w.Trades a u c :=
  fun others hw => h' others (h others hw)

/-- What else is one's own lives on, too. -/
theorem more (h : w.Trades a v b) (c : Nat) : w.Trades (c + a) v (c + b) := by
  intro others hw
  have hv := h (others + c) (by omega)
  omega

theorem freeSlot : w.Trades 1 w.freeSlot 0 := by
  intro others hw
  rw [World.freeSlot, hw]
  rfl

theorem discard {made : List Instance} : w.Trades made.length (Filling.discard w made) 0 := by
  intro others hw
  rw [Filling.discard, hw]
  exact Nat.add_sub_cancel ..

end World.Trades

/-- **Room is taken for one instance.** -/
theorem World.trades_takeSlot {w v : World σ} (h : w.takeSlot = .ok v) : w.Trades 0 v 1 := by
  intro others hw
  unfold takeSlot at h
  split at h
  · split at h
    · cases h
      exact congrArg (· + 1) hw
    · cases h
  · cases h
    exact congrArg (· + 1) hw

/-! ## Calls and resets -/

namespace Call

theorem conclude_slots (w : World σ) (i : Instance) (fuelBefore : Nat) (broken : Bool)
    (outcome : Except HostError Bytes) :
    (conclude w i fuelBefore broken outcome).1.slots = w.slots := by
  unfold conclude
  dsimp only
  split <;> rfl

theorem begin_slots (w : World σ) (i : Instance) (c : Context) (entrypoint : String)
    (payload : Bytes) : (begin w i c entrypoint payload).1.slots = w.slots := by
  have hturn := begins w i c entrypoint payload
  generalize begin w i c entrypoint payload = turn at hturn ⊢
  cases hturn with
  | refused | missing | entered | allocating => rfl
  | hindered => exact conclude_slots ..

theorem proceed_slots (rounds : Nat) (w : World σ) (i : Instance) (c : Call) :
    (proceed rounds w i c).1.slots = w.slots := by
  have hguest := (Activity.proceed_frame i.body w i.guest rounds c.activity).lasts.slots
  have hturn := proceeds rounds w i c
  generalize proceed rounds w i c = turn at hturn ⊢
  generalize Activity.proceed i.body rounds w i.guest c.activity = run at hguest hturn
  cases hturn with
  | busy | waiting | entered => exact hguest
  | concluded => exact (conclude_slots ..).trans hguest

end Call

namespace Reset

theorem begin_slots (w : World σ) (i : Instance) : (begin w i).1.slots = w.slots := by
  have hturn := begins w i
  generalize begin w i = turn at hturn ⊢
  cases hturn <;> rfl

theorem proceed_slots (rounds : Nat) (w : World σ) (i : Instance) (r : Reset) :
    (proceed rounds w i r).1.slots = w.slots := by
  have hguest := (Activity.proceed_frame i.body w i.guest rounds r.activity).lasts.slots
  have hturn := proceeds rounds w i r
  generalize proceed rounds w i r = turn at hturn ⊢
  generalize Activity.proceed i.body rounds w i.guest r.activity = run at hguest hturn
  cases hturn <;> exact hguest

end Reset

/-! ## Making instances -/

namespace Birth

/-- How many instances there are of one that is being made: none if nothing came of it. -/
def lives : Standing Birth Result → Nat
  | .busy _ | .blocked _ | .ended (.ok _) => 1
  | .ended (.error _) => 0

variable {w : World σ}

theorem trades_afterStart (id : Nat) (b : Body) (g : Guest) :
    w.Trades 1 (afterStart w id b g).1 (lives (afterStart w id b g).2) := by
  unfold afterStart
  split
  · exact .freeSlot
  · exact .of_slots rfl
  · exact .of_slots rfl

/-- **Furnishing an instance takes one place**, which is given back if it fails. -/
theorem Furnishes.trades {b : Blueprint} {made : World σ × Except String (Body × Guest)}
    (h : Furnishes w b made) :
    w.Trades 0 made.1 (match made.2 with | .ok _ => 1 | .error _ => 0) := by
  cases h with
  | unlinked | crowded => exact .of_slots rfl
  | unfit htake => exact (World.trades_takeSlot htake).trans .freeSlot
  | furnished _ htake => exact World.trades_takeSlot htake

/-- **Making an instance takes one place**, which is given back if it cannot be made. -/
theorem trades_begin (blueprint : Blueprint) (id : Nat) :
    w.Trades 0 (begin w blueprint id).1 (lives (begin w blueprint id).2) := by
  have hturn := begins w blueprint id
  generalize begin w blueprint id = turn at hturn ⊢
  cases hturn with
  | unfurnished h | starting h => exact h.trades
  | startless h => exact h.trades.trans (trades_afterStart _ _ _)

theorem trades_proceed (rounds : Nat) (b : Birth) :
    w.Trades 1 (proceed rounds w b).1 (lives (proceed rounds w b).2) := by
  have hguest := (Activity.proceed_frame b.body w b.guest rounds b.activity).lasts.slots
  have hturn := proceeds rounds w b
  generalize proceed rounds w b = turn at hturn ⊢
  generalize Activity.proceed b.body rounds w b.guest b.activity = run at hguest hturn
  have hstays : w.Trades 1 run.1 1 := .of_slots hguest
  cases hturn with
  | busy | waiting | initialized => exact hstays
  | started => exact hstays.trans (trades_afterStart _ _ _)
  | abandoned => exact hstays.trans .freeSlot

end Birth

/-! ## Filling pools -/

namespace Filling

/-- How many instances there are of a pool that is being filled: none if nothing came of it. -/
def lives : Standing Filling Result → Nat
  | .busy f | .blocked f => f.made.length + 1
  | .ended (.ok p) => p.idle.length
  | .ended (.error _) => 0

theorem trades_afterBirth (f : Filling) (missing : Nat) (w : World σ)
    (s : Standing Birth Birth.Result) :
    w.Trades (f.made.length + Birth.lives s) (afterBirth f missing w s).1
      (lives (afterBirth f missing w s).2) := by
  have hfailed : w.Trades (f.made.length + 0) (discard w f.made) 0 := .discard
  induction missing generalizing w f s with
  | zero =>
    match s with
    | .busy b | .blocked b => exact .of_slots rfl
    | .ended (.error e) => exact hfailed
    | .ended (.ok i) => exact .of_slots rfl
  | succ missing ih =>
    match s with
    | .busy b | .blocked b => exact .of_slots rfl
    | .ended (.error e) => exact hfailed
    | .ended (.ok i) =>
      -- The next instance is begun at once, and takes a place of its own.
      have hbegun := (Birth.trades_begin (w := w) f.blueprint ((i :: f.made).length + 1)).more
        (i :: f.made).length
      exact hbegun.trans (ih { f with made := i :: f.made } _ _ .discard)

theorem trades_begin (w : World σ) (b : Blueprint) (size : Nat) (timeout : Option Nat) :
    w.Trades 0 (begin w b size timeout).1 (lives (begin w b size timeout).2) := by
  unfold begin
  split
  · exact .of_slots rfl
  · have hfirst := (Birth.trades_begin (w := w) b 1).more 0
    exact hfirst.trans (trades_afterBirth ⟨b, size, timeout, [], default⟩ _ _ _)

theorem trades_proceed (rounds : Nat) (w : World σ) (f : Filling) :
    w.Trades (f.made.length + 1) (proceed rounds w f).1 (lives (proceed rounds w f).2) :=
  ((Birth.trades_proceed rounds f.birth).more f.made.length).trans (trades_afterBirth f _ _ _)

/-- **Whoever gives up filling a pool** leaves no instance behind. -/
theorem trades_drop (w : World σ) (f : Filling) :
    w.Trades (f.made.length + 1) (drop w f) 0 :=
  (World.Trades.freeSlot.more f.made.length).trans .discard

end Filling
end FunctionHost

import FunctionHost.Proofs.Guest.Request
import FunctionHost.Proofs.Guest.Room

/-!
# Guests that have a turn

Whatever is begun, ended or given up around a guest concerns the room for instances and the journal
(`World.Still`).  All else that a turn changes of what guests share, the rounds of the guest change
that has the turn: a call, a reset or an instance being made.  So a turn asks the callback for what
that guest asks in its rounds (`Running.asks`), and a turn in which no guest runs asks nothing.
-/
namespace FunctionHost

open Wasm (Thread Word)

variable {σ : Type}

/-! ## Worlds -/

/-- **What the host does by itself**: it concerns the room for instances, the journal and the epoch.
Room that is limited is not overdrawn. -/
structure World.Still (w v : World σ) : Prop where
  same : ∃ slots journal epoch, v = { w with slots := slots, journal := journal, epoch := epoch }
  room : ∀ limit, w.slotLimit = some limit → w.slots ≤ limit → v.slots ≤ limit

namespace World.Still

variable {w v u : World σ}

theorem of_slots_le {slots epoch : Nat} {journal : Journal} (h : slots ≤ w.slots) :
    w.Still { w with slots := slots, journal := journal, epoch := epoch } :=
  ⟨⟨_, _, _, rfl⟩, fun _ _ hle => Nat.le_trans h hle⟩

theorem refl (w : World σ) : w.Still w := of_slots_le (Nat.le_refl _)

theorem report (w : World σ) (e : Event) : w.Still (w.report e) := of_slots_le (Nat.le_refl _)

theorem freeSlot (w : World σ) : w.Still w.freeSlot := of_slots_le (Nat.sub_le _ _)

theorem discard (w : World σ) (made : List Instance) : w.Still (Filling.discard w made) :=
  of_slots_le (Nat.sub_le _ _)

theorem takeSlot (h : w.takeSlot = .ok v) : w.Still v := by
  unfold World.takeSlot at h
  split at h
  · rename_i limit hlimit
    split at h
    · rename_i hlt
      cases h
      refine ⟨⟨_, _, _, rfl⟩, fun other hother _ => ?_⟩
      obtain rfl := Option.some.inj (hlimit.symm.trans hother)
      exact hlt
    · cases h
  · rename_i hnone
    cases h
    exact ⟨⟨_, _, _, rfl⟩, fun limit hlimit => nomatch hnone.symm.trans hlimit⟩

theorem trans (h : w.Still v) (h' : v.Still u) : w.Still u := by
  obtain ⟨⟨_, _, _, rfl⟩, hroom⟩ := h
  obtain ⟨⟨_, _, _, rfl⟩, hroom'⟩ := h'
  exact ⟨⟨_, _, _, rfl⟩, fun limit hlimit hle => hroom' limit hlimit (hroom limit hlimit hle)⟩

theorem clock (h : w.Still v) : v.clock = w.clock := by
  obtain ⟨⟨_, _, _, rfl⟩, -⟩ := h
  rfl

theorem engine (h : w.Still v) : v.engine = w.engine := by
  obtain ⟨⟨_, _, _, rfl⟩, -⟩ := h
  rfl

theorem minted (h : w.Still v) : v.minted = w.minted := by
  obtain ⟨⟨_, _, _, rfl⟩, -⟩ := h
  rfl

theorem hears (h : w.Still v) : w.Hears v w.state := by
  obtain ⟨⟨_, _, _, rfl⟩, -⟩ := h
  exact ⟨rfl, rfl⟩

end World.Still

theorem World.Hears.still {w v u : World σ} {state : σ} (h : w.Hears v state) (h' : v.Still u) :
    w.Hears u state :=
  ⟨h'.hears.callback.trans h.callback, h'.hears.state.trans h.state⟩

/-! ## Turns -/

/-- **A guest that has a turn.** -/
structure Running where
  /-- What never changes about it. -/
  body : Body
  /-- What it is like. -/
  guest : Guest
  /-- What it does. -/
  activity : Activity

namespace Running

/-- The world after a turn of some rounds. -/
def after (r : Running) (rounds : Nat) (w : World σ) : World σ :=
  (Activity.proceed r.body rounds w r.guest r.activity).1

/-- **What the callback is asked in a turn** of some rounds. -/
def asks (r : Running) (rounds : Nat) (w : World σ) : List (Context × HostRequest) :=
  Activity.asked r.body rounds w r.guest r.activity

theorem after_hears (r : Running) (rounds : Nat) (w : World σ) :
    w.Hears (r.after rounds w) (w.callback.after w.state (r.asks rounds w)) :=
  Activity.proceed_hears ..

theorem after_lasts (r : Running) (rounds : Nat) (w : World σ) : w.Lasts (r.after rounds w) :=
  (Activity.proceed_frame ..).lasts

end Running

/-- The guest that runs for an instance being made. -/
def Birth.running (b : Birth) : Running := ⟨b.body, b.guest, b.activity⟩

/-- The guest that runs for a call on an instance. -/
def Call.running (i : Instance) (c : Call) : Running := ⟨i.body, i.guest, c.activity⟩

/-- The guest that runs for a reset of an instance. -/
def Reset.running (i : Instance) (r : Reset) : Running := ⟨i.body, i.guest, r.activity⟩

/-! ### Calls -/

namespace Call

theorem conclude_still (w : World σ) (i : Instance) (fuelBefore : Nat) (broken : Bool)
    (outcome : Except HostError Bytes) : w.Still (conclude w i fuelBefore broken outcome).1 := by
  unfold conclude
  dsimp only
  split
  · exact (World.Still.report w _).trans (.report _ _)
  · exact .report w _

/-- **A call that begins** runs no guest. -/
theorem begin_still (w : World σ) (i : Instance) (c : Context) (entrypoint : String)
    (payload : Bytes) : w.Still (begin w i c entrypoint payload).1 := by
  have hturn := begins w i c entrypoint payload
  generalize begin w i c entrypoint payload = turn at hturn ⊢
  cases hturn with
  | refused | missing | entered | allocating => exact .refl w
  | hindered => exact conclude_still ..

theorem proceed_still (rounds : Nat) (w : World σ) (i : Instance) (c : Call) :
    ((running i c).after rounds w).Still (proceed rounds w i c).1 := by
  have hturn := proceeds rounds w i c
  unfold Running.after running
  generalize proceed rounds w i c = turn at hturn ⊢
  dsimp only
  generalize Activity.proceed i.body rounds w i.guest c.activity = run at hturn ⊢
  cases hturn with
  | busy | waiting | entered => exact .refl _
  | concluded => exact conclude_still ..

end Call

/-! ### Resets -/

namespace Reset

/-- **A reset that begins** runs no guest. -/
theorem begin_still (w : World σ) (i : Instance) : w.Still (begin w i).1 := by
  have hturn := begins w i
  generalize begin w i = turn at hturn ⊢
  cases hturn <;> exact .refl w

theorem proceed_still (rounds : Nat) (w : World σ) (i : Instance) (r : Reset) :
    ((running i r).after rounds w).Still (proceed rounds w i r).1 := by
  have hturn := proceeds rounds w i r
  unfold Running.after running
  generalize proceed rounds w i r = turn at hturn ⊢
  dsimp only
  generalize Activity.proceed i.body rounds w i.guest r.activity = run at hturn ⊢
  cases hturn <;> exact .refl _

end Reset

/-! ### Making instances -/

namespace Birth

theorem afterStart_still (w : World σ) (id : Nat) (b : Body) (g : Guest) :
    w.Still (afterStart w id b g).1 := by
  unfold afterStart
  split
  · exact .freeSlot w
  · exact .report w _
  · exact .refl w

theorem Furnishes.still {w : World σ} {b : Blueprint}
    {made : World σ × Except String (Body × Guest)} (h : Furnishes w b made) : w.Still made.1 := by
  cases h with
  | unlinked | crowded => exact .refl w
  | unfit htake => exact (World.Still.takeSlot htake).trans (.freeSlot _)
  | furnished _ htake => exact World.Still.takeSlot htake

/-- **Making an instance begins** without running a guest. -/
theorem begin_still (w : World σ) (blueprint : Blueprint) (id : Nat) :
    w.Still (begin w blueprint id).1 := by
  have hturn := begins w blueprint id
  generalize begin w blueprint id = turn at hturn ⊢
  cases hturn with
  | unfurnished h | starting h => exact h.still
  | startless h => exact h.still.trans (afterStart_still ..)

theorem proceed_still (rounds : Nat) (w : World σ) (b : Birth) :
    (b.running.after rounds w).Still (proceed rounds w b).1 := by
  have hturn := proceeds rounds w b
  unfold Running.after running
  generalize proceed rounds w b = turn at hturn ⊢
  dsimp only
  generalize Activity.proceed b.body rounds w b.guest b.activity = run at hturn ⊢
  cases hturn with
  | busy | waiting => exact .refl _
  | started => exact afterStart_still ..
  | initialized => exact .report _ _
  | abandoned => exact .freeSlot _

end Birth

/-! ### Filling pools -/

namespace Filling

theorem afterBirth_still (f : Filling) (missing : Nat) (w : World σ)
    (s : Standing Birth Birth.Result) : w.Still (afterBirth f missing w s).1 := by
  induction missing generalizing f w s with
  | zero =>
    match s with
    | .busy b | .blocked b => exact .refl w
    | .ended (.error e) => exact .discard w _
    | .ended (.ok i) => exact .report w _
  | succ missing ih =>
    match s with
    | .busy b | .blocked b => exact .refl w
    | .ended (.error e) => exact .discard w _
    | .ended (.ok i) => exact (Birth.begin_still ..).trans (ih ..)

/-- **Filling a pool begins** without running a guest. -/
theorem begin_still (w : World σ) (b : Blueprint) (size : Nat) (timeout : Option Nat) :
    w.Still (begin w b size timeout).1 := by
  unfold begin
  split
  · exact .refl w
  · exact (Birth.begin_still w b 1).trans (afterBirth_still ..)

theorem proceed_still (rounds : Nat) (w : World σ) (f : Filling) :
    (f.birth.running.after rounds w).Still (proceed rounds w f).1 :=
  (Birth.proceed_still rounds w f.birth).trans (afterBirth_still ..)

theorem drop_still (w : World σ) (f : Filling) : w.Still (drop w f) :=
  (World.Still.freeSlot w).trans (.discard _ _)

end Filling
end FunctionHost

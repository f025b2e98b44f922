import FunctionHost.Proofs.Guest.Turns

/-!
# What running a guest never changes

A guest at work leaves time, the engine and the room for instances as they are, and the request that
it serves (`Activity.proceed_frame`).  A turn of a guest is made of rounds, so what every round
keeps, every turn keeps (`Activity.proceed_induction`).

Calls and resets leave the number of an instance and its body as they are, and a fault stays.
Whatever is made from a blueprint has the blueprint's code and settings, and no fault.
-/
namespace FunctionHost

open Wasm (Thread Word)

variable {σ : Type}

/-! ## Guests at work -/

/-- **What guests leave as it is**: time, the settings of the engine and the room for instances.
Identities that they had made up are not made up again. -/
structure World.Lasts (w v : World σ) : Prop where
  clock : v.clock = w.clock
  engine : v.engine = w.engine
  slots : v.slots = w.slots
  minted : w.minted ≤ v.minted

namespace World.Lasts

variable {w v u : World σ}

theorem refl (w : World σ) : w.Lasts w := ⟨rfl, rfl, rfl, Nat.le_refl _⟩

theorem report (w : World σ) (e : Event) : w.Lasts (w.report e) := ⟨rfl, rfl, rfl, Nat.le_refl _⟩

theorem trans (h : w.Lasts v) (h' : v.Lasts u) : w.Lasts u :=
  ⟨h'.clock.trans h.clock, h'.engine.trans h.engine, h'.slots.trans h.slots,
    Nat.le_trans h.minted h'.minted⟩

end World.Lasts

namespace Activity

/-- **What a guest at work leaves as it is**, of the world and of itself. -/
structure Frame (w : World σ) (g : Guest) (v : World σ) (g' : Guest) : Prop where
  lasts : w.Lasts v
  context : g'.context = g.context

section

variable (b : Body) (w : World σ) (g : Guest) (t : Thread) (outer : List (Thread × Delivery))

theorem deliver_frame (allocator : String) (d : Delivery) :
    Frame w g (deliver b w g allocator t d outer).1 (deliver b w g allocator t d outer).2.1 := by
  unfold deliver
  split
  · exact ⟨.refl w, rfl⟩
  · split
    · exact ⟨.report w _, rfl⟩
    · split
      · exact ⟨.refl w, rfl⟩
      · split
        · exact ⟨.report w _, rfl⟩
        · exact ⟨.refl w, rfl⟩

theorem complete_frame (call : PendingCall) (reply : Reply) :
    Frame w g (complete b w g t call reply outer).1 (complete b w g t call reply outer).2.1 := by
  obtain ⟨hlasts, hcontext⟩ := deliver_frame b
    (w.report (HostCall.completed call.context call.request reply)) g t outer call.allocator
    (delivery call.request reply)
  exact ⟨(World.Lasts.report w _).trans hlasts, hcontext⟩

theorem contextOf_lasts : w.Lasts (contextOf b w g).1 := by
  unfold contextOf
  split
  · exact .refl w
  · exact ⟨rfl, rfl, rfl, Nat.le_succ _⟩

theorem hostCall_frame (allocator : String) (args : List Word) :
    Frame w g (hostCall b w g allocator t args outer).1
      (hostCall b w g allocator t args outer).2.1 := by
  unfold hostCall
  dsimp only
  split
  · split
    · exact ⟨(deliver_frame ..).lasts, (deliver_frame ..).context⟩
    · exact ⟨.report w _, rfl⟩
    · have hlasts := contextOf_lasts b w g.recordHostCall
      generalize contextOf b w g.recordHostCall = turn at hlasts
      obtain ⟨v, c⟩ := turn
      dsimp only at hlasts ⊢
      split
      · exact ⟨hlasts.trans (complete_frame ..).lasts, (complete_frame ..).context⟩
      · exact ⟨hlasts.trans ⟨rfl, rfl, rfl, Nat.le_refl _⟩, rfl⟩
  · exact ⟨.report w _, rfl⟩

theorem systemCall_frame (name : String) (args : List Word) :
    Frame w g (systemCall b w g name t args outer).1
      (systemCall b w g name t args outer).2.1 := by
  unfold systemCall
  split
  · exact ⟨.refl w, rfl⟩
  · split
    · exact ⟨.refl w, rfl⟩
    · dsimp only
      split
      · exact ⟨.refl w, rfl⟩
      · split <;> exact ⟨⟨rfl, rfl, rfl, Nat.le_refl _⟩, rfl⟩
    · exact ⟨.refl w, rfl⟩
    · exact ⟨.refl w, rfl⟩

theorem settle_frame (result : Except Stop (List Word)) :
    Frame w g (settle b w g result outer).1 (settle b w g result outer).2.1 := by
  unfold settle
  split
  · exact ⟨.refl w, rfl⟩
  · unfold placed
    dsimp only
    split
    · exact ⟨.report w _, rfl⟩
    · exact ⟨.refl w, rfl⟩

theorem round_frame (a : Activity) :
    Frame w g (round b w g a).1 (round b w g a).2.1 := by
  obtain ⟨focus, outer⟩ := a
  match focus with
  | .acting (.running t) => exact ⟨.refl w, rfl⟩
  | .acting (.returned results) => exact settle_frame b w g outer (.ok results)
  | .acting (.stopped cause) => exact settle_frame b w g outer (.error cause)
  | .acting (.calling t func args) =>
    simp only [round, imported]
    split
    · exact hostCall_frame ..
    · exact systemCall_frame ..
    · exact ⟨.refl w, rfl⟩
  | .awaiting t call =>
    unfold round
    dsimp only
    split
    · exact ⟨.refl w, rfl⟩
    · exact complete_frame ..
    · exact complete_frame ..

end

/-- **What every round keeps, any number of rounds keep.** -/
theorem proceed_induction {b : Body}
    {I : World σ → Guest → Standing Activity Activity.Result → Prop}
    (hround : ∀ w g a, I w g (.busy a) →
      I (round b w g a).1 (round b w g a).2.1 (round b w g a).2.2)
    {w : World σ} {g : Guest} {a : Activity} (h : I w g (.busy a)) (rounds : Nat) :
    I (proceed b rounds w g a).1 (proceed b rounds w g a).2.1 (proceed b rounds w g a).2.2 := by
  induction rounds generalizing w g a with
  | zero => exact h
  | succ rounds ih =>
    have hnext := hround w g a h
    rw [proceed]
    generalize round b w g a = turn at hnext
    obtain ⟨v, g', s⟩ := turn
    cases s with
    | busy a' => exact ih hnext
    | blocked a' => exact hnext
    | ended result => exact hnext

/-- **Rounds of a guest leave the world and the guest what they leave them.** -/
theorem proceed_frame (b : Body) (w : World σ) (g : Guest) (rounds : Nat) (a : Activity) :
    Frame w g (proceed b rounds w g a).1 (proceed b rounds w g a).2.1 :=
  proceed_induction (I := fun v g' _ => Frame w g v g')
    (fun v g' a' h =>
      have hround := round_frame b v g' a'
      ⟨h.lasts.trans hround.lasts, hround.context.trans h.context⟩)
    ⟨.refl w, rfl⟩ rounds

end Activity

/-! ## Instances -/

/-- Whether an instance is what another one has become. -/
structure Instance.SameAs (i j : Instance) : Prop where
  id : i.id = j.id
  body : i.body = j.body

namespace Instance

@[simp] theorem id_setState (i : Instance) (s : InstanceState) : (i.setState s).id = i.id := by
  unfold setState; split <;> rfl

@[simp] theorem body_setState (i : Instance) (s : InstanceState) :
    (i.setState s).body = i.body := by
  unfold setState; split <;> rfl

@[simp] theorem guest_setState (i : Instance) (s : InstanceState) :
    (i.setState s).guest = i.guest := by
  unfold setState; split <;> rfl

theorem isFaulted_setState {i : Instance} (h : i.isFaulted = true) (s : InstanceState) :
    (i.setState s).isFaulted = true := by
  rw [setState, if_pos h]
  exact h

theorem isFaulted_setState_faulted (i : Instance) : (i.setState .faulted).isFaulted = true := by
  by_cases h : i.isFaulted = true
  · exact isFaulted_setState h _
  · rw [setState, if_neg h]
    rfl

theorem isFaulted_setState_idle {i : Instance} (h : i.isFaulted = false) :
    (i.setState .idle).isFaulted = false := by
  rw [setState, if_neg (Bool.eq_false_iff.mp h)]
  rfl

theorem SameAs.refl (i : Instance) : i.SameAs i := ⟨rfl, rfl⟩

theorem SameAs.trans {i j k : Instance} (h : i.SameAs j) (h' : j.SameAs k) : i.SameAs k :=
  ⟨h.id.trans h'.id, h.body.trans h'.body⟩

end Instance

/-! ## Calls -/

namespace Call

theorem conclude_same (w : World σ) (i : Instance) (fuel : Nat) (broken : Bool)
    (outcome : Except HostError Bytes) : (conclude w i fuel broken outcome).2.1.SameAs i := by
  have hfault : (if broken || isMemoryFault outcome then i.fault else i).SameAs i := by
    split <;> exact ⟨rfl, rfl⟩
  unfold conclude
  generalize (if broken || isMemoryFault outcome then i.fault else i) = j at hfault
  dsimp only
  split <;> exact ⟨hfault.id, hfault.body⟩

theorem begin_same (w : World σ) (i : Instance) (c : Context) (entrypoint : String)
    (payload : Bytes) : (begin w i c entrypoint payload).2.1.SameAs i := by
  have hturn := begins w i c entrypoint payload
  generalize begin w i c entrypoint payload = turn at hturn ⊢
  cases hturn with
  | refused | missing => exact .refl i
  | hindered => exact (conclude_same ..).trans ⟨rfl, rfl⟩
  | entered | allocating => exact ⟨rfl, rfl⟩

theorem proceed_same (rounds : Nat) (w : World σ) (i : Instance) (c : Call) :
    (proceed rounds w i c).2.1.SameAs i := by
  have hturn := proceeds rounds w i c
  generalize proceed rounds w i c = turn at hturn ⊢
  generalize Activity.proceed i.body rounds w i.guest c.activity = run at hturn
  cases hturn with
  | busy | waiting | entered => exact ⟨rfl, rfl⟩
  | concluded => exact (conclude_same ..).trans ⟨rfl, rfl⟩

theorem conclude_faulted (w : World σ) {i : Instance} (h : i.isFaulted = true) (fuel : Nat)
    (broken : Bool) (outcome : Except HostError Bytes) :
    (conclude w i fuel broken outcome).2.1.isFaulted = true := by
  rw [conclude_isFaulted, h, Bool.true_or]

/-- No call begins on a faulted instance. -/
theorem begin_faulted (w : World σ) {i : Instance} (h : i.isFaulted = true) (c : Context)
    (entrypoint : String) (payload : Bytes) :
    begin w i c entrypoint payload = (w, i, .ended (.error Instance.faultedError)) :=
  if_pos h

/-- **A call leaves a fault.** -/
theorem proceed_faulted (rounds : Nat) (w : World σ) {i : Instance} (h : i.isFaulted = true)
    (c : Call) : (proceed rounds w i c).2.1.isFaulted = true := by
  have hturn := proceeds rounds w i c
  generalize proceed rounds w i c = turn at hturn ⊢
  generalize Activity.proceed i.body rounds w i.guest c.activity = run at hturn
  cases hturn with
  | busy | waiting | entered => exact h
  | @concluded v g => exact conclude_faulted v (i := { i with guest := g }) h ..

end Call

/-! ## Resets -/

namespace Reset

theorem begin_same (w : World σ) (i : Instance) : (begin w i).2.1.SameAs i := by
  have hturn := begins w i
  generalize begin w i = turn at hturn ⊢
  cases hturn <;> exact ⟨rfl, rfl⟩

theorem proceed_same (rounds : Nat) (w : World σ) (i : Instance) (r : Reset) :
    (proceed rounds w i r).2.1.SameAs i := by
  have hturn := proceeds rounds w i r
  generalize proceed rounds w i r = turn at hturn ⊢
  generalize Activity.proceed i.body rounds w i.guest r.activity = run at hturn
  cases hturn <;> exact ⟨rfl, rfl⟩

/-- No reset begins on a faulted instance. -/
theorem begin_faulted (w : World σ) {i : Instance} (h : i.isFaulted = true) :
    begin w i = (w, i, .ended (.error Instance.faultedError)) :=
  if_pos h

/-- A reset that is not over, or ended well, makes no fault. -/
theorem begin_isFaulted {w v : World σ} {i j : Instance} {s : Standing Reset Result}
    (h : begin w i = (v, j, s)) (hs : ∀ e, s ≠ .ended (.error e)) : j.isFaulted = i.isFaulted := by
  have hturn := begins w i
  rw [h] at hturn
  cases hturn with
  | refused | done | started => rfl
  | grown => exact absurd rfl (hs _)

theorem proceed_isFaulted {rounds : Nat} {w v : World σ} {i j : Instance} {r : Reset}
    {s : Standing Reset Result} (h : proceed rounds w i r = (v, j, s))
    (hs : ∀ e, s ≠ .ended (.error e)) : j.isFaulted = i.isFaulted := by
  have hturn := proceeds rounds w i r
  rw [h] at hturn
  generalize Activity.proceed i.body rounds w i.guest r.activity = run at hturn
  cases hturn with
  | busy | waiting | done => rfl
  | stopped => exact absurd rfl (hs _)

end Reset

/-! ## Births -/

/-- Whether a body has the code and the settings of a blueprint. -/
structure Body.Of (b : Blueprint) (x : Body) : Prop where
  program : x.program = b.program
  execution : x.execution = b.execution

namespace Birth

/-- **Whether a birth is that of an instance of a blueprint** with a number. -/
def Of (b : Blueprint) (id : Nat) : Standing Birth Result → Prop
  | .busy x | .blocked x => x.id = id ∧ x.body.Of b
  | .ended (.ok i) => i.id = id ∧ i.body.Of b
  | .ended (.error _) => True

variable {b : Blueprint} {id : Nat}

theorem of_afterStart {x : Body} (h : x.Of b) (w : World σ) (g : Guest) :
    Of b id (afterStart w id x g).2 := by
  unfold afterStart
  split
  · trivial
  · exact ⟨rfl, h⟩
  · exact ⟨rfl, h⟩

theorem Furnishes.of {w v : World σ} {x : Body} {g : Guest}
    (h : Furnishes w b (v, .ok (x, g))) : x.Of b := by
  cases h with
  | furnished => exact ⟨rfl, rfl⟩

theorem of_begin (w : World σ) : Of b id (begin w b id).2 := by
  have hturn := begins w b id
  generalize begin w b id = turn at hturn ⊢
  cases hturn with
  | unfurnished => trivial
  | startless h => exact of_afterStart h.of _ _
  | starting h => exact ⟨rfl, h.of⟩

theorem of_proceed (rounds : Nat) (w : World σ) {x : Birth} (hid : x.id = id) (hx : x.body.Of b) :
    Of b id (proceed rounds w x).2 := by
  have hturn := proceeds rounds w x
  generalize proceed rounds w x = turn at hturn ⊢
  generalize Activity.proceed x.body rounds w x.guest x.activity = run at hturn
  cases hturn with
  | busy | waiting | initialized => exact ⟨hid, hx⟩
  | started => exact hid ▸ of_afterStart hx _ _
  | abandoned => trivial

/-- Whether an instance was made without a fault, unless there is none. -/
def Faultless : Standing Birth Result → Prop
  | .ended (.ok i) => i.isFaulted = false
  | _ => True

theorem faultless_afterStart (w : World σ) (x : Body) (g : Guest) :
    Faultless (afterStart w id x g).2 := by
  unfold afterStart
  split
  · trivial
  · rfl
  · trivial

/-- **A new instance has no fault.** -/
theorem faultless_begin (w : World σ) (b : Blueprint) (id : Nat) : Faultless (begin w b id).2 := by
  have hturn := begins w b id
  generalize begin w b id = turn at hturn ⊢
  cases hturn with
  | unfurnished | starting => trivial
  | startless => exact faultless_afterStart ..

theorem faultless_proceed (rounds : Nat) (w : World σ) (x : Birth) :
    Faultless (proceed rounds w x).2 := by
  have hturn := proceeds rounds w x
  generalize proceed rounds w x = turn at hturn ⊢
  generalize Activity.proceed x.body rounds w x.guest x.activity = run at hturn
  cases hturn with
  | busy | waiting | abandoned => trivial
  | started => exact faultless_afterStart ..
  | initialized => rfl

theorem of_work? {s : Standing Birth Result} {x : Birth} (h : Of b id s) (hx : s.work? = some x) :
    x.id = id ∧ x.body.Of b := by
  cases s <;> cases hx <;> exact h

end Birth
end FunctionHost

import FunctionHost.Proofs.Server.Listing

/-!
# Publication

A load is published in one step, if its name can be given then, or not at all.  `Traffic.Goes` says
what a step can do to a server and its work, and from it follows that loads of a name succeed and the
name is taken back in turns (`countSteps_lists`).

What lives is accounted for all the time: every place that is taken is that of an instance of a pool,
or of an instance made for a load in progress (`Goes.trades`).  So a load that comes to nothing, for
whatever reason, leaves nothing behind.
-/
namespace FunctionHost

variable {σ : Type}

/-- Whether a turn is the end of work that has done what it was to do. -/
def Server.succeeds (t : Server.Turn σ) : Bool :=
  match t.2 with
  | .ended .done => true
  | _ => false

namespace Traffic

/-- **Lawful traffic**: the pools are in the hands of the work, the registry is as it should be, and
whatever is being filled was begun under the name of its module. -/
structure Lawful (t : Traffic σ) : Prop where
  steady : ∃ broken, Steady broken t
  proper : t.server.Proper
  genuine : ∀ x ∈ t.works, x.Genuine σ

/-- Whether a step is the end of a load of a name that succeeds. -/
def loads (name : String) (t : Traffic σ) : ServerStep σ → Bool
  | .act (.begin _ (.load plan)) => plan.name = name && Server.succeeds (t.server.load plan)
  | .act (.proceed k) => t.works[k]?.any fun x =>
      x.load?.any (·.1 = name) && Server.succeeds (t.server.proceed x)
  | _ => false

/-- Whether a step takes a name back. -/
def takesBack (name : String) (t : Traffic σ) (a : ServerStep σ) : Bool :=
  t.server.lists name && !(t.step a).server.lists name

/-- How often something is the case in some steps, seen from the traffic before each of them. -/
def countSteps (is : Traffic σ → ServerStep σ → Bool) (t : Traffic σ) :
    List (ServerStep σ) → Nat
  | [] => 0
  | a :: as => (is t a).toNat + (t.step a).countSteps is as

/-- How many instances are there for loads in progress. -/
def births (t : Traffic σ) : Nat := (t.works.map ServerWork.births).sum

/-- **What a step can do** to a server and its work. -/
inductive Goes (t : Traffic σ) : ServerStep σ → Traffic σ → Prop
  | acts {a : ServerStep σ} {x : Option ServerWork} {drained : Nat → Prop} {s : Server σ}
      {rest : List ServerWork} (left : List (Nat × Nat)) (new : List ServerWork)
      (hs : Server.Acts x drained t.server s)
      (hd : ∀ n, drained n → (t.server.pool n).closed = true ∨ t.server.closed = true)
      (hworks : t.works.Perm (x.toList ++ rest)) (hx : ∀ z ∈ x, z.births = 0)
      (hown : ∀ z ∈ x, ∃ k, t.works[k]? = some z ∧ (a = .act (.proceed k) ∨ a = .act (.drop k)))
      (hnew : ∀ y ∈ new, y.births = 0) (hno : ∀ name, t.loads name a = false) :
      Goes t a ⟨{ s with left := left }, new ++ rest⟩
  | passed {a : ServerStep σ} {w : World σ} (hw : w.slots = t.server.world.slots)
      (hno : ∀ name, t.loads name a = false) :
      Goes t a ⟨{ t.server with world := w }, t.works⟩
  | loading {k : Nat} {x : ServerWork} {name : String} {size : Nat} {s : Server σ}
      {standing : Standing ServerWork ServerReply} (hx : t.works[k]? = some x)
      (hl : x.load? = some (name, size)) (hturn : t.server.proceed x = (s, standing))
      (h : t.server.Loading x name size (s, standing)) :
      Goes t (.act (.proceed k)) ⟨s, standing.work?.toList ++ t.works.eraseIdx k⟩
  | dropped {k : Nat} {x : ServerWork} {w : World σ} (hx : t.works[k]? = some x)
      (hw : t.server.world.Trades x.births w 0) :
      Goes t (.act (.drop k)) ⟨{ t.server with world := w }, t.works.eraseIdx k⟩
  | unloads {c : Context} {name : String} {e : String × Served} {s : Server σ}
      {new : List ServerWork} (he : e ∈ t.server.registry.entries.entries) (hname : e.1 = name)
      (hs : Server.Acts none (fun n => n = e.2.pool)
        { t.server with
          registry := { t.server.registry with entries := t.server.registry.entries.erase name } } s)
      (hnew : ∀ y ∈ new, y.births = 0) :
      Goes t (.act (.begin c (.unload name))) ⟨s, new ++ t.works⟩
  | shuts {a : ServerStep σ} {s : Server σ} (new : List ServerWork)
      (ha : a = .shut ∨ ∃ c, a = .act (.begin c .shutDown)) (ho : t.server.closed = false)
      (hs : Server.Acts none (fun _ => True) t.server.shut s) (hnew : ∀ y ∈ new, y.births = 0) :
      Goes t a ⟨s, new ++ t.works⟩

variable {t u : Traffic σ} {a : ServerStep σ} {name : String}

/-- Work that is not about loading is neither compiled nor filled. -/
theorem not_loading {x : ServerWork} (hx : x.load? = none) :
    (∀ plan, x ≠ .compiling plan) ∧ ∀ name hash f, x ≠ .filling name hash f := by
  constructor
  · rintro plan rfl
    cases hx
  · rintro name hash f rfl
    cases hx

theorem Lawful.sound (h : Lawful t) {k : Nat} {x : ServerWork} (hx : t.works[k]? = some x) :
    x.Sound t.server := by
  obtain ⟨broken, hsteady⟩ := h.steady
  exact Server.InOrder.works hsteady x (List.mem_append_left _ (List.mem_of_getElem? hx))

theorem perm_eraseIdx {k : Nat} {x : ServerWork} (hx : t.works[k]? = some x) :
    t.works.Perm (x :: t.works.eraseIdx k) := by
  obtain ⟨hk, rfl⟩ := List.getElem?_eq_some_iff.mp hx
  exact (List.getElem_cons_eraseIdx_perm hk).symm

/-- **What comes of a command.** -/
theorem goes_begin (h : Lawful t) (c : Context) (command : ServerCommand) :
    Goes t (.act (.begin c command)) (t.step (.act (.begin c command))) := by
  -- Whatever is begun without loading anything, and makes no instance.
  have hnone {drained : Nat → Prop} {s : Server σ} (hs : Server.Acts none drained t.server s)
      (hd : ∀ n, drained n → (t.server.pool n).closed = true ∨ t.server.closed = true)
      (new : List ServerWork) (hnew : ∀ y ∈ new, y.births = 0)
      (hno : ∀ name, t.loads name (.act (.begin c command)) = false) :
      Goes t (.act (.begin c command)) ⟨s, new ++ t.works⟩ :=
    .acts s.left new hs hd (.refl _) (fun _ hz => by cases hz) (fun _ hz => by cases hz) hnew hno
  cases command with
  | load plan =>
    rw [step_begin, perform, Server.begin]
    rcases Server.load_begins t.server plan with hload | ⟨e, hload⟩
    · have hno (name : String) : t.loads name (.act (.begin c (.load plan))) = false := by
        rw [loads, hload, Server.succeeds, Bool.and_false]
      rw [hload]
      have hstill : Server.Acts none (fun _ => False) t.server t.server := .refl
      exact hnone hstill (fun n hn => hn.elim) [.compiling plan]
        (fun y hy => by rw [List.mem_singleton.mp hy]; rfl) hno
    · have hno (name : String) : t.loads name (.act (.begin c (.load plan))) = false := by
        rw [loads, hload, Server.refuse, Server.succeeds, Bool.and_false]
      rw [hload]
      exact .passed rfl hno
  | execute name entrypoint payload =>
    have hbirths : ∀ y ∈ (t.server.execute Server.quantum name entrypoint payload c).2.work?.toList,
        y.births = 0 := by
      intro y hy
      unfold Server.execute at hy
      split at hy
      · cases hy
      · cases hy
      · exact (Server.at_afterCheckout y (Option.mem_toList.mp hy)).births
    exact hnone (Server.acts_execute h.proper name entrypoint payload c) (fun n hn => hn.elim)
      _ hbirths fun _ => rfl
  | unload name =>
    rcases Server.acts_unload h.proper name with ⟨-, hrefused⟩ | ⟨e, he, hname, hs⟩
    · rw [step_begin, perform, Server.begin, hrefused]
      exact .passed rfl fun _ => rfl
    · refine .unloads he hname hs fun y hy => ?_
      have hy : y ∈ (t.server.unload name).2.work? := Option.mem_toList.mp hy
      unfold Server.unload at hy
      split at hy
      · cases hy
      · exact Server.births_pollUnload y hy
  | shutDown =>
    rw [step_begin, perform, Server.begin]
    cases hc : t.server.closed with
    | true =>
      rw [Server.shutDown_of_closed hc]
      exact .passed rfl fun _ => rfl
    | false =>
      refine .shuts _ (.inr ⟨c, rfl⟩) hc (Server.acts_shutDown h.proper hc).1 fun y hy => ?_
      have hy : y ∈ t.server.shutDown.2.work? := Option.mem_toList.mp hy
      simp only [Server.shutDown, hc, Bool.false_eq_true, if_false] at hy
      exact Server.births_pollClose y hy
  | tick count => exact .passed rfl fun _ => rfl

/-- **What comes of a turn of some work.** -/
theorem goes_proceed (h : Lawful t) (k : Nat) :
    Goes t (.act (.proceed k)) (t.step (.act (.proceed k))) := by
  rw [step_proceed, perform]
  cases hx : t.works[k]? with
  | none =>
    refine .passed rfl fun name => ?_
    rw [loads, hx]
    rfl
  | some x =>
    cases hl : x.load? with
    | some plan =>
      obtain ⟨name, size⟩ := plan
      exact .loading hx hl rfl
        (Server.loading_proceed hl (h.genuine x (List.mem_of_getElem? hx)))
    | none =>
      obtain ⟨hcompiling, hfilling⟩ := not_loading hl
      refine .acts (t.server.proceed x).1.left _
        (Server.acts_turn (h.sound hx) hcompiling hfilling) (fun n hn => .inl hn)
        (perm_eraseIdx hx) (fun z hz => ?_) (fun z hz => ?_) (fun y hy => ?_) fun name => ?_
      · cases hz
        exact ServerWork.births_of_load?_none hl
      · cases hz
        exact ⟨k, hx, .inl rfl⟩
      · exact Server.births_turn hcompiling hfilling y (Option.mem_toList.mp hy)
      · rw [loads, hx, Option.any_some, hl]
        rfl

/-- **What comes of giving work up.** -/
theorem goes_drop (h : Lawful t) (k : Nat) :
    Goes t (.act (.drop k)) (t.step (.act (.drop k))) := by
  rw [step_drop, perform]
  cases hx : t.works[k]? with
  | none => exact .passed rfl fun name => rfl
  | some x =>
    cases hl : x.load? with
    | some plan =>
      obtain ⟨name, size⟩ := plan
      obtain ⟨w, hdrop, hw⟩ := Server.drop_load (s := t.server) hl
      dsimp only
      rw [hdrop]
      exact .dropped hx hw
    | none =>
      obtain ⟨s, left, hs, hdrop⟩ := Server.acts_drop (h.sound hx) (not_loading hl).2
      dsimp only
      rw [hdrop]
      refine .acts left [] hs (fun n hn => hn.elim) (perm_eraseIdx hx) (fun z hz => ?_)
        (fun z hz => ?_) (List.forall_mem_nil _) fun name => rfl
      · cases hz
        exact ServerWork.births_of_load?_none hl
      · cases hz
        exact ⟨k, hx, .inr rfl⟩

/-- **Every step goes one of these ways.** -/
theorem goes_step (h : Lawful t) (a : ServerStep σ) : Goes t a (t.step a) := by
  -- A step that only concerns pools of a server that was shut down.
  have hclosed {s : Server σ} (a : ServerStep σ) (hc : t.server.closed = true)
      (hs : Server.Acts none (fun _ => True) t.server s) (hno : ∀ name, t.loads name a = false) :
      Goes t a ⟨s, t.works⟩ :=
    .acts s.left [] hs (fun n _ => .inr hc) (.refl _)
      (fun _ hz => nomatch hz) (fun _ hz => nomatch hz) (fun _ hy => nomatch hy) hno
  cases a with
  | act a =>
    cases a with
    | begin c command => exact goes_begin h c command
    | proceed k => exact goes_proceed h k
    | drop k => exact goes_drop h k
    | collect =>
      have hstill : Server.Acts none (fun _ => False) t.server t.server := .refl
      refine .acts [] (t.server.left.map fun r => .restoring r.1 r.2 none) hstill
        (fun n hn => hn.elim) (.refl _) (fun _ hz => nomatch hz) (fun _ hz => nomatch hz)
        (fun y hy => ?_) fun _ => rfl
      obtain ⟨z, -, rfl⟩ := List.mem_map.mp hy
      rfl
    | elapse w => exact .passed rfl fun _ => rfl
  | shut =>
    cases hc : t.server.closed with
    | true =>
      rw [step, Server.shut, hc]
      exact .passed rfl fun _ => rfl
    | false => exact .shuts [] (.inl rfl) hc .refl fun _ hy => nomatch hy
  | close n =>
    rw [step]
    split
    · rename_i hn
      exact hclosed _ hn.1 (Server.Acts.refl.close hn.2 trivial) fun _ => rfl
    · exact .passed rfl fun _ => rfl
  | drain n deadline =>
    rw [step]
    split
    · rename_i hn
      refine hclosed _ hn.1 ?_ fun _ => rfl
      rw [Server.act_drain hn.2.2]
      exact Server.Acts.refl.drain hn.2.1 hn.2.2 trivial deadline
    · exact .passed rfl fun _ => rfl

/-! ## What every step keeps -/

namespace Goes

/-- **A step keeps the registry as it should be.** -/
theorem proper (hg : Goes t a u) (h : t.server.Proper) : u.server.Proper := by
  cases hg with
  | acts left new hs hd hworks hx hown hnew hno =>
    refine (h.acts hs fun e he hdrained => ?_).withLeft _
    rcases hd _ hdrained with hc | hc
    · exact nomatch (h.usable e he).symm.trans hc
    · rw [h.emptied hc] at he
      exact nomatch he
  | passed hw hno => exact h.world _
  | loading hx hl hturn hload =>
    cases hload with
    | goesOn hfull hy hl hg hw => exact h.world _
    | failed hfull hw => exact h.world _
    | late hfull hc hw => exact h.world _
    | taken hfull ho ht hw => exact h.world _
    | published hfull hp hb ho hf hw => exact h.publishing hp hb ho _ _
  | dropped hx hw => exact h.world _
  | @unloads c name e s new he hname hs hnew =>
    refine (h.erase name).acts hs fun e' he' hpool => ?_
    -- Two entries with one pool have the name of that pool.
    obtain ⟨he', hne⟩ := List.mem_filter.mp he'
    have hnames : e'.1 = e.1 :=
      (h.named e' he').2.symm.trans ((congrArg (fun n => (t.server.pool n).name) hpool).trans
        (h.named e he).2)
    exact of_decide_eq_true hne (hnames.trans hname)
  | shuts new ha ho hs hnew =>
    refine h.shut.acts hs fun e he => ?_
    rw [Server.registry_of_shut h.flags ho] at he
    exact nomatch he

/-- **What holds of all work**, of such as makes nothing and of whatever a turn of a load leaves to
do, holds after a step. -/
theorem works_induction {W : ServerWork → Prop} (hg : Goes t a u) (h : ∀ x ∈ t.works, W x)
    (hnone : ∀ y : ServerWork, y.births = 0 → W y)
    (hload : ∀ x ∈ t.works, ∀ name size, x.load? = some (name, size) →
      t.server.Loading x name size (t.server.proceed x) →
        ∀ y ∈ (t.server.proceed x).2.work?, W y) : ∀ x ∈ u.works, W x := by
  -- New work has not begun to make anything; the rest is what there was.
  have hall {new rest : List ServerWork} (hnew : ∀ y ∈ new, y.births = 0)
      (hrest : ∀ y ∈ rest, y ∈ t.works) : ∀ x ∈ new ++ rest, W x := by
    intro x hx
    rcases List.mem_append.mp hx with hx | hx
    · exact hnone x (hnew x hx)
    · exact h x (hrest x hx)
  cases hg with
  | acts left new hs hd hworks hx hown hnew hno =>
    exact hall hnew fun y hy => hworks.mem_iff.mpr (List.mem_append_right _ hy)
  | passed hw hno => exact h
  | @loading k x name size s standing hx hl hturn hloading =>
    have hnext := hload x (List.mem_of_getElem? hx) name size hl
    rw [hturn] at hnext
    intro y hy
    rcases List.mem_append.mp hy with hy | hy
    · exact hnext hloading y (Option.mem_toList.mp hy)
    · exact h y (List.mem_of_mem_eraseIdx hy)
  | dropped hx hw => exact fun y hy => h y (List.mem_of_mem_eraseIdx hy)
  | unloads he hname hs hnew => exact hall hnew fun y hy => hy
  | shuts new ha ho hs hnew => exact hall hnew fun y hy => hy

theorem genuine (hg : Goes t a u) (h : ∀ x ∈ t.works, x.Genuine σ) :
    ∀ x ∈ u.works, x.Genuine σ := by
  refine hg.works_induction h (fun y => ServerWork.genuine_of_births) ?_
  intro x _ name size _ hloading y hy
  generalize t.server.proceed x = turn at hloading hy
  cases hloading with
  | goesOn hfull hz hl hg hw =>
    rw [hz] at hy
    cases hy
    exact hg
  | _ => cases hy

/-! ### Places -/

theorem births_append {new rest : List ServerWork} (hnew : ∀ y ∈ new, y.births = 0) :
    ((new ++ rest).map ServerWork.births).sum = (rest.map ServerWork.births).sum := by
  have hzero : (new.map ServerWork.births).sum = 0 := by
    refine List.sum_eq_zero_iff_forall_eq_nat.mpr fun n hn => ?_
    obtain ⟨y, hy, rfl⟩ := List.mem_map.mp hn
    exact hnew y hy
  rw [List.map_append, List.sum_append_nat, hzero, Nat.zero_add]

theorem births_eraseIdx {k : Nat} {x : ServerWork} (hx : t.works[k]? = some x) :
    t.births = ((t.works.eraseIdx k).map ServerWork.births).sum + x.births := by
  have hsum := ((perm_eraseIdx hx).map ServerWork.births).sum_nat
  rw [births, hsum, List.map_cons, List.sum_cons, Nat.add_comm]

theorem stock_publishing {s : Server σ} {w : World σ} {name hash : String} {p : Pool} :
    (s.publishing w name hash p).stock = s.stock + p.holdings.length := by
  simp [Server.stock, Server.publishing]

theorem stock_shut (s : Server σ) : s.shut.stock = s.stock ∧ s.shut.world.slots = s.world.slots := by
  unfold Server.shut
  split <;> exact ⟨rfl, rfl⟩

/-- **Every place is that of an instance** of a pool, or of one made for a load in progress: whatever
a step does, it changes both alike. -/
theorem trades (hg : Goes t a u) (h : t.server.Proper) :
    t.server.world.Trades (t.server.stock + t.births) u.server.world
      (u.server.stock + u.births) := by
  -- Acts on pools trade with their stock; what is being filled lives on beside it.
  have hpools {s' s : Server σ} {x : Option ServerWork} {drained : Nat → Prop} {b b' : Nat}
      (hs : Server.Acts x drained s' s) (hk : ∀ n, (s'.pool n).Kindred) (hb : b' = b)
      (hw : s'.world.slots = t.server.world.slots) (hstock : s'.stock = t.server.stock) :
      t.server.world.Trades (t.server.stock + b) s.world (s.stock + b') := by
    have hmore := ((World.Trades.of_slots (a := t.server.stock) hw).trans
      (hstock ▸ hs.trades hk)).more b
    rw [hb, Nat.add_comm _ b, Nat.add_comm _ b]
    exact hmore
  cases hg with
  | @acts a x drained s rest left new hs hd hworks hx hown hnew hno =>
    have hbirths : ((new ++ rest).map ServerWork.births).sum = t.births := by
      have hperm := (hworks.map ServerWork.births).sum_nat
      rw [births, births_append hnew, hperm, births_append]
      exact fun y hy => hx y (Option.mem_toList.mp hy)
    have htrades := hpools hs h.kindred hbirths rfl rfl
    exact htrades
  | passed hw hno => exact .of_slots hw
  | @loading k x name size s standing hx hl hturn hload =>
    rw [births_eraseIdx hx, births]
    rw [← Nat.add_assoc]
    cases hload with
    | @goesOn w y standing hfull hy hl hg hw =>
      have hlist : standing.work?.toList = [y] := by rw [hy]; rfl
      rw [hlist, List.singleton_append, List.map_cons, List.sum_cons, Nat.add_comm y.births,
        ← Nat.add_assoc]
      exact hw.more _
    | failed hfull hw => exact hw.more _
    | late hfull hc hw => exact hw.more _
    | taken hfull ho ht hw => exact hw.more _
    | @published w p b timeout hash hfull hp hb ho hf hw =>
      have hcounts : (t.server.publishing w name hash p).stock +
          ((t.works.eraseIdx k).map ServerWork.births).sum =
          t.server.stock + ((t.works.eraseIdx k).map ServerWork.births).sum +
            p.holdings.length := by
        rw [stock_publishing]
        omega
      exact (hw.more _).trans (.of_eq rfl hcounts)
  | @dropped k x w hx hw =>
    rw [births_eraseIdx hx, births, ← Nat.add_assoc]
    exact hw.more _
  | unloads he hname hs hnew =>
    exact hpools hs h.kindred (births_append hnew) rfl rfl
  | shuts new ha ho hs hnew =>
    exact hpools hs h.shut.kindred (births_append hnew) (stock_shut _).2 (stock_shut _).1

end Goes

theorem Lawful.step (h : Lawful t) (a : ServerStep σ) : Lawful (t.step a) := by
  obtain ⟨broken, hsteady⟩ := h.steady
  obtain ⟨broken', hnext, -⟩ := hsteady.step a
  have hg := goes_step h a
  exact ⟨⟨broken', hnext⟩, hg.proper h.proper, hg.genuine h.genuine⟩

theorem Lawful.steps (h : Lawful t) (as : List (ServerStep σ)) : Lawful (t.steps as) :=
  steps_induction h (fun _ a hu => hu.step a) as

/-- **What lives** is what the pools have and what is there for loads in progress, all the time. -/
theorem Lawful.houses (h : Lawful t) (as : List (ServerStep σ)) :
    t.server.world.Trades (t.server.stock + t.births) (t.steps as).server.world
      ((t.steps as).server.stock + (t.steps as).births) := by
  refine (steps_induction (I := fun u => Lawful u ∧
    t.server.world.Trades (t.server.stock + t.births) u.server.world
      (u.server.stock + u.births)) ⟨h, .of_slots rfl⟩ (fun u a hu => ?_) as).2
  exact ⟨hu.1.step a, hu.2.trans ((goes_step hu.1 a).trades hu.1.proper)⟩

/-! ## Names that are given and taken back -/

theorem lists_congr {s s' : Server σ} (h : s'.registry = s.registry) (name : String) :
    s'.lists name = s.lists name := by
  rw [Server.lists, Server.lists, h]

/-- What a turn of a load that is not published does to a registry: nothing. -/
theorem succeeds_of_work? {turn : Server.Turn σ} {y : ServerWork} (h : turn.2.work? = some y) :
    Server.succeeds turn = false := by
  obtain ⟨s, standing⟩ := turn
  cases standing <;> first | rfl | cases h

/-- **A name is given when a load of it succeeds**, and not otherwise; it stays given until it is
taken back. -/
theorem Goes.lists (hg : Goes t a (t.step a)) (h : t.server.Proper) (name : String) :
    (t.loads name a).toNat + (t.server.lists name).toNat =
      (t.takesBack name a).toNat + ((t.step a).server.lists name).toNat := by
  -- A name that was not loaded can only have been taken from the list.
  have hquiet (hno : t.loads name a = false)
      (hless : (t.step a).server.lists name = true → t.server.lists name = true) :
      (t.loads name a).toNat + (t.server.lists name).toNat =
        (t.takesBack name a).toNat + ((t.step a).server.lists name).toNat := by
    rw [hno, takesBack]
    cases hafter : (t.step a).server.lists name with
    | true => rw [hless hafter]; rfl
    | false => cases t.server.lists name <;> rfl
  have hsame (hno : t.loads name a = false)
      (hr : (t.step a).server.registry = t.server.registry) :=
    hquiet hno fun hafter => (lists_congr hr name).symm.trans hafter
  generalize hu : t.step a = u at hg hquiet hsame ⊢
  cases hg with
  | acts left new hs hd hworks hx hown hnew hno => exact hsame (hno name) hs.listed.1
  | passed hw hno => exact hsame (hno name) rfl
  | @loading k x other size s standing hx hl hturn hload =>
    have hloads : t.loads name (.act (.proceed k)) =
        (decide (other = name) && Server.succeeds (s, standing)) := by
      rw [loads, hx, Option.any_some, hl, Option.any_some, hturn]
    cases hload with
    | goesOn hfull hy hl hg hw =>
      exact hsame (by rw [hloads, succeeds_of_work? hy, Bool.and_false]) rfl
    | failed hfull hw => exact hsame (by rw [hloads]; exact Bool.and_false _) rfl
    | late hfull hc hw => exact hsame (by rw [hloads]; exact Bool.and_false _) rfl
    | taken hfull ho ht hw => exact hsame (by rw [hloads]; exact Bool.and_false _) rfl
    | @published w p b timeout hash hfull hp hb ho hf hw =>
      have hafter : (t.server.publishing w other hash p).lists name =
          (decide (name = other) || t.server.lists name) := Dictionary.contains_insert
      rw [hloads, takesBack, hu, hafter]
      -- The name that is published was free, so nothing is taken back for it.
      by_cases hname : other = name
      · subst hname
        have hbefore : t.server.lists other = false := hf
        simp [hbefore, Server.succeeds]
      · have hname' : ¬ name = other := fun he => hname he.symm
        simp [hname, hname']
  | dropped hx hw => exact hsame rfl rfl
  | unloads he hname hs hnew =>
    refine hquiet rfl fun hafter => ?_
    rw [lists_congr hs.listed.1, Server.lists, Dictionary.contains_erase, Bool.and_eq_true] at hafter
    exact hafter.2
  | shuts new ha ho hs hnew =>
    have hno : t.loads name a = false := by
      rcases ha with rfl | ⟨c, rfl⟩ <;> rfl
    refine hquiet hno fun hafter => ?_
    rw [Server.lists, hs.listed.1, Server.registry_of_shut h.flags ho] at hafter
    cases hafter

/-- **Only unloading a name and shutting down take it back.** -/
theorem Goes.takesBack (hg : Goes t a (t.step a)) (h : t.takesBack name a = true) :
    a = .shut ∨ (∃ c, a = .act (.begin c .shutDown)) ∨ ∃ c, a = .act (.begin c (.unload name)) := by
  obtain ⟨hbefore, hafter⟩ := Bool.and_eq_true_iff.mp h
  have hstays (hmore : t.server.lists name = true → (t.step a).server.lists name = true) : False := by
    rw [hmore hbefore] at hafter
    cases hafter
  generalize t.step a = u at hg hstays hafter
  cases hg with
  | acts left new hs hd hworks hx hown hnew hno =>
    exact (hstays fun hb => (lists_congr hs.listed.1 name).trans hb).elim
  | passed hw hno => exact (hstays id).elim
  | loading hx hl hturn hload =>
    refine (hstays ?_).elim
    cases hload with
    | published hfull hp hb ho hf hw =>
      intro hb
      rw [Server.lists, Server.publishing, Dictionary.contains_insert]
      exact Bool.or_eq_true_iff.mpr (.inr hb)
    | _ => exact id
  | dropped hx hw => exact (hstays id).elim
  | @unloads c other e s new he hname hs hnew =>
    refine .inr (.inr ⟨c, ?_⟩)
    by_cases hother : name = other
    · rw [hother]
    · refine (hstays fun hb => ?_).elim
      rw [Server.lists, hs.listed.1, Dictionary.contains_erase]
      exact Bool.and_eq_true_iff.mpr ⟨decide_eq_true hother, hb⟩
  | shuts new ha ho hs hnew =>
    rcases ha with rfl | ⟨c, rfl⟩
    · exact .inl rfl
    · exact .inr (.inl ⟨c, rfl⟩)

/-- **Loads of a name succeed and the name is taken back in turns.** -/
theorem Lawful.countSteps_lists (h : Lawful t) (as : List (ServerStep σ)) (name : String) :
    t.countSteps (Traffic.loads name) as + (t.server.lists name).toNat =
      t.countSteps (Traffic.takesBack name) as + ((t.steps as).server.lists name).toNat := by
  induction as generalizing t with
  | nil => rfl
  | cons a as ih =>
    have hfirst := (goes_step h a).lists h.proper name
    have hrest := ih (h.step a)
    rw [countSteps, countSteps, Traffic.steps, List.foldl_cons]
    rw [Traffic.steps] at hrest
    omega

/-- **A registry that is closed stays as it is.** -/
theorem Goes.registry_of_closed (hg : Goes t a u) (h : t.server.Proper)
    (hc : t.server.registry.closed = true) : u.server.registry = t.server.registry := by
  have hclosed : t.server.closed = true := h.flags ▸ hc
  cases hg with
  | acts left new hs hd hworks hx hown hnew hno => exact hs.listed.1
  | passed hw hno => rfl
  | loading hx hl hturn hload =>
    cases hload with
    | published hfull hp hb ho hf hw => exact nomatch ho.symm.trans hc
    | _ => rfl
  | dropped hx hw => rfl
  | unloads he hname hs hnew =>
    rw [h.emptied hclosed] at he
    exact nomatch he
  | shuts new ha ho hs hnew => exact nomatch ho.symm.trans hclosed

theorem Lawful.registry_of_closed (h : Lawful t) (hc : t.server.registry.closed = true)
    (as : List (ServerStep σ)) : (t.steps as).server.registry = t.server.registry := by
  refine (steps_induction (I := fun u => Lawful u ∧ u.server.registry = t.server.registry)
    ⟨h, rfl⟩ (fun u a hu => ?_) as).2
  have hnext := (goes_step hu.1 a).registry_of_closed hu.1.proper (by rw [hu.2]; exact hc)
  exact ⟨hu.1.step a, hnext.trans hu.2⟩

/-- **An entry that appears** is that of a load that has filled its pool in this step. -/
theorem Goes.appears {e : String × Served} (hg : Goes t a u) (h : t.server.Proper)
    (he : e ∈ u.server.registry.entries.entries) (hnew : e ∉ t.server.registry.entries.entries) :
    ∃ k x size b timeout p, a = .act (.proceed k) ∧ t.works[k]? = some x ∧
      x.load? = some (e.1, size) ∧ t.server.fills? x = some p ∧ Filled σ b size timeout p ∧
      e.2.pool = t.server.pools.size ∧ u.server.pools = t.server.pools.push p := by
  cases hg with
  | acts left new hs hd hworks hx hown hn hno =>
    rw [hs.listed.1] at he
    exact absurd he hnew
  | passed hw hno => exact absurd he hnew
  | loading hx hl hturn hload =>
    cases hload with
    | published hfull hp hb ho hf hw =>
      rcases Dictionary.mem_insertEntry he with rfl | he
      · exact ⟨_, _, _, _, _, _, rfl, hx, hl, hfull, hp, rfl, rfl⟩
      · exact absurd he hnew
    | _ => exact absurd he hnew
  | dropped hx hw => exact absurd he hnew
  | unloads he' hname hs hn =>
    rw [hs.listed.1] at he
    exact absurd (List.mem_filter.mp he).1 hnew
  | shuts new ha ho hs hn =>
    rw [hs.listed.1, Server.registry_of_shut h.flags ho] at he
    exact nomatch he

/-! ## Loads that come to nothing -/

/-- **A step ends a load that comes to nothing**, for which there were so many instances: it is
refused, at once or later, or it is given up. -/
inductive Fails (t : Traffic σ) : ServerStep σ → Nat → List ServerWork → Prop
  | refused {c : Context} {plan : LoadPlan} {e : HostError}
      (h : (t.server.load plan).2 = .ended (.refused e)) :
      Fails t (.act (.begin c (.load plan))) 0 t.works
  | failed {k : Nat} {x : ServerWork} {name : String} {size : Nat} {e : HostError}
      (hx : t.works[k]? = some x) (hl : x.load? = some (name, size))
      (h : (t.server.proceed x).2 = .ended (.refused e)) :
      Fails t (.act (.proceed k)) x.births (t.works.eraseIdx k)
  | dropped {k : Nat} {x : ServerWork} {name : String} {size : Nat}
      (hx : t.works[k]? = some x) (hl : x.load? = some (name, size)) :
      Fails t (.act (.drop k)) x.births (t.works.eraseIdx k)

theorem Fails.le_births {n : Nat} {rest : List ServerWork} (hf : Fails t a n rest) :
    n ≤ t.births := by
  have hwork {k : Nat} {x : ServerWork} (hx : t.works[k]? = some x) : x.births ≤ t.births := by
    have hsum := Goes.births_eraseIdx hx
    omega
  cases hf with
  | refused hrefused => exact Nat.zero_le _
  | failed hx hl hrefused => exact hwork hx
  | dropped hx hl => exact hwork hx

/-- What a step leaves of a server if it changes nothing but what all guests share. -/
structure Untouched (t u : Traffic σ) : Prop where
  registry : u.server.registry = t.server.registry
  pools : u.server.pools = t.server.pools
  closed : u.server.closed = t.server.closed

/-- **A load that comes to nothing leaves nothing behind**: the registry and all pools are as they
were, and of what lives its instances are gone. -/
theorem Lawful.fails (h : Lawful t) {n : Nat} {rest : List ServerWork} (hf : Fails t a n rest) :
    Untouched t (t.step a) ∧ (t.step a).works = rest ∧
      t.server.world.Trades n (t.step a).server.world 0 := by
  cases hf with
  | @refused c plan e hrefused =>
    rcases Server.load_begins t.server plan with hload | ⟨e', hload⟩
    · rw [hload] at hrefused
      cases hrefused
    · rw [step_begin, perform, Server.begin, hload]
      exact ⟨⟨rfl, rfl, rfl⟩, rfl, .of_slots rfl⟩
  | @failed k x name size e hx hl hrefused =>
    have hturn := Server.loading_proceed (s := t.server) hl (h.genuine x (List.mem_of_getElem? hx))
    have hstep : t.step (.act (.proceed k)) =
        ⟨(t.server.proceed x).1, (t.server.proceed x).2.work?.toList ++ t.works.eraseIdx k⟩ := by
      rw [step_proceed, perform, hx]
    rw [hstep]
    generalize t.server.proceed x = turn at hturn hrefused
    cases hturn with
    | @goesOn w y standing hfull hy hl hg hw =>
      -- A filling that goes on refuses nothing.
      have hended : standing = .ended (.refused e) := hrefused
      rw [hended] at hy
      cases hy
    | failed hfull hw => exact ⟨⟨rfl, rfl, rfl⟩, rfl, hw⟩
    | late hfull hc hw => exact ⟨⟨rfl, rfl, rfl⟩, rfl, hw⟩
    | taken hfull ho ht hw => exact ⟨⟨rfl, rfl, rfl⟩, rfl, hw⟩
    | published hfull hp hb ho hf hw => cases hrefused
  | @dropped k x name size hx hl =>
    obtain ⟨w, hdrop, hw⟩ := Server.drop_load (s := t.server) hl
    have hstep : t.step (.act (.drop k)) =
        ⟨{ t.server with world := w }, t.works.eraseIdx k⟩ := by
      rw [step_drop, perform, hx, ← hdrop]
    rw [hstep]
    exact ⟨⟨rfl, rfl, rfl⟩, rfl, hw⟩

/-! ## All runs -/

/-- A server that was just started is as it should be. -/
theorem lawful_of_start {w v : World σ} {files : Files} {plan : ServerPlan} {s : Server σ}
    (hs : Server.start w files plan = (v, .ok s)) : Lawful ⟨s, []⟩ ∧ s.stock = 0 := by
  have hnew := Server.fresh_of_start hs
  have hentries : s.registry.entries.entries = [] := by rw [hnew.registry]; rfl
  refine ⟨⟨⟨_, steady_of_start hs⟩, ⟨?_, fun e he => ?_, fun e he => ?_, ?_, fun _ => hentries,
    fun n => ?_⟩, fun x hx => nomatch hx⟩, ?_⟩
  · rw [hnew.registry]
    exact List.nodup_nil
  · rw [hentries] at he
    exact nomatch he
  · rw [hentries] at he
    exact nomatch he
  · rw [hnew.registry, hnew.opened]
  · rw [Server.pool_of_size_le (by rw [hnew.pools]; exact Nat.zero_le n)]
    exact Server.kindred_default
  · rw [Server.stock, hnew.pools]
    rfl

/-- **Publication at one point of a run**, given how many instances lived before the server was
started.

* A name is given once, to an open pool of that name (`proper`), and what a closed registry has stays
  as it is, which is nothing (`forever`).
* As often as a name is taken back, and once more if it is given in the end, a load of it succeeds
  (`counted`); so between two times it is taken back one load of it does (`once`).  Only unloading it
  and shutting down take it back (`taken`).
* A load whose pool is full is published, or refused because the name is given or the registry is
  closed (`turns`).
* What appears in the registry belongs to a pool that has all its instances (`appears`).
* A load that is refused, fails or is given up leaves the registry and all pools as they are, and its
  instances are gone (`fails`).
* What lives is what the pools have and what is there for loads in progress (`lives`). -/
structure Atomic (base : Nat) (t : Traffic σ) : Prop where
  proper : t.server.Proper
  forever : t.server.registry.closed = true → ∀ as,
    (t.steps as).server.registry = t.server.registry ∧ t.server.registry.entries.entries = []
  counted : ∀ as name, t.countSteps (loads name) as + (t.server.lists name).toNat =
    t.countSteps (Traffic.takesBack name) as + ((t.steps as).server.lists name).toNat
  once : ∀ as name, t.countSteps (Traffic.takesBack name) as = 0 → t.countSteps (loads name) as ≤ 1
  taken : ∀ a name, t.takesBack name a = true →
    a = .shut ∨ (∃ c, a = .act (.begin c .shutDown)) ∨ ∃ c, a = .act (.begin c (.unload name))
  turns : ∀ x ∈ t.works, ∀ name size, x.load? = some (name, size) →
    t.server.Loading x name size (t.server.proceed x)
  appears : ∀ a, ∀ e ∈ (t.step a).server.registry.entries.entries,
    e ∉ t.server.registry.entries.entries →
      ∃ k x size p, a = .act (.proceed k) ∧ t.works[k]? = some x ∧ x.load? = some (e.1, size) ∧
        t.server.fills? x = some p ∧ p.size = size ∧ p.idle.length = size ∧
        e.2.pool = t.server.pools.size ∧ (t.step a).server.pools = t.server.pools.push p
  fails : ∀ a n rest, Fails t a n rest → Untouched t (t.step a) ∧ (t.step a).works = rest ∧
    (t.step a).server.world.slots + n = t.server.world.slots
  lives : t.server.world.slots = base + (t.server.stock + t.births)

theorem Lawful.atomic (h : Lawful t) {base : Nat}
    (hlives : t.server.world.slots = base + (t.server.stock + t.births)) : Atomic base t where
  proper := h.proper
  forever := fun hc as =>
    ⟨h.registry_of_closed hc as, h.proper.emptied (h.proper.flags ▸ hc)⟩
  counted := h.countSteps_lists
  once := fun as name hnone => by
    have hcount := h.countSteps_lists as name
    have hlists := Bool.toNat_le ((t.steps as).server.lists name)
    omega
  taken := fun a name => (goes_step h a).takesBack
  turns := fun x hx name size hl => Server.loading_proceed hl (h.genuine x hx)
  appears := fun a e he hnew => by
    obtain ⟨k, x, size, b, timeout, p, ha, hx, hl, hfull, hp, hpool, hpools⟩ :=
      (goes_step h a).appears h.proper he hnew
    exact ⟨k, x, size, p, ha, hx, hl, hfull, hp.counts.2.1, hp.counts.2.2.1, hpool, hpools⟩
  fails := fun a n rest hf => by
    obtain ⟨huntouched, hworks, hw⟩ := h.fails hf
    have hbirths := hf.le_births
    have hslots := hw (t.server.world.slots - n) (by omega)
    exact ⟨huntouched, hworks, by omega⟩
  lives := hlives

/-- **Publication is atomic**, however loads, calls, unloads and shutdowns take turns, and wherever
any of them is given up. -/
theorem publication_is_atomic {w v : World σ} {files : Files} {plan : ServerPlan} {s : Server σ}
    (hs : Server.start w files plan = (v, .ok s)) (as : List (ServerStep σ)) :
    Atomic s.world.slots (steps ⟨s, []⟩ as) := by
  obtain ⟨hlawful, hstock⟩ := lawful_of_start hs
  have hnothing : s.stock + births ⟨s, []⟩ = 0 := by
    rw [hstock]
    rfl
  have hlives := hlawful.houses as s.world.slots (by rw [hnothing]; rfl)
  exact (hlawful.steps as).atomic hlives

/-- Two loads of one name, both begun before either is over: one of them succeeds, and of the other
nothing is left. -/
theorem loaded_once :
    let plan : LoadPlan := ⟨"tidy", .bytes .tidyGuest, 1⟩
    let as : List (ServerStep Unit) := [.act (.begin default (.load plan)),
      .act (.begin default (.load plan)), .act (.proceed 1), .act (.proceed 0)]
    let t := steps ⟨.unused, []⟩ as
    Atomic Server.unused.world.slots t ∧ t.works.length = 0 ∧ t.server.modules = ["tidy"] ∧
      countSteps (loads "tidy") ⟨.unused, []⟩ as = 1 ∧ t.server.world.slots = 1 := by
  intro plan as t
  have hstart : Server.start World.slow Files.none {} =
      ((Server.start World.slow Files.none {}).1, .ok .unused) := rfl
  have hruns : (t.works.length, t.server.modules,
      countSteps (loads "tidy") ⟨.unused, []⟩ as, t.server.world.slots) = (0, ["tidy"], 1, 1) := by
    decide +kernel
  simp only [Prod.mk.injEq] at hruns
  exact ⟨publication_is_atomic hstart as, hruns⟩

end Traffic
end FunctionHost

import FunctionHost.Proofs.Server.Publication

/-!
# Who holds which number

Work for a request holds a number of a pool: that of its place in the queue, of its lease or of its
restoration.  A turn leaves it the number that it has or gives it a new one, so no two pieces of work
ever hold the same number (`Whole.numbers`).

That is so as long as nothing is given up, for then nobody leaves a restoration to somebody else; and
then the accounts of all pools are right, too.  `Whole` says both of a server at work.
-/
namespace FunctionHost

variable {σ : Type}

/-! ## Pools -/

namespace Pool

variable {w : World σ} {p : Pool} {lease ticket : Nat}

theorem lend_lt (h : (lend w p).2.2 = .ok lease) : lease < (lend w p).2.1.nextNumber := by
  unfold lend at h ⊢
  split at h
  · cases h
  · rename_i hc
    rw [if_neg hc]
    split at h
    · cases h
    · cases h
      exact Nat.lt_succ_self _

/-- Who asks for an instance gets a new number, whatever it is for. -/
theorem checkout_numbers (w : World σ) (p : Pool) (c : Context) :
    (∀ t, (p.checkout w c).2.2.work? = some t →
      p.nextNumber ≤ t ∧ t < (p.checkout w c).2.1.nextNumber) ∧
    ∀ l, (p.checkout w c).2.2 = .ended (.ok l) →
      p.nextNumber ≤ l ∧ l < (p.checkout w c).2.1.nextNumber := by
  refine ⟨fun t ht => ?_, fun l hl => ⟨Nat.le_of_eq (Server.checkout_number hl).symm, ?_⟩⟩
  · have hasks := checkout_asks w p c
    generalize p.checkout w c = r at hasks ht
    cases hasks with
    | blocked ho hf =>
      cases ht
      exact ⟨Nat.le_refl _, Nat.lt_succ_self _⟩
    | _ => cases ht
  · have hasks := checkout_asks w p c
    generalize p.checkout w c = r at hasks hl
    cases hasks with
    | @obtained q ho hq => exact lend_lt (p := { p with permits := q }) (Standing.ended.inj hl)
    | _ => cases hl

/-- Who looks whether a wait is over waits on under the same number, or gets a new one. -/
theorem pollCheckout_numbers (w : World σ) (p : Pool) (ticket : Nat) :
    (∀ t, (p.pollCheckout w ticket).2.2.work? = some t → t = ticket) ∧
    ∀ l, (p.pollCheckout w ticket).2.2 = .ended (.ok l) →
      p.nextNumber ≤ l ∧ l < (p.pollCheckout w ticket).2.1.nextNumber := by
  refine ⟨fun t ht => ?_, fun l hl => ⟨Nat.le_of_eq (Server.pollCheckout_number hl).symm, ?_⟩⟩
  · have hlooks := pollCheckout_looks w p ticket
    generalize p.pollCheckout w ticket = r at hlooks ht
    cases hlooks with
    | blocked hx ho hg hi =>
      cases ht
      rfl
    | _ => cases ht
  · have hlooks := pollCheckout_looks w p ticket
    generalize p.pollCheckout w ticket = r at hlooks hl
    cases hlooks with
    | obtained hx ho hg =>
      exact lend_lt (p := { p with permits := p.permits.remove ticket }) (Standing.ended.inj hl)
    | _ => cases hl

theorem release_lt {q : Pool} {number : Nat} (h : p.release lease = (q, some number)) :
    number < q.nextNumber := by
  unfold Pool.release at h
  split at h
  · cases h
  · cases h
    exact Nat.lt_succ_self _

end Pool

/-! ## Turns -/

namespace Server

variable {s : Server σ} {x : ServerWork} {w : World σ} {p : Pool} {k rounds base : Nat}
  {own : Option Nat} {outcome : Option Call.Result}

/-- **Some work holds a number** of a pool: its own, or one from some number on; and the pool has
given it out. -/
def Holds (s : Server σ) (k : Nat) (own : Option Nat) (base : Nat) (y : ServerWork) : Prop :=
  ∃ m, y.number? k = some m ∧ (own = some m ∨ base ≤ m) ∧ m < (s.pool k).nextNumber

theorem holds_restore {number : Nat} (hk : k < s.pools.size)
    (hnumber : own = some number ∨ base ≤ number) (hlt : number < (s.pool k).nextNumber) :
    ∀ y ∈ (s.restore rounds k number outcome).2.work?,
      Holds (s.restore rounds k number outcome).1 k own base y := by
  have hacts : Acts (some (.restoring k number outcome)) (fun _ => False) s
      (s.restore rounds k number outcome).1 := Acts.refl.restore hk (.inl (if_pos rfl))
  have hlt := Nat.lt_of_lt_of_le hlt (hacts.nextNumber_le k)
  intro y hy
  obtain rfl := work?_restore y hy
  exact ⟨number, if_pos rfl, hnumber, hlt⟩

theorem holds_afterCall {lease : Nat} {standing : Standing Unit Call.Result}
    (hk : k < s.pools.size) (hlease : own = some lease ∨ base ≤ lease)
    (hbase : base ≤ p.nextNumber) (hlt : lease < p.nextNumber) :
    ∀ y ∈ (s.afterCall rounds k lease (w, p, standing)).2.work?,
      Holds (s.afterCall rounds k lease (w, p, standing)).1 k own base y := by
  intro y hy
  cases standing with
  | busy _ | blocked _ =>
    cases hy
    refine ⟨lease, if_pos rfl, hlease, ?_⟩
    rw [afterCall, pool_after hk]
    exact hlt
  | ended result =>
    rcases afterCall_ended s lease result with hturn | ⟨number, hrelease, hturn⟩
    · rw [hturn, work?_answer] at hy
      cases hy
    · rw [hturn] at hy ⊢
      refine holds_restore (size_after.symm ▸ hk) (.inr ?_) ?_ y hy
      · rw [release_number hrelease]
        exact hbase
      · rw [pool_after hk]
        exact Pool.release_lt hrelease

theorem holds_afterCheckout {c : Context} {entrypoint : String} {payload : Bytes}
    {standing : Standing Nat (Except HostError Nat)} (hk : k < s.pools.size)
    (hwork : ∀ t, standing.work? = some t → (own = some t ∨ base ≤ t) ∧ t < p.nextNumber)
    (hlease : ∀ l, standing = .ended (.ok l) → base ≤ l ∧ l < p.nextNumber) :
    ∀ y ∈ (s.afterCheckout rounds k c entrypoint payload (w, p, standing)).2.work?,
      Holds (s.afterCheckout rounds k c entrypoint payload (w, p, standing)).1 k own base y := by
  intro y hy
  cases standing with
  | busy t | blocked t =>
    cases hy
    obtain ⟨hown, hlt⟩ := hwork t rfl
    refine ⟨t, if_pos rfl, hown, ?_⟩
    rw [afterCheckout, pool_after hk]
    exact hlt
  | ended result =>
    cases result with
    | error e => cases hy
    | ok lease =>
      obtain ⟨hle, hlt⟩ := hlease lease rfl
      have hmore : p.nextNumber ≤ (p.beginCall w lease c entrypoint payload).2.1.nextNumber :=
        (Pool.beginCall_moves lease c entrypoint payload).nextNumber_le
      rw [afterCheckout] at hy ⊢
      generalize p.beginCall w lease c entrypoint payload = turn at hy hmore ⊢
      obtain ⟨v, q, standing⟩ := turn
      have hmore : p.nextNumber ≤ q.nextNumber := hmore
      exact holds_afterCall hk (.inr hle) (by omega) (by omega) y hy

/-- **A request that begins** holds a new number. -/
theorem holds_execute {name entrypoint : String} {payload : Bytes} {c : Context}
    {served : Served} (ho : s.ensureOpen = .ok ()) (hg : s.registry.get name = .ok served)
    (hk : served.pool < s.pools.size) :
    ∀ y ∈ (s.execute rounds name entrypoint payload c).2.work?,
      Holds (s.execute rounds name entrypoint payload c).1 served.pool none
        (s.pool served.pool).nextNumber y := by
  have hnumbers := (s.pool served.pool).checkout_numbers s.world (c.serving name entrypoint)
  intro y hy
  simp only [execute, ho, hg] at hy ⊢
  generalize (s.pool served.pool).checkout s.world (c.serving name entrypoint) = turn
    at hnumbers hy ⊢
  obtain ⟨v, q, standing⟩ := turn
  exact holds_afterCheckout hk (fun t ht => ⟨.inr (hnumbers.1 t ht).1, (hnumbers.1 t ht).2⟩)
    hnumbers.2 y hy

/-- **A request that goes on** holds the number that it had, or a new one. -/
theorem holds_proceed (hx : x.At k) (hk : k < s.pools.size)
    (hlt : ∀ m, x.number? k = some m → m < (s.pool k).nextNumber) :
    ∀ y ∈ (s.proceed x).2.work?,
      Holds (s.proceed x).1 k (x.number? k) (s.pool k).nextNumber y := by
  intro y hy
  -- What comes next has the same number, or one that nobody had.
  cases x with
  | waiting pool ticket c entrypoint payload =>
    obtain rfl := hx
    have hown : ServerWork.number? pool (.waiting pool ticket c entrypoint payload) =
        some ticket := if_pos rfl
    have hnumbers := (s.pool pool).pollCheckout_numbers s.world ticket
    have hmore : (s.pool pool).nextNumber ≤
        ((s.pool pool).pollCheckout s.world ticket).2.1.nextNumber :=
      (Pool.pollCheckout_moves ticket).nextNumber_le
    have hticket := hlt ticket hown
    rw [hown]
    rw [proceed] at hy ⊢
    generalize (s.pool pool).pollCheckout s.world ticket = turn at hnumbers hmore hy ⊢
    obtain ⟨v, q, standing⟩ := turn
    refine holds_afterCheckout hk (fun t ht => ?_) hnumbers.2 y hy
    obtain rfl := hnumbers.1 t ht
    exact ⟨.inl rfl, Nat.lt_of_lt_of_le hticket hmore⟩
  | calling pool lease =>
    obtain rfl := hx
    have hown : ServerWork.number? pool (.calling pool lease) = some lease := if_pos rfl
    have hmore : (s.pool pool).nextNumber ≤
        ((s.pool pool).proceedCall quantum s.world lease).2.1.nextNumber :=
      (Pool.proceedCall_moves quantum lease).nextNumber_le
    have hlease := hlt lease hown
    rw [hown]
    rw [proceed] at hy ⊢
    generalize (s.pool pool).proceedCall quantum s.world lease = turn at hmore hy ⊢
    obtain ⟨v, q, standing⟩ := turn
    exact holds_afterCall hk (.inl rfl) hmore (Nat.lt_of_lt_of_le hlease hmore) y hy
  | restoring pool number outcome =>
    obtain rfl := hx
    have hown : ServerWork.number? pool (.restoring pool number outcome) = some number :=
      if_pos rfl
    rw [hown]
    exact holds_restore hk (.inl rfl) (hlt number hown) y hy
  | _ => exact hx.elim

/-- **Work that is not for a request** holds no number. -/
theorem number?_proceed (hx : ∀ k, ¬ x.At k) :
    ∀ y ∈ (s.proceed x).2.work?, ∀ n, y.number? n = none := by
  -- Whoever fills a pool has no number in any.
  have hfilling {name hash : String} (turn : World σ × Standing Filling Filling.Result) :
      ∀ y ∈ (s.afterFilling name hash turn).2.work?, ∀ n, y.number? n = none := by
    obtain ⟨w, standing⟩ := turn
    cases standing with
    | busy f | blocked f =>
      rintro _ ⟨⟩ n
      rfl
    | ended result =>
      cases result with
      | error e =>
        intro y hy
        cases hy
      | ok p =>
        intro y hy
        rw [afterFilling, publish] at hy
        split at hy <;> cases hy
  intro y hy n
  cases x with
  | waiting pool ticket c entrypoint payload => exact (hx pool rfl).elim
  | calling pool lease => exact (hx pool rfl).elim
  | restoring pool number outcome => exact (hx pool rfl).elim
  | compiling plan =>
    rw [proceed, fill] at hy
    split at hy
    · cases hy
    · exact hfilling _ y hy n
  | filling name hash f => exact hfilling _ y hy n
  | unloading pool wait =>
    rw [proceed, pollUnload] at hy
    split at hy
    · cases hy
      rfl
    · cases hy
  | closing drains =>
    rw [proceed, pollClose] at hy
    dsimp only at hy
    split at hy
    · cases hy
    · cases hy
      rfl

/-- **What work that goes on leaves to do** holds the number that it had, or a new one. -/
theorem numbers_proceed (hx : x.Sound s)
    (hlt : ∀ n m, x.number? n = some m → m < (s.pool n).nextNumber) :
    ∀ y ∈ (s.proceed x).2.work?, ∀ n m, y.number? n = some m →
      (x.number? n = some m ∨ (s.pool n).nextNumber ≤ m) ∧
        m < ((s.proceed x).1.pool n).nextNumber := by
  intro y hy n m hm
  by_cases hat : ∃ k, x.At k
  · obtain ⟨k, hat⟩ := hat
    have hyat := at_proceed hat y hy
    by_cases hn : n = k
    · subst hn
      have hn : n < s.pools.size := by
        cases x <;> first | exact hat.elim | exact hat ▸ hx
      obtain ⟨m', hm', hown, hless⟩ := holds_proceed hat hn (hlt n) y hy
      obtain rfl : m' = m := Option.some.inj (hm'.symm.trans hm)
      exact ⟨hown, hless⟩
    · rw [hyat.number?_of_ne hn] at hm
      cases hm
  · rw [number?_proceed (fun k h => hat ⟨k, h⟩) y hy n] at hm
    cases hm

/-- **What a command leaves to do** holds a new number, if any. -/
theorem numbers_begin (h : Proper s) (c : Context) (command : ServerCommand) :
    ∀ y ∈ (s.begin c command).2.work?, ∀ n m, y.number? n = some m →
      (s.pool n).nextNumber ≤ m ∧ m < ((s.begin c command).1.pool n).nextNumber := by
  intro y hy n m hm
  cases command with
  | load plan =>
    rcases load_begins s plan with hload | ⟨e, hload⟩
    · rw [begin, hload] at hy
      cases hy
      cases hm
    · rw [begin, hload] at hy
      cases hy
  | execute name entrypoint payload =>
    rw [begin] at hy ⊢
    cases ho : s.ensureOpen with
    | error e =>
      simp only [execute, ho] at hy
      cases hy
    | ok _ =>
      cases hg : s.registry.get name with
      | error e =>
        simp only [execute, ho, hg] at hy
        cases hy
      | ok served =>
        have hk := (h.named _ (Registry.mem_of_get hg).2).1
        obtain ⟨m', hm', hnew, hless⟩ := holds_execute ho hg hk y hy
        have hyat : y.At served.pool := by
          simp only [execute, ho, hg] at hy
          exact at_afterCheckout y hy
        -- The new work has its number in the pool that serves it, and in no other.
        by_cases hn : n = served.pool
        · subst hn
          obtain rfl : m' = m := Option.some.inj (hm'.symm.trans hm)
          exact ⟨hnew.resolve_left (fun he => by cases he), hless⟩
        · rw [hyat.number?_of_ne hn] at hm
          cases hm
  | unload name =>
    rw [begin, unload] at hy
    split at hy
    · cases hy
    · rw [pollUnload] at hy
      split at hy
      · cases hy
        cases hm
      · cases hy
  | shutDown =>
    rw [begin] at hy
    unfold shutDown at hy
    split at hy
    · cases hy
    · unfold pollClose at hy
      dsimp only at hy
      split at hy
      · cases hy
      · cases hy
        cases hm
  | tick count => cases hy

end Server

/-! ## All work -/

theorem Numbered.GivenOut.exchange {ns : List Nat} {next next' : Nat} {o o' : Option Nat}
    (h : GivenOut (o.toList ++ ns) next)
    (ho : ∀ m, o' = some m → (o = some m ∨ next ≤ m) ∧ m < next') (hle : next ≤ next') :
    GivenOut (o'.toList ++ ns) next' := by
  cases o' with
  | none => exact (h.of_append).mono hle
  | some m =>
    obtain ⟨hm, hlt⟩ := ho m rfl
    have hrest : GivenOut ns next := h.of_append
    refine ⟨List.nodup_cons.mpr ⟨fun hmem => ?_, hrest.1⟩, fun k hk => ?_⟩
    · rcases hm with rfl | hm
      · exact (List.nodup_cons.mp h.1).1 hmem
      · have hless := hrest.2 m hmem
        omega
    · rcases List.mem_cons.mp hk with rfl | hk
      · exact hlt
      · exact Nat.lt_of_lt_of_le (hrest.2 k hk) hle

namespace Traffic

/-- The numbers of a pool that some work holds. -/
def numbers (n : Nat) (xs : List ServerWork) : List Nat := xs.filterMap (ServerWork.number? n)

/-- **Traffic in which nothing was given up**: the accounts of all pools are right, nothing waits to
be taken up, and the numbers that work holds are different. -/
structure Whole (t : Traffic σ) : Prop where
  lawful : Lawful t
  whole : Steady (fun _ => 0) t
  nothing : t.server.left = []
  numbers : ∀ n, Numbered.GivenOut (Traffic.numbers n t.works) (t.server.pool n).nextNumber

variable {t u : Traffic σ} {a : ServerStep σ} {k n m : Nat} {x y : ServerWork}

theorem numbers_toList (n : Nat) (y : Option ServerWork) (xs : List ServerWork) :
    numbers n (y.toList ++ xs) = (y.bind (·.number? n)).toList ++ numbers n xs := by
  cases y with
  | none => rfl
  | some y =>
    rw [numbers, Option.toList_some, List.singleton_append, Option.bind_some]
    cases h : y.number? n with
    | none => exact List.filterMap_cons_none h
    | some m => exact List.filterMap_cons_some h

/-- **What a step does to a pool that is there** is what some work does that begins, has its turn or
is given up. -/
theorem Goes.acts_pool (hg : Goes t a u) (hn : n < t.server.pools.size) :
    ∃ (x : Option ServerWork) (drained : Nat → Prop) (s s' : Server σ),
      Server.Acts x drained s s' ∧ s.pool n = t.server.pool n ∧ u.server.pool n = s'.pool n ∧
        ∀ z ∈ x, ∃ k, t.works[k]? = some z ∧ (a = .act (.proceed k) ∨ a = .act (.drop k)) := by
  have hnobody {s s' : Server σ} {drained : Nat → Prop} (hs : Server.Acts none drained s s')
      (hpool : s.pool n = t.server.pool n) (hpool' : u.server.pool n = s'.pool n) :
      ∃ (x : Option ServerWork) (drained : Nat → Prop) (s s' : Server σ),
        Server.Acts x drained s s' ∧ s.pool n = t.server.pool n ∧ u.server.pool n = s'.pool n ∧
          ∀ z ∈ x, ∃ k, t.works[k]? = some z ∧ (a = .act (.proceed k) ∨ a = .act (.drop k)) :=
    ⟨none, drained, s, s', hs, hpool, hpool', fun z hz => by cases hz⟩
  have hstill : Server.Acts none (fun _ => False) t.server t.server := .refl
  cases hg with
  | acts left new hs hd hworks hx hown hnew hno => exact ⟨_, _, _, _, hs, rfl, rfl, hown⟩
  | passed hw hno => exact hnobody hstill rfl rfl
  | loading hx hl hturn hload =>
    cases hload with
    | published hfull hp hb ho hf hw =>
      exact hnobody hstill rfl (Server.pool_publishing_of_lt hn)
    | _ => exact hnobody hstill rfl rfl
  | dropped hx hw => exact hnobody hstill rfl rfl
  | unloads he hname hs hnew => exact hnobody hs rfl rfl
  | shuts new ha ho hs hnew =>
    have hpools : t.server.shut.pools = t.server.pools := by
      rw [Server.shut, ho]
      rfl
    have hpool : t.server.shut.pool n = t.server.pool n := by rw [Server.pool, hpools, Server.pool]
    exact hnobody hs hpool rfl

/-- **What every act keeps of a pool**, a step keeps. -/
theorem Goes.pool_induction {I : Pool → Prop} (hg : Goes t a u) (hn : n < t.server.pools.size)
    (ht : I (t.server.pool n))
    (hstep : ∀ (w : World σ) p b q, I p → Pool.Moves w p b q → I q) : I (u.server.pool n) := by
  obtain ⟨x, drained, s, s', hs, hpool, hpool', -⟩ := hg.acts_pool hn
  rw [hpool']
  exact hs.pool_induction (hpool.symm ▸ ht) fun w p b q hp hm _ => hstep w p b q hp hm

/-- Whether a step leaves alone whoever holds a number of a pool. -/
def Spares (t : Traffic σ) (n m : Nat) (a : ServerStep σ) : Prop :=
  ∀ k z, t.works[k]? = some z → a = .act (.proceed k) ∨ a = .act (.drop k) → z.number? n ≠ some m

/-- **What all acts but those under a number keep of a pool**, the steps of others keep. -/
theorem Goes.spares_induction {I : Pool → Prop} (hg : Goes t a u) (hn : n < t.server.pools.size)
    (hm : m < (t.server.pool n).nextNumber) (ha : Spares t n m a) (ht : I (t.server.pool n))
    (hperform : ∀ (w : World σ) p (b : PoolAct), I p → b.about? ≠ some m → I (b.perform w p))
    (hclose : ∀ p, I p → I p.close) : I (u.server.pool n) := by
  obtain ⟨x, drained, s, s', hs, hpool, hpool', hown⟩ := hg.acts_pool hn
  rw [hpool']
  refine hs.own_induction (hpool.symm ▸ ht) (fun w p b hp _ hb => hperform w p b hp fun hbm => ?_)
    fun _ p hp => hclose p hp
  rcases hb m hbm with hx | hle
  · obtain ⟨z, rfl, hz⟩ := Option.bind_eq_some_iff.mp hx
    obtain ⟨k, hk, hturn⟩ := hown z rfl
    exact ha k z hk hturn hz
  · rw [hpool] at hle
    exact Nat.not_lt_of_le hle hm

/-- **Numbers are given out in rising order**, whatever happens. -/
theorem Goes.nextNumber_le (hg : Goes t a u) (n : Nat) :
    (t.server.pool n).nextNumber ≤ (u.server.pool n).nextNumber := by
  rcases Nat.lt_or_ge n t.server.pools.size with hn | hn
  · exact hg.pool_induction (I := fun p => (t.server.pool n).nextNumber ≤ p.nextNumber) hn
      (Nat.le_refl _) fun _ _ _ _ hp hm => Nat.le_trans hp hm.nextNumber_le
  · rw [Server.pool_of_size_le hn]
    exact Nat.zero_le _

namespace Whole

theorem lt_next (h : Whole t) (hx : x ∈ t.works) (hm : x.number? n = some m) :
    m < (t.server.pool n).nextNumber :=
  (h.numbers n).2 m (List.mem_filterMap.mpr ⟨x, hx, hm⟩)

/-- What is left over when a piece of work has its turn, and what that leaves. -/
theorem numbers_turn (h : Whole t) (hx : t.works[k]? = some x) {s : Server σ}
    {y : Option ServerWork}
    (hy : ∀ z ∈ y, ∀ m, z.number? n = some m →
      (x.number? n = some m ∨ (t.server.pool n).nextNumber ≤ m) ∧ m < (s.pool n).nextNumber)
    (hle : (t.server.pool n).nextNumber ≤ (s.pool n).nextNumber) :
    Numbered.GivenOut (Traffic.numbers n (y.toList ++ t.works.eraseIdx k))
      (s.pool n).nextNumber := by
  have hperm : (Traffic.numbers n t.works).Perm
      ((x.number? n).toList ++ Traffic.numbers n (t.works.eraseIdx k)) := by
    have hfilter := (perm_eraseIdx hx).filterMap (ServerWork.number? n)
    rw [← List.singleton_append, ← Option.toList_some] at hfilter
    exact hfilter.trans (.of_eq (numbers_toList n (some x) _))
  rw [numbers_toList]
  refine ((h.numbers n).perm hperm).exchange (fun m hm => ?_) hle
  obtain ⟨z, rfl, hz⟩ := Option.bind_eq_some_iff.mp hm
  exact hy z rfl m hz

/-- Work that begins holds a new number, if any. -/
theorem numbers_begun (h : Whole t) {s : Server σ} {y : Option ServerWork}
    (hy : ∀ z ∈ y, ∀ m, z.number? n = some m →
      (t.server.pool n).nextNumber ≤ m ∧ m < (s.pool n).nextNumber)
    (hle : (t.server.pool n).nextNumber ≤ (s.pool n).nextNumber) :
    Numbered.GivenOut (Traffic.numbers n (y.toList ++ t.works)) (s.pool n).nextNumber := by
  rw [numbers_toList]
  refine Numbered.GivenOut.exchange (o := none) (h.numbers n) (fun m hm => ?_) hle
  obtain ⟨z, rfl, hz⟩ := Option.bind_eq_some_iff.mp hm
  exact ⟨.inr (hy z rfl m hz).1, (hy z rfl m hz).2⟩

/-- **As long as nothing is given up**, all of that stays so. -/
theorem step (h : Whole t) (ha : a.drops = false) : Whole (t.step a) := by
  obtain ⟨broken, hsteady, hsame⟩ := h.whole.step a
  have hwhole : Steady (fun _ => 0) (t.step a) := hsame ha ▸ hsteady
  have hg := goes_step h.lawful a
  have hle := hg.nextNumber_le
  -- Steps that leave all work where it is.
  have hquiet (hworks : (t.step a).works = t.works)
      (hleft : (t.step a).server.left = t.server.left) : Whole (t.step a) :=
    ⟨h.lawful.step a, hwhole, hleft.trans h.nothing,
      fun n => hworks ▸ (h.numbers n).mono (hle n)⟩
  cases a with
  | act a =>
    cases a with
    | begin c command =>
      have hleft := (Server.keeps_begin h.whole c command).left
      refine ⟨h.lawful.step _, hwhole, hleft.trans h.nothing, fun n => ?_⟩
      refine h.numbers_begun (fun z hz m hm => ?_) (hle n)
      exact Server.numbers_begin h.lawful.proper c command z hz n m hm
    | proceed k =>
      cases hx : t.works[k]? with
      | none =>
        have hstill : t.step (.act (.proceed k)) = t := by rw [step_proceed, perform, hx]
        rw [hstill]
        exact h
      | some x =>
        have hstep : t.step (.act (.proceed k)) =
            ⟨(t.server.proceed x).1, (t.server.proceed x).2.work?.toList ++ t.works.eraseIdx k⟩ := by
          rw [step_proceed, perform, hx]
        have hleft := (Server.keeps_proceed (Server.InOrder.perm h.whole (works_perm hx))).left
        have hmem := List.mem_of_getElem? hx
        have hlawful := h.lawful.step (.act (.proceed k))
        rw [hstep] at hlawful hwhole hle ⊢
        refine ⟨hlawful, hwhole, hleft.trans h.nothing, fun n => ?_⟩
        refine h.numbers_turn hx (fun z hz m hm => ?_) (hle n)
        exact Server.numbers_proceed (h.lawful.sound hx) (fun n m => h.lt_next hmem) z hz n m hm
    | drop k => cases ha
    | collect =>
      have hbackground : t.server.background = [] := by rw [Server.background, h.nothing]; rfl
      have hstep : t.step (.act .collect) = ⟨{ t.server with left := [] }, t.works⟩ := by
        show t.perform .collect = _
        rw [perform, hbackground]
        rfl
      exact hquiet (by rw [hstep]) (by rw [hstep]; exact h.nothing.symm)
    | elapse w => exact hquiet rfl rfl
  | shut =>
    refine hquiet rfl ?_
    rw [Traffic.step, Server.shut]
    split <;> rfl
  | close n =>
    refine hquiet ?_ ?_
    · rw [Traffic.step]
      split <;> rfl
    · rw [Traffic.step]
      split <;> rfl
  | drain n deadline =>
    refine hquiet ?_ ?_
    · rw [Traffic.step]
      split <;> rfl
    · rw [Traffic.step]
      split <;> rfl

theorem steps (h : Whole t) {as : List (ServerStep σ)} (has : ∀ a ∈ as, a.drops = false) :
    Whole (t.steps as) := by
  induction as generalizing t with
  | nil => exact h
  | cons a as ih =>
    exact ih (h.step (has a List.mem_cons_self)) fun b hb => has b (List.mem_cons_of_mem a hb)

/-- **Nobody else holds the number of some work.** -/
theorem eq_of_number (h : Whole t) (hx : x ∈ t.works) (hy : y ∈ t.works)
    (hxm : x.number? n = some m) (hym : y.number? n = some m) : x = y := by
  obtain ⟨k, hk⟩ := List.getElem?_of_mem hx
  rcases List.mem_cons.mp ((perm_eraseIdx hk).mem_iff.mp hy) with rfl | hy
  · rfl
  · have hperm := (perm_eraseIdx hk).filterMap (ServerWork.number? n)
    rw [List.filterMap_cons_some hxm] at hperm
    have hnodup := hperm.nodup_iff.mp (h.numbers n).1
    exact absurd (List.mem_filterMap.mpr ⟨y, hy, hym⟩) (List.nodup_cons.mp hnodup).1

end Whole

/-- In traffic that has just begun nothing was given up. -/
theorem whole_of_start {w v : World σ} {files : Files} {plan : ServerPlan} {s : Server σ}
    (hs : Server.start w files plan = (v, .ok s)) : Whole ⟨s, []⟩ := by
  exact ⟨(lawful_of_start hs).1, steady_of_start hs, (Server.fresh_of_start hs).left,
    fun n => .nil _⟩

end Traffic
end FunctionHost

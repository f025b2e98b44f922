import FunctionHost.Guest.Activity
import FunctionHost.Proofs.Text
import FunctionHost.Proofs.Wasm.Memory

/-!
# What a callback is asked

A host call names its request by four pairs of a pointer and a length.  It names one if and only if
all four lie inside the guest's memory and the first three show texts (`HostCall.Readable`).  Then
the callback is asked for exactly that (`HostCall.read_of_readable`); a pair that lies outside
refuses the whole call, before any text is looked at (`HostCall.read_of_outside`).

`Activity.asked?` is what a round asks the callback.  Only a host call asks, and only once, so over
many rounds the callback's state is what its requests have made of it (`Activity.proceed_hears`).
-/
namespace FunctionHost

open Wasm (Thread Word)

variable {σ : Type}

/-! ## Regions -/

namespace Region

variable {m : Wasm.Memory} {ptr len : UInt32}

theorem checked_of_le (h : ptr.toNat + len.toNat ≤ m.size) :
    checked ptr len m.size = .ok ⟨ptr.toNat, ptr.toNat + len.toNat⟩ :=
  if_neg (Nat.not_lt.mpr h)

theorem checked_of_lt (h : m.size < ptr.toNat + len.toNat) :
    ∃ reason, checked ptr len m.size = .error (.memoryFault reason) :=
  ⟨_, if_pos h⟩

theorem read_of_le (h : ptr.toNat + len.toNat ≤ m.size) :
    read m ptr len = .ok (m.region ptr.toNat len.toNat) := by
  rw [read, checked_of_le h]
  show Except.ok (m.region ptr.toNat (ptr.toNat + len.toNat - ptr.toNat)) = _
  rw [Nat.add_sub_cancel_left]

theorem readText_of_some {text : String} (h : ptr.toNat + len.toNat ≤ m.size)
    (htext : Utf8.decode? (m.region ptr.toNat len.toNat) = some text) :
    readText m ptr len = .ok text := by
  simp only [readText, read_of_le h, bind, Except.bind, htext]
  rfl

/-- The refusal of bytes that are no text. -/
def noText (ptr : UInt32) : CallbackError :=
  .invalidArgument ("string at " ++ hexAddress ptr.toNat ++ " is not valid UTF-8")

theorem readText_of_none (h : ptr.toNat + len.toNat ≤ m.size)
    (htext : Utf8.decode? (m.region ptr.toNat len.toNat) = none) :
    readText m ptr len = .error (.callback (noText ptr)) := by
  simp only [readText, read_of_le h, bind, Except.bind, htext]
  rfl

end Region

/-! ## Reading a request -/

namespace HostCall

variable {m m' : Wasm.Memory} {p space operation key payload : Pair} {r : HostRequest}

/-- Whether the bytes that a pair names lie inside a memory. -/
def Inside (m : Wasm.Memory) (p : Pair) : Prop := p.1.toNat + p.2.toNat ≤ m.size

/-- The bytes that a memory shows where a pair points. -/
def shown (m : Wasm.Memory) (p : Pair) : Bytes := m.region p.1.toNat p.2.toNat

/-- **Whether four pairs name a request**: all lie inside and the first three show texts. -/
structure Readable (m : Wasm.Memory) (space operation key payload : Pair) : Prop where
  inside : ∀ p ∈ [space, operation, key, payload], Inside m p
  texts : ∀ p ∈ [space, operation, key], (shown m p).IsValidUTF8

/-- Whether a request consists of the bytes that four pairs name. -/
structure Names (m : Wasm.Memory) (space operation key payload : Pair) (r : HostRequest) :
    Prop where
  space : r.space.toUTF8 = shown m space
  operation : r.operation.toUTF8 = shown m operation
  key : r.key.toUTF8 = shown m key
  payload : r.payload = shown m payload

/-- What is shown inside a memory depends on the bytes of that memory only. -/
theorem shown_congr (hp : Inside m p) (h : ∀ k < m.size, m'.byte k = m.byte k) :
    shown m' p = shown m p := by
  refine Wasm.Memory.region_congr fun k hk => h _ ?_
  have : p.1.toNat + p.2.toNat ≤ m.size := hp
  omega

theorem readText_of_inside (hp : Inside m p) :
    (∃ text : String, text.toUTF8 = shown m p ∧ Region.readText m p.1 p.2 = .ok text) ∨
      ¬ (shown m p).IsValidUTF8 ∧
        Region.readText m p.1 p.2 = .error (.callback (Region.noText p.1)) := by
  cases htext : Utf8.decode? (shown m p) with
  | some text =>
    exact .inl ⟨text, Utf8.decode?_eq_some_iff.mp htext, Region.readText_of_some hp htext⟩
  | none => exact .inr ⟨Utf8.decode?_eq_none_iff.mp htext, Region.readText_of_none hp htext⟩

/-- **A pair that lies outside refuses the whole request**, whatever the others show. -/
theorem read_of_outside (h : ¬ ∀ p ∈ [space, operation, key, payload], Inside m p) :
    ∃ reason, read m space operation key payload = .error (.memoryFault reason) := by
  have hcheck (p : Pair) :
      (∃ reason, Region.checked p.1 p.2 m.size = .error (.memoryFault reason)) ∨
        Inside m p ∧ ∃ found, Region.checked p.1 p.2 m.size = .ok found :=
    (Nat.lt_or_ge m.size (p.1.toNat + p.2.toNat)).imp Region.checked_of_lt
      fun hp => ⟨hp, _, Region.checked_of_le hp⟩
  unfold read
  obtain ⟨_, h1⟩ | ⟨i1, _, h1⟩ := hcheck space
  · exact ⟨_, by rw [h1]; rfl⟩
  obtain ⟨_, h2⟩ | ⟨i2, _, h2⟩ := hcheck operation
  · exact ⟨_, by rw [h1, h2]; rfl⟩
  obtain ⟨_, h3⟩ | ⟨i3, _, h3⟩ := hcheck key
  · exact ⟨_, by rw [h1, h2, h3]; rfl⟩
  obtain ⟨_, h4⟩ | ⟨i4, _, h4⟩ := hcheck payload
  · exact ⟨_, by rw [h1, h2, h3, h4]; rfl⟩
  · exact absurd (by simp [i1, i2, i3, i4]) h

/-- Once all pairs lie inside, the texts are looked at one after another. -/
theorem read_of_inside (h : ∀ p ∈ [space, operation, key, payload], Inside m p) :
    read m space operation key payload = (do return {
      space := ← Region.readText m space.1 space.2
      operation := ← Region.readText m operation.1 operation.2
      key := ← Region.readText m key.1 key.2
      payload := shown m payload }) := by
  simp only [List.forall_mem_cons] at h
  unfold read
  rw [Region.checked_of_le h.1, Region.checked_of_le h.2.1, Region.checked_of_le h.2.2.1,
    Region.checked_of_le h.2.2.2.1, Region.read_of_le h.2.2.2.1]
  rfl

/-- **Four pairs that name a request are read as that request.** -/
theorem read_of_readable (h : Readable m space operation key payload) :
    ∃ r, Names m space operation key payload r ∧ read m space operation key payload = .ok r := by
  have hread {p : Pair} (hp : p ∈ [space, operation, key]) :
      ∃ text : String, text.toUTF8 = shown m p ∧ Region.readText m p.1 p.2 = .ok text :=
    (readText_of_inside (h.inside p (List.mem_append_left [payload] hp))).resolve_right
      fun hbad => hbad.1 (h.texts p hp)
  obtain ⟨_, hspace, h1⟩ := hread (p := space) (by simp)
  obtain ⟨_, hoperation, h2⟩ := hread (p := operation) (by simp)
  obtain ⟨_, hkey, h3⟩ := hread (p := key) (by simp)
  refine ⟨⟨_, _, _, shown m payload⟩, ⟨hspace, hoperation, hkey, rfl⟩, ?_⟩
  rw [read_of_inside h.inside, h1, h2, h3]
  rfl

/-- **Bytes that are no text refuse the request**, once all pairs are known to lie inside. -/
theorem read_of_not_texts (h : ∀ p ∈ [space, operation, key, payload], Inside m p)
    (htexts : ¬ ∀ p ∈ [space, operation, key], (shown m p).IsValidUTF8) :
    ∃ p ∈ [space, operation, key], ¬ (shown m p).IsValidUTF8 ∧
      read m space operation key payload = .error (.callback (Region.noText p.1)) := by
  simp only [List.forall_mem_cons] at h
  rw [read_of_inside (by simpa using h)]
  obtain ⟨_, hspace, h1⟩ | ⟨hbad, h1⟩ := readText_of_inside h.1
  · obtain ⟨_, hoperation, h2⟩ | ⟨hbad, h2⟩ := readText_of_inside h.2.1
    · obtain ⟨_, hkey, h3⟩ | ⟨hbad, h3⟩ := readText_of_inside h.2.2.1
      · refine absurd ?_ htexts
        simp only [List.forall_mem_cons, ← hspace, ← hoperation, ← hkey]
        exact ⟨String.isValidUTF8 _, String.isValidUTF8 _, String.isValidUTF8 _,
          fun _ h => nomatch h⟩
      · exact ⟨key, by simp, hbad, by rw [h1, h2, h3]; rfl⟩
    · exact ⟨operation, by simp, hbad, by rw [h1, h2]; rfl⟩
  · exact ⟨space, by simp, hbad, by rw [h1]; rfl⟩

/-- **Reading a request does not depend on anything outside memory.** -/
theorem read_congr (hsize : m'.size = m.size) (h : ∀ k < m.size, m'.byte k = m.byte k)
    (space operation key payload : Pair) :
    read m' space operation key payload = read m space operation key payload := by
  have hchecked (p : Pair) : Region.checked p.1 p.2 m'.size = Region.checked p.1 p.2 m.size := by
    rw [hsize]
  have hread (p : Pair) : Region.read m' p.1 p.2 = Region.read m p.1 p.2 := by
    rcases Nat.lt_or_ge m.size (p.1.toNat + p.2.toNat) with hp | hp
    · obtain ⟨reason, hp⟩ := Region.checked_of_lt hp
      rw [Region.read, Region.read, hchecked, hp]
      rfl
    · rw [Region.read_of_le hp, Region.read_of_le (hsize ▸ hp)]
      exact congrArg Except.ok (shown_congr (p := p) hp h)
  have htext (p : Pair) : Region.readText m' p.1 p.2 = Region.readText m p.1 p.2 := by
    rw [Region.readText, Region.readText, hread]
  simp only [read, hchecked, hread, htext]

end HostCall

/-! ## Asking -/

namespace Callback

/-- The state of a callback after it was asked for some things, one after another. -/
def after (cb : Callback σ) (state : σ) (asked : List (Context × HostRequest)) : σ :=
  asked.foldl (fun state q => (cb q.1 q.2 state).state) state

/-- **The callback that keeps a record** of what it is asked, and answers as another one does. -/
def recorded (cb : Callback σ) : Callback (σ × List (Context × HostRequest)) :=
  fun c r state => (cb c r state.1).map (·, state.2 ++ [(c, r)])

theorem after_recorded (cb : Callback σ) (state : σ) (record asked : List (Context × HostRequest)) :
    cb.recorded.after (state, record) asked = (cb.after state asked, record ++ asked) := by
  induction asked generalizing state record with
  | nil => exact congrArg _ (List.append_nil record).symm
  | cons q asked ih =>
    refine (ih (cb q.1 q.2 state).state (record ++ [q])).trans ?_
    rw [List.append_assoc]
    rfl

end Callback

/-- Whether a world has the callback that another one has, in a state of its own. -/
structure World.Hears (w : World σ) (v : World σ) (state : σ) : Prop where
  callback : v.callback = w.callback
  state : v.state = state

namespace Activity

variable {b : Body} {w : World σ} {g : Guest} {t : Thread} {outer : List (Thread × Delivery)}

/-- **What the callback is asked in a round**, if anything: what a host call names whose context is
open. -/
def asked? (b : Body) (w : World σ) (g : Guest) (a : Activity) : Option (Context × HostRequest) :=
  match a.focus with
  | .acting (.calling _ func args) =>
    match b.imports[func]?, b.memory?, HostCall.pairs? args with
    | some (.hostCall _), some index, some (space, operation, key, payload) =>
      match HostCall.read (g.memory index) space operation key payload with
      | .ok r =>
        let (w, c) := contextOf b w g
        if (c.interruption w.clock).isNone then some (c, r) else none
      | .error _ => none
    | _, _, _ => none
  | _ => none

/-- What the callback is asked in some rounds, in this order. -/
def asked (b : Body) : Nat → World σ → Guest → Activity → List (Context × HostRequest)
  | 0, _, _, _ => []
  | rounds + 1, w, g, a =>
    (asked? b w g a).toList ++
      match round b w g a with
      | (w, g, .busy a) => asked b rounds w g a
      | _ => []

theorem deliver_hears (b : Body) (w : World σ) (g : Guest) (allocator : String) (t : Thread)
    (d : Delivery) (outer : List (Thread × Delivery)) :
    w.Hears (deliver b w g allocator t d outer).1 w.state := by
  unfold deliver
  split
  · exact ⟨rfl, rfl⟩
  · split
    · exact ⟨rfl, rfl⟩
    · split
      · exact ⟨rfl, rfl⟩
      · split <;> exact ⟨rfl, rfl⟩

theorem complete_hears (b : Body) (w : World σ) (g : Guest) (t : Thread) (call : PendingCall)
    (reply : Reply) (outer : List (Thread × Delivery)) :
    w.Hears (complete b w g t call reply outer).1 w.state :=
  have h := deliver_hears b (w.report (HostCall.completed call.context call.request reply)) g
    call.allocator t (delivery call.request reply) outer
  ⟨h.callback, h.state⟩

theorem contextOf_hears (b : Body) (w : World σ) (g : Guest) :
    w.Hears (contextOf b w g).1 w.state := by
  unfold contextOf
  split <;> exact ⟨rfl, rfl⟩

theorem contextOf_clock (b : Body) (w : World σ) (g : Guest) :
    (contextOf b w g).1.clock = w.clock := by
  unfold contextOf
  split <;> rfl

theorem hostCall_hears (b : Body) (w : World σ) (g : Guest) (allocator : String) (t : Thread)
    (func : Nat) (args : List Word) (outer : List (Thread × Delivery))
    (hf : b.imports[func]? = some (.hostCall allocator)) :
    w.Hears (hostCall b w g allocator t args outer).1
      (w.callback.after w.state
        (asked? b w g ⟨.acting (.calling t func args), outer⟩).toList) := by
  simp only [hostCall, asked?, hf]
  cases b.memory? with
  | none => exact ⟨rfl, rfl⟩
  | some index =>
    cases HostCall.pairs? args with
    | none => exact ⟨rfl, rfl⟩
    | some pairs =>
      obtain ⟨space, operation, key, payload⟩ := pairs
      have hmemory : g.recordHostCall.memory index = g.memory index := rfl
      have hcontext : contextOf b w g.recordHostCall = contextOf b w g := rfl
      simp only [hmemory, hcontext]
      cases HostCall.read (g.memory index) space operation key payload with
      | error e =>
        cases e with
        | callback e => exact deliver_hears ..
        | _ => exact ⟨rfl, rfl⟩
      | ok r =>
        -- Only here can the callback be asked: if the context is open.
        have hw := contextOf_hears b w g
        dsimp only
        cases (contextOf b w g).2.interruption (contextOf b w g).1.clock with
        | none =>
          refine ⟨hw.callback, ?_⟩
          show ((contextOf b w g).1.callback _ r (contextOf b w g).1.state).state = _
          rw [hw.callback, hw.state]
          rfl
        | some why =>
          have hdone := complete_hears b (contextOf b w g).1 g.recordHostCall t
            ⟨(contextOf b w g).2, r, allocator, .error (HostCall.interrupted why),
              (contextOf b w g).1.clock.now⟩ (.error (HostCall.interrupted why)) outer
          exact ⟨hdone.callback.trans hw.callback, hdone.state.trans hw.state⟩

theorem systemCall_hears (b : Body) (w : World σ) (g : Guest) (name : String) (t : Thread)
    (args : List Word) (outer : List (Thread × Delivery)) :
    w.Hears (systemCall b w g name t args outer).1 w.state := by
  unfold systemCall
  split
  · exact ⟨rfl, rfl⟩
  · split
    · exact ⟨rfl, rfl⟩
    · dsimp only
      split
      · exact ⟨rfl, rfl⟩
      · split <;> exact ⟨rfl, rfl⟩
    · exact ⟨rfl, rfl⟩
    · exact ⟨rfl, rfl⟩

theorem settle_hears (b : Body) (w : World σ) (g : Guest) (result : Except Stop (List Word))
    (outer : List (Thread × Delivery)) : w.Hears (settle b w g result outer).1 w.state := by
  unfold settle
  split
  · exact ⟨rfl, rfl⟩
  · unfold placed
    dsimp only
    split <;> exact ⟨rfl, rfl⟩

/-- **A round asks the callback at most once**, and only for what a host call names. -/
theorem round_hears (b : Body) (w : World σ) (g : Guest) (a : Activity) :
    w.Hears (round b w g a).1 (w.callback.after w.state (asked? b w g a).toList) := by
  obtain ⟨focus, outer⟩ := a
  match focus with
  | .acting (.running t) => exact ⟨rfl, rfl⟩
  | .acting (.returned results) => exact settle_hears b w g (.ok results) outer
  | .acting (.stopped cause) => exact settle_hears b w g (.error cause) outer
  | .acting (.calling t func args) =>
    simp only [round, imported]
    split
    · rename_i allocator hf
      exact hostCall_hears b w g allocator t func args outer hf
    · rename_i name hf
      have hnone : asked? b w g ⟨.acting (.calling t func args), outer⟩ = none := by
        simp only [asked?, hf]
      rw [hnone]
      exact systemCall_hears ..
    · rename_i hf
      have hnone : asked? b w g ⟨.acting (.calling t func args), outer⟩ = none := by
        simp only [asked?, hf]
      rw [hnone]
      exact ⟨rfl, rfl⟩
  | .awaiting t call =>
    unfold round
    dsimp only
    split
    · exact ⟨rfl, rfl⟩
    · exact complete_hears ..
    · exact complete_hears ..

/-- **The callback's state is what its requests have made of it.** -/
theorem proceed_hears (b : Body) (rounds : Nat) (w : World σ) (g : Guest) (a : Activity) :
    w.Hears (proceed b rounds w g a).1 (w.callback.after w.state (asked b rounds w g a)) := by
  induction rounds generalizing w g a with
  | zero => exact ⟨rfl, rfl⟩
  | succ rounds ih =>
    have hround := round_hears b w g a
    rw [proceed, asked]
    generalize round b w g a = r at hround
    obtain ⟨v, g', s⟩ := r
    cases s with
    | busy a' =>
      have hrest := ih v g' a'
      rw [hround.callback, hround.state] at hrest
      exact ⟨hrest.callback.trans hround.callback, hrest.state.trans List.foldl_append.symm⟩
    | blocked a' => exact (List.append_nil (asked? b w g a).toList).symm ▸ hround
    | ended result => exact (List.append_nil (asked? b w g a).toList).symm ▸ hround

/-! ## One host call -/

section HostCall

variable {index func : Nat} {allocator : String} {args : List Word}
  {space operation key payload : HostCall.Pair}

theorem asked?_of_readable (hf : b.imports[func]? = some (.hostCall allocator))
    (hm : b.memory? = some index)
    (hargs : HostCall.pairs? args = some (space, operation, key, payload))
    (hread : HostCall.Readable (g.memory index) space operation key payload)
    (hopen : (contextOf b w g).2.interruption w.clock = none) :
    ∃ r, HostCall.Names (g.memory index) space operation key payload r ∧
      asked? b w g ⟨.acting (.calling t func args), outer⟩ = some ((contextOf b w g).2, r) := by
  obtain ⟨r, hnames, hr⟩ := HostCall.read_of_readable hread
  have hclock := contextOf_clock b w g
  refine ⟨r, hnames, ?_⟩
  simp only [asked?, hf, hm, hargs, hr, hclock, hopen]
  rfl

/-- **A host call that asks** waits for what the callback answers. -/
theorem round_of_asked {c : Context} {r : HostRequest}
    (hf : b.imports[func]? = some (.hostCall allocator))
    (h : asked? b w g ⟨.acting (.calling t func args), outer⟩ = some (c, r)) :
    let answer := w.callback c r w.state
    (round b w g ⟨.acting (.calling t func args), outer⟩).2 =
      (g.recordHostCall, .busy ⟨.awaiting t
        ⟨c, r, allocator, answer.reply, w.clock.now + answer.delay⟩, outer⟩) := by
  have hw := contextOf_hears b w g
  have hclock := contextOf_clock b w g
  simp only [asked?, hf] at h
  simp only [round, imported, hf, hostCall]
  cases hm : b.memory? with
  | none => simp [hm] at h
  | some index =>
    cases hargs : HostCall.pairs? args with
    | none => simp [hm, hargs] at h
    | some pairs =>
      obtain ⟨space, operation, key, payload⟩ := pairs
      have hmemory : g.recordHostCall.memory index = g.memory index := rfl
      have hcontext : contextOf b w g.recordHostCall = contextOf b w g := rfl
      simp only [hm, hargs, hmemory, hcontext] at h ⊢
      cases hread : HostCall.read (g.memory index) space operation key payload with
      | error e => simp [hread] at h
      | ok request =>
        simp only [hread, Option.ite_none_right_eq_some, Option.isNone_iff_eq_none,
          Option.some.injEq, Prod.mk.injEq] at h
        obtain ⟨hopen, rfl, rfl⟩ := h
        rw [hclock] at hopen
        simp only [hopen, World.ask, hw.callback, hw.state, hclock]

theorem asked?_of_not_readable (hf : b.imports[func]? = some (.hostCall allocator))
    (hm : b.memory? = some index)
    (hargs : HostCall.pairs? args = some (space, operation, key, payload))
    (hread : ¬ HostCall.Readable (g.memory index) space operation key payload) :
    asked? b w g ⟨.acting (.calling t func args), outer⟩ = none := by
  have herror : ∃ e, HostCall.read (g.memory index) space operation key payload = .error e := by
    by_cases hin : ∀ p ∈ [space, operation, key, payload], HostCall.Inside (g.memory index) p
    · obtain ⟨p, -, -, h⟩ := HostCall.read_of_not_texts hin fun htexts => hread ⟨hin, htexts⟩
      exact ⟨_, h⟩
    · obtain ⟨reason, h⟩ := HostCall.read_of_outside hin
      exact ⟨_, h⟩
  obtain ⟨e, he⟩ := herror
  simp only [asked?, hf, hm, hargs, he]

/-- Nothing but a host call asks the callback. -/
theorem asked?_eq_none {a : Activity}
    (h : ∀ t func args, a.focus ≠ .acting (.calling t func args)) : asked? b w g a = none := by
  unfold asked?
  split
  · rename_i hfocus
    exact absurd hfocus (h _ _ _)
  · rfl

/-- **A pair that lies outside costs the guest its answer and nothing else.** -/
theorem round_of_outside (hf : b.imports[func]? = some (.hostCall allocator))
    (hm : b.memory? = some index)
    (hargs : HostCall.pairs? args = some (space, operation, key, payload))
    (h : ¬ ∀ p ∈ [space, operation, key, payload], HostCall.Inside (g.memory index) p) :
    (round b w g ⟨.acting (.calling t func args), outer⟩).2 =
      (g.recordHostCall, .busy ⟨answered g t [Packed.failure], outer⟩) := by
  obtain ⟨reason, hr⟩ := HostCall.read_of_outside h
  have hmemory : g.recordHostCall.memory index = g.memory index := rfl
  simp only [round, imported, hf, hostCall, hm, hargs, hmemory, hr]
  rfl

/-- **Bytes that are no text are answered with a document**, if the guest has room for it. -/
theorem round_of_not_texts (hf : b.imports[func]? = some (.hostCall allocator))
    (hm : b.memory? = some index)
    (hargs : HostCall.pairs? args = some (space, operation, key, payload))
    (h : ∀ p ∈ [space, operation, key, payload], HostCall.Inside (g.memory index) p)
    (htexts : ¬ ∀ p ∈ [space, operation, key],
      (HostCall.shown (g.memory index) p).IsValidUTF8) :
    ∃ p ∈ [space, operation, key], ¬ (HostCall.shown (g.memory index) p).IsValidUTF8 ∧
      let document := HostCall.document "" "" (Region.noText p.1)
      let told := deliver b w g.recordHostCall allocator t ⟨document, true⟩ outer
      round b w g ⟨.acting (.calling t func args), outer⟩ = (told.1, told.2.1, .busy told.2.2) := by
  obtain ⟨p, hp, hbad, hr⟩ := HostCall.read_of_not_texts h htexts
  refine ⟨p, hp, hbad, ?_⟩
  have hmemory : g.recordHostCall.memory index = g.memory index := rfl
  simp only [round, imported, hf, hostCall, hm, hargs, hmemory, hr]

/-- **A host call is made as a whole or not at all.**  The callback, which keeps a record of what it
is asked, is asked if all four pairs lie inside memory and the first three show texts, and then for
exactly the bytes shown at that moment; otherwise it is not asked.  A pair outside, whatever the
others show, is answered with bare failure, and neither store nor poison of the guest change; bytes
that are no text are answered with a document.  What lies outside memory makes no difference, and no
round other than that of the host call asks anything. -/
theorem hostCall_whole_or_not {cb : Callback σ}
    {w : World (σ × List (Context × HostRequest))} (hw : w.callback = cb.recorded)
    (hf : b.imports[func]? = some (.hostCall allocator)) (hm : b.memory? = some index)
    (hargs : HostCall.pairs? args = some (space, operation, key, payload)) :
    let m := g.memory index
    let c := (contextOf b w g).2
    let next := round b w g ⟨.acting (.calling t func args), outer⟩
    (HostCall.Readable m space operation key payload → c.interruption w.clock = none →
      ∃ r, HostCall.Names m space operation key payload r ∧
        next.1.state.2 = w.state.2 ++ [(c, r)]) ∧
    (¬ HostCall.Readable m space operation key payload → next.1.state = w.state) ∧
    ((¬ ∀ p ∈ [space, operation, key, payload], HostCall.Inside m p) →
      next.2.1.store = g.store ∧ next.2.1.poisoned = g.poisoned ∧
        next.2.2 = .busy ⟨answered g t [Packed.failure], outer⟩) ∧
    ((∀ p ∈ [space, operation, key, payload], HostCall.Inside m p) →
      (¬ ∀ p ∈ [space, operation, key], (HostCall.shown m p).IsValidUTF8) →
      ∃ p ∈ [space, operation, key], ¬ (HostCall.shown m p).IsValidUTF8 ∧
        let reason := "string at " ++ hexAddress p.1.toNat ++ " is not valid UTF-8"
        let document := (Json.record [
          ("error", .record [("kind", .text "invalid_argument"),
            ("message", .text ("Invalid argument: " ++ reason))]),
          ("namespace", .text ""),
          ("operation", .text "")]).toBytes
        let told := deliver b w g.recordHostCall allocator t ⟨document, true⟩ outer
        next = (told.1, told.2.1, .busy told.2.2)) ∧
    (∀ m', m'.size = m.size → (∀ k < m.size, m'.byte k = m.byte k) →
      HostCall.read m' space operation key payload =
        HostCall.read m space operation key payload) ∧
    (∀ (b : Body) (w : World σ) (g : Guest) (a : Activity),
      (∀ t func args, a.focus ≠ .acting (.calling t func args)) →
      (round b w g a).1.state = w.state) := by
  intro m c next
  -- What a recording callback has noted is what this round asks.
  have hstate := (round_hears b w g ⟨.acting (.calling t func args), outer⟩).state
  refine ⟨fun hread hopen => ?_, fun hread => ?_, fun hout => ?_, fun hin htexts => ?_,
    fun m' hsize hbytes => HostCall.read_congr hsize hbytes .., fun b w g a ha => ?_⟩
  · obtain ⟨r, hnames, hr⟩ : ∃ r, HostCall.Names m space operation key payload r ∧
        asked? b w g ⟨.acting (.calling t func args), outer⟩ = some (c, r) :=
      asked?_of_readable hf hm hargs hread hopen
    rw [hr, hw] at hstate
    refine ⟨r, hnames, ?_⟩
    rw [hstate]
    exact congrArg Prod.snd (Callback.after_recorded cb w.state.1 w.state.2 [(c, r)])
  · rw [asked?_of_not_readable hf hm hargs hread] at hstate
    exact hstate
  · have hnext : next.2 = _ := round_of_outside hf hm hargs hout
    rw [hnext]
    exact ⟨rfl, rfl, rfl⟩
  · exact round_of_not_texts hf hm hargs hin htexts
  · have h := (round_hears b w g a).state
    rw [asked?_eq_none ha] at h
    exact h

end HostCall

end Activity

/-! ## A guest that relays -/

/-- The body of a guest whose entrypoint makes a host call and returns the answer as it is. -/
def Body.relay : Body :=
  { name := "relay"
    program :=
      { module :=
          { types := #[Body.allocatorType, Linker.hostCallType, Body.entrypointType]
            imports := #[⟨Linker.hostSpace, Linker.hostCallName, .func 1⟩]
            funcs := #[0, 2]
            memories := #[⟨1, none⟩]
            exports := #[⟨"memory", .memory 0⟩, ⟨"allocate", .func 1⟩, ⟨"run", .func 2⟩] }
        importedFuncs := 1
        funcTypes := #[Linker.hostCallType, Body.allocatorType, Body.entrypointType]
        code := #[⟨Body.allocatorType, #[], #[.plain (.const .i32 1024), .ret]⟩,
          ⟨Body.entrypointType, #[],
            Array.replicate 8 (.plain (.const .i32 0)) ++ #[.call 0, .ret]⟩] }
    imports := #[.hostCall "allocate"]
    execution := {} }

/-- A guest with one page of zeros. -/
def Guest.blank : Guest :=
  { store :=
      { memories := #[.zeros 1 1], tables := #[], globals := #[], data := #[], elems := #[]
        fuel := .full 1000, deadline := none, memoryLimit := Wasm.pageSize } }

/-- A callback that always answers with one byte. -/
def Callback.seven : Callback Unit := fun _ _ _ => { state := (), reply := .ok (.mk #[7]) }

/-- A world in which every host call is answered with one byte, and recorded. -/
def World.recording : World (Unit × List (Context × HostRequest)) :=
  { callback := Callback.seven.recorded, state := ((), []) }

/-- A guest with one page that begins with some bytes. -/
def Guest.holding (bytes : Bytes) : Guest :=
  { Guest.blank with
    store := { Guest.blank.store with
      memories := #[{ Wasm.Memory.zeros 1 1 with stored := bytes }] } }

/-- Three calls of a guest whose memory begins with three texts and a byte that is none.  The first is
made, with a payload that begins inside a text and ends with that byte.  The second reaches out of
memory by one byte, and the third shows no text for a key and nothing at the very end of memory. -/
theorem relay_hostCall :
    let g := Guest.holding ("testechok".toUTF8 ++ ⟨#[255]⟩)
    let c := (Activity.contextOf Body.relay World.recording g).2
    let next (args : List Word) := Activity.round Body.relay World.recording g
      ⟨.acting (.calling default 0 args), []⟩
    (next [0, 4, 4, 4, 8, 1, 7, 3]).1.state.2 = [(c, ⟨"test", "echo", "k", ⟨#[111, 107, 255]⟩⟩)] ∧
    ((next [9, 1, 4, 4, 8, 1, 65535, 2]).1.state = World.recording.state ∧
      (next [9, 1, 4, 4, 8, 1, 65535, 2]).2.1.store = g.store ∧
      (next [9, 1, 4, 4, 8, 1, 65535, 2]).2.1.poisoned = none ∧
      (next [9, 1, 4, 4, 8, 1, 65535, 2]).2.2 =
        .busy ⟨Activity.answered g default [Packed.failure], []⟩) ∧
    ((next [0, 4, 4, 4, 9, 1, 65536, 0]).1.state = World.recording.state ∧
      let document :=
        "\x7b\"error\":\x7b\"kind\":\"invalid_argument\"," ++
        "\"message\":\"Invalid argument: string at 0x9 is not valid UTF-8\"\x7d," ++
        "\"namespace\":\"\",\"operation\":\"\"\x7d"
      let told := Activity.deliver Body.relay World.recording g.recordHostCall "allocate" default
        ⟨document.toUTF8, true⟩ []
      next [0, 4, 4, 4, 9, 1, 65536, 0] = (told.1, told.2.1, .busy told.2.2)) := by
  intro g c next
  have hwhole {args : List Word} {space operation key payload : HostCall.Pair}
      (hargs : HostCall.pairs? args = some (space, operation, key, payload)) :=
    @Activity.hostCall_whole_or_not Unit .relay g default [] 0 0 "allocate" args space operation key
      payload Callback.seven .recording rfl rfl rfl hargs
  have hsize : (g.memory 0).size = 65536 := rfl
  have hspace : HostCall.shown (g.memory 0) (0, 4) = "test".toUTF8 := by decide +kernel
  have hoperation : HostCall.shown (g.memory 0) (4, 4) = "echo".toUTF8 := by decide +kernel
  have hkey : HostCall.shown (g.memory 0) (8, 1) = "k".toUTF8 := by decide +kernel
  have hpayload : HostCall.shown (g.memory 0) (7, 3) = ⟨#[111, 107, 255]⟩ := by decide +kernel
  have hbad : ¬ (HostCall.shown (g.memory 0) (9, 1)).IsValidUTF8 :=
    Utf8.decode?_eq_none_iff.mp (by decide +kernel)
  have hmade : HostCall.pairs? [0, 4, 4, 4, 8, 1, 7, 3] = some ((0, 4), (4, 4), (8, 1), (7, 3)) := rfl
  have houtside : HostCall.pairs? [9, 1, 4, 4, 8, 1, 65535, 2] =
      some ((9, 1), (4, 4), (8, 1), (65535, 2)) := rfl
  have hnoText : HostCall.pairs? [0, 4, 4, 4, 9, 1, 65536, 0] =
      some ((0, 4), (4, 4), (9, 1), (65536, 0)) := rfl
  have hnext (args : List Word) : next args = Activity.round Body.relay World.recording g
      ⟨.acting (.calling default 0 args), []⟩ := rfl
  simp -zeta only [hnext]
  refine ⟨?_, ?_, ?_⟩
  · have hread : HostCall.Readable (g.memory 0) (0, 4) (4, 4) (8, 1) (7, 3) :=
      { inside := by simp [HostCall.Inside, hsize]
        texts := by
          simp only [List.forall_mem_cons, hspace, hoperation, hkey]
          exact ⟨String.isValidUTF8 _, String.isValidUTF8 _, String.isValidUTF8 _,
            fun _ h => nomatch h⟩ }
    obtain ⟨⟨space, operation, key, payload⟩, hnames, hasked⟩ :=
      (hwhole hmade).1 hread rfl
    obtain rfl : space = "test" := String.toByteArray_inj.mp (hnames.space.trans hspace)
    obtain rfl : operation = "echo" := String.toByteArray_inj.mp (hnames.operation.trans hoperation)
    obtain rfl : key = "k" := String.toByteArray_inj.mp (hnames.key.trans hkey)
    obtain rfl : payload = ⟨#[111, 107, 255]⟩ := hnames.payload.trans hpayload
    exact hasked
  · have hout : ¬ ∀ p ∈ [((9, 1) : HostCall.Pair), (4, 4), (8, 1), (65535, 2)],
        HostCall.Inside (g.memory 0) p := by
      simp [HostCall.Inside, hsize]
    obtain ⟨-, hnot, hfails, -⟩ := hwhole houtside
    exact ⟨hnot fun hread => hout hread.inside, hfails hout⟩
  · have hin : ∀ p ∈ [((0, 4) : HostCall.Pair), (4, 4), (9, 1), (65536, 0)],
        HostCall.Inside (g.memory 0) p := by
      simp [HostCall.Inside, hsize]
    have htexts : ¬ ∀ p ∈ [((0, 4) : HostCall.Pair), (4, 4), (9, 1)],
        (HostCall.shown (g.memory 0) p).IsValidUTF8 := fun h => hbad (h (9, 1) (by simp))
    obtain ⟨-, hnot, -, htold, -⟩ := hwhole hnoText
    refine ⟨hnot fun hread => htexts hread.texts, ?_⟩
    intro document told
    obtain ⟨p, hp, hno, htold⟩ := htold hin htexts
    -- Only the third pair shows no text.
    obtain rfl : p = (9, 1) := by
      simp only [List.mem_cons, List.not_mem_nil, or_false] at hp
      rcases hp with rfl | rfl | rfl
      · exact absurd (hspace ▸ String.isValidUTF8 "test") hno
      · exact absurd (hoperation ▸ String.isValidUTF8 "echo") hno
      · rfl
    have hdocument : (Json.record [
        ("error", .record [("kind", .text "invalid_argument"),
          ("message", .text ("Invalid argument: " ++
            ("string at " ++ hexAddress (9 : UInt32).toNat ++ " is not valid UTF-8")))]),
        ("namespace", .text ""), ("operation", .text "")]).toBytes = document.toUTF8 := by
      decide +kernel
    dsimp only at htold
    rw [hdocument] at htold
    rw [htold]

end FunctionHost

import FunctionHost.Http.Exchange
import FunctionHost.Proofs.Dictionary
import FunctionHost.Proofs.Http.Message

/-!
# What a guest gets of an answer

Headers are collected one by one: a value that cannot be shown is passed over, the first one of a name
that can is put under it, and each later one goes behind it (`find?_collected`).  So there is something
under a name if and only if a value can be shown, and what is there are all such values, in order
(`joined`).

An answer that comes in completely is taken as it is if its body is not too large, and else is refused
(`Incoming.IsComplete.response`).  It makes no difference whether its size was told before.  Nothing
is said of how it comes in; a machine that talks plainly delivers what it sends
(`Upstream.IsPlain.send`).
-/
namespace FunctionHost
namespace Http

/-! ## Headers -/

/-- A value of a header behind those there are. -/
def behind (before : Option String) (value : String) : String :=
  match before with
  | some text => text ++ ", " ++ value
  | none => value

/-- The values of a name, in any case, that can be shown, in order. -/
def shownOf (headers : List (String × List UInt8)) (name : String) : List String :=
  (headers.filter fun h => h.1.toLower = name && h.2.all isShown).map fun h => asciiText h.2

/-- **Values in one line**, if there are any. -/
def joined (values : List String) : Option String :=
  if values = [] then none else some (", ".intercalate values)

theorem foldl_behind (values : List String) :
    values.foldl (fun before value => some (behind before value)) none = joined values := by
  induction values using List.reverseRecOn with
  | nil => rfl
  | append_singleton values value ih =>
    have hlonger : joined (values ++ [value]) = some (", ".intercalate (values ++ [value])) :=
      if_neg (List.append_ne_nil_of_right_ne_nil _ (List.cons_ne_nil _ _))
    rw [List.foldl_append, ih, hlonger]
    by_cases hnil : values = []
    · subst hnil
      rw [List.nil_append, String.intercalate_singleton]
      rfl
    · rw [String.intercalate_append_of_ne_nil hnil (List.cons_ne_nil _ _),
        String.intercalate_singleton, joined, if_neg hnil]
      rfl

/-- Another header goes behind those of its name, if its value can be shown. -/
theorem find?_collect (all : Headers) (header : String × List UInt8) (name : String) :
    (collect all header).find? name =
      (shownOf [header] name).foldl (fun before value => some (behind before value))
        (all.find? name) := by
  obtain ⟨other, value⟩ := header
  by_cases hshown : value.all isShown = true
  · have hinsert : collect all (other, value) =
        all.insert other.toLower (behind (all.find? other.toLower) (asciiText value)) := by
      simp only [collect, hshown, Bool.not_true, Bool.false_eq_true, if_false]
      cases all.find? other.toLower <;> rfl
    rw [hinsert]
    by_cases hname : other.toLower = name
    · subst hname
      simp [shownOf, hshown]
    · rw [Dictionary.find?_insert_of_ne (Ne.symm hname)]
      simp [shownOf, hname]
  · simp [collect, shownOf, hshown]

/-- **What is collected under a name** are its values that can be shown, in order. -/
theorem find?_collected (headers : List (String × List UInt8)) (name : String) :
    (headers.foldl collect .empty).find? name = joined (shownOf headers name) := by
  have hfold (headers : List (String × List UInt8)) (all : Headers) :
      (headers.foldl collect all).find? name =
        (shownOf headers name).foldl (fun before value => some (behind before value))
          (all.find? name) := by
    induction headers generalizing all with
    | nil => rfl
    | cons header headers ih =>
      have happend : shownOf (header :: headers) name =
          shownOf [header] name ++ shownOf headers name := by
        rw [shownOf, ← List.singleton_append, List.filter_append, List.map_append]
        rfl
      rw [List.foldl_cons, ih, find?_collect, happend, List.foldl_append]
  exact (hfold headers .empty).trans (foldl_behind _)

/-- **There is something under a name** if and only if a value of that name can be shown. -/
theorem joined_shownOf_isSome {headers : List (String × List UInt8)} {name : String} :
    (joined (shownOf headers name)).isSome ↔
      ∃ h ∈ headers, h.1.toLower = name ∧ h.2.all isShown = true := by
  have hsome : (joined (shownOf headers name)).isSome ↔ shownOf headers name ≠ [] := by
    rw [joined]
    split <;> simp [*]
  rw [hsome, shownOf, Ne, List.map_eq_nil_iff, List.filter_eq_nil_iff]
  simp

theorem eq_of_joined {values : List String} {text : String} (h : joined values = some text) :
    text = ", ".intercalate values := by
  rw [joined] at h
  split at h
  · cases h
  · exact (Option.some.inj h).symm

/-! ## Answers that come in -/

/-- **Whether an answer comes in completely**: its body is there, and is as long as was told before, if
that was told. -/
structure Incoming.IsComplete (answer : Incoming) (body : Bytes) : Prop where
  whole : answer.body = .ok body
  told : ∀ length ∈ answer.told, length = body.size

/-- **What is made of an answer that comes in completely**: the two checks of its size are one. -/
theorem Incoming.IsComplete.response {answer : Incoming} {body : Bytes}
    (h : answer.IsComplete body) (maxBytes : Nat) :
    answer.response maxBytes =
      if body.size ≤ maxBytes then
        .ok { status := ⟨200, "OK"⟩, code := answer.status.toNat
              headers := answer.headers.foldl collect .empty, body := body }
      else .error tooLarge := by
  unfold Incoming.response
  by_cases hfits : body.size ≤ maxBytes
  · have htold : ¬ answer.told.any (maxBytes < ·) = true := by
      rw [Option.any_eq_true]
      rintro ⟨length, hm, hlarge⟩
      exact absurd hfits (Nat.not_le.mpr (h.told length hm ▸ of_decide_eq_true hlarge))
    rw [if_neg htold, h.whole, if_pos hfits]
    exact if_neg (Nat.not_lt.mpr hfits)
  · rw [h.whole, if_neg hfits]
    simp only [if_pos (Nat.lt_of_not_le hfits), ite_self]

/-- **What is made of an answer** tells of a failure, or has a status that fits into its two bytes. -/
theorem Incoming.response_cases (answer : Incoming) (maxBytes : Nat) :
    (∃ text, answer.response maxBytes = .error (.failure 500 text)) ∨
      ∃ response, answer.response maxBytes = .ok response ∧ response.status.code = 200 ∧
        response.code < UInt16.size := by
  unfold Incoming.response
  split
  · exact .inl ⟨_, rfl⟩
  · split
    · exact .inl ⟨_, rfl⟩
    · split
      · exact .inl ⟨_, rfl⟩
      · exact .inr ⟨_, rfl, rfl, answer.status.toNat_lt⟩

/-! ## Answers of machines that talk plainly -/

/-- **Whether an answer comes in as it was sent**, with the names of its headers in small letters. -/
structure Upstream.ArrivesAs (up : Upstream) (answer : Incoming) : Prop where
  status : answer.status.toNat = up.status
  headers : answer.headers = up.headers.map fun h => (h.1.toLower, h.2)
  complete : answer.IsComplete (Bytes.ofList up.body)

variable {method : String} {up : Upstream}

theorem length_of_body? {rest body : List UInt8} {length : Nat}
    (h : body? rest (.sized length) = some body) : length = body.length := by
  rw [body?] at h
  split at h
  next hle =>
    cases h
    exact (List.length_take_of_le hle).symm
  next => cases h

/-- **An answer is taken from the bytes** that it was sent as, if it sends the client nowhere else. -/
theorem Upstream.IsPlain.received (h : up.IsPlain method)
    (hstays : isRedirection up.status = true → ∀ h ∈ up.headers, h.1.toLower ≠ "location") (u : Url) :
    ∃ answer, Http.received method u (Bytes.ofList up.wire) = .ok answer ∧ up.ArrivesAs answer := by
  obtain ⟨framing, hanswer, hbody⟩ := h.answer?_wire (maxAnnouncements - 1)
  have hhead : answer? method maxAnnouncements (Bytes.ofList up.wire).toList =
      some (up.head, framing, up.body) := by
    rw [Bytes.toList_ofList]
    exact hanswer
  have hnowhere : up.head.redirection? (bare u) = none := by
    rw [Head.redirection?]
    cases hredirection : isRedirection up.head.status with
    | false => rfl
    | true =>
      have hlocation : up.head.values "location" = [] := by
        refine List.eq_nil_iff_forall_not_mem.mpr fun value hv => ?_
        obtain ⟨header, hm, hname, -⟩ := Upstream.mem_values hv
        exact hstays hredirection header hm hname
      rw [hlocation]
      rfl
  rw [Http.received, hhead]
  simp only [hnowhere, hbody]
  have hstatus : (UInt16.ofNat up.status).toNat = up.status :=
    UInt16.toNat_ofNat_of_lt' (Nat.lt_trans h.status.2 (by decide))
  refine ⟨_, rfl, hstatus, rfl, rfl, fun length hm => ?_⟩
  -- Only a framing by size tells of the size before the body is there.
  cases framing with
  | sized size =>
    cases hm
    exact length_of_body? hbody
  | chunked | untilEnd => cases hm

/-- **A machine that talks plainly delivers its answer.** -/
theorem Upstream.IsPlain.send {network later : Network} {out : Outgoing} (h : up.IsPlain out.method)
    (hstays : isRedirection up.status = true → ∀ h ∈ up.headers, h.1.toLower ≠ "location")
    (htime : 0 < out.limit) (hscheme : out.url.scheme = "http")
    (hpeer : network.exchange (Network.place out.url) out.sent =
      (later, some (Bytes.ofList up.wire))) :
    ∃ answer, Network.send network out = (later, .ok answer) ∧ up.ArrivesAs answer := by
  obtain ⟨answer, hreceived, harrives⟩ := h.received hstays out.url
  refine ⟨answer, ?_, harrives⟩
  have htried : ¬ (out.limit = 0 ∨ out.url.scheme ≠ "http") :=
    not_or.mpr ⟨Nat.pos_iff_ne_zero.mp htime, not_not.mpr hscheme⟩
  simp only [Network.send, if_neg htried, hpeer, Option.map_some, hreceived]

end Http
end FunctionHost

import Mathlib
import FunctionHost.Proofs.Capability.Outcome

/-!
# Failures of the HTTP client

There are two kinds of failure: a payload is bad, or something goes wrong on the way.  A payload that is
no request, or has a method or an address that is none, is told of as bad, and everything else that
fails as a failure on the way (`HttpClient.told_apart_iff`).  That tells the two apart unless no request
can be built of the payload, because a header is illegal or nothing can be sent to the address.  Then
nobody is asked, and still the guest is told of a failure on the way
(`HttpClient.bad_header_is_not_told_apart`).
-/
namespace FunctionHost

open Http (Request Response)

namespace HttpClient

variable {client : HttpClient} {c : Context} {left : Nat} {r : HostRequest} {payload : Bytes}
  {request : Request} {response : Response} {method : String} {u : Url}

/-! ## Bad payloads -/

/-- **Whether a client can send to an address.** -/
structure CanSendTo (u : Url) : Prop where
  scheme : u.scheme = "http" ∨ u.scheme = "https"
  host : u.hostText.any Http.isUnsendable = false
  length : (Http.bare u).render.utf8ByteSize ≤ Http.maxUrlBytes

/-- **Whether no request can be built of a payload**: a header has a name or a value that is not legal,
or nothing can be sent to the address. -/
inductive IsUnsendable (payload : Bytes) : Prop
  | header {request : Request} (h : Request.parse payload = .ok request)
    (header : String × String) (hmem : header ∈ request.headers.entries)
    (hheader : Http.isSendable header = false)
  | url {request : Request} {u : Url} (h : Request.parse payload = .ok request)
    (hurl : Url.parse request.url = .ok u) (hsend : ¬ CanSendTo u)

theorem sent_of_illegal {header : String × String} (hmem : header ∈ request.headers.entries)
    (hheader : Http.isSendable header = false) : request.sent method u = .error (.unbuilt none) := by
  have hall : request.headers.entries.all Http.isSendable = false :=
    List.all_eq_false.mpr ⟨header, hmem, by simp [hheader]⟩
  rw [Request.sent, hall]
  rfl

/-- **A request is built** if and only if all its headers are legal and something can be sent to the
address. -/
theorem sent_eq_ok_iff : (∃ sent, request.sent method u = .ok sent) ↔
    (∀ header ∈ request.headers.entries, Http.isSendable header = true) ∧ CanSendTo u := by
  rw [← List.all_eq_true]
  unfold Request.sent
  cases hheaders : request.headers.entries.all Http.isSendable with
  | false => simp
  | true =>
    by_cases hscheme : u.scheme = "http" ∨ u.scheme = "https"
    · by_cases hplace : u.hostText.any Http.isUnsendable = true ∨
          Http.maxUrlBytes < (Http.bare u).render.utf8ByteSize
      · have hsend : ¬ CanSendTo u := by
          rintro ⟨-, hhost, hlength⟩
          rcases hplace with h | h
          · rw [hhost] at h
            cases h
          · exact absurd hlength (Nat.not_le.mpr h)
        simp [hscheme, hplace, hsend]
      · have hsend : CanSendTo u := by
          obtain ⟨hhost, hlength⟩ := not_or.mp hplace
          exact ⟨hscheme, by simpa using hhost, Nat.le_of_not_lt hlength⟩
        simp [hscheme, hplace, hsend]
    · have hsend : ¬ CanSendTo u := fun h => hscheme h.scheme
      simp [hscheme, hsend]

/-- **Whether a payload asks for something that can be sent**, as it is. -/
def IsLegal (payload : Bytes) : Prop :=
  ∃ request method u sent, Request.parse payload = .ok request ∧ target request = .ok (method, u) ∧
    request.sent method u = .ok sent

/-- **A payload is legal** if it is not refused for what it is and a request can be built of it. -/
theorem isLegal_iff : IsLegal payload ↔ ¬ IsMalformed payload ∧ ¬ IsUnsendable payload := by
  constructor
  · rintro ⟨request, method, u, sent, hparse, htarget, hsent⟩
    refine ⟨not_malformed hparse htarget, ?_⟩
    obtain ⟨hheaders, hsend⟩ := sent_eq_ok_iff.mp ⟨sent, hsent⟩
    obtain ⟨-, hurl, -⟩ := target_eq_ok_iff.mp htarget
    rintro (⟨h, header, hmem, hheader⟩ | ⟨h, hurl', hno⟩)
    · cases hparse.symm.trans h
      rw [hheaders header hmem] at hheader
      cases hheader
    · cases hparse.symm.trans h
      cases hurl.symm.trans hurl'
      exact hno hsend
  · rintro ⟨hmalformed, hunsendable⟩
    cases hparse : Request.parse payload with
    | error reason => exact absurd (.document hparse) hmalformed
    | ok request =>
      cases htarget : target request with
      | error response => exact absurd (target_eq_error hparse htarget).2 hmalformed
      | ok asked =>
        obtain ⟨method, u⟩ := asked
        obtain ⟨-, hurl, -⟩ := target_eq_ok_iff.mp htarget
        have hheaders : ∀ header ∈ request.headers.entries, Http.isSendable header = true := by
          intro header hmem
          by_contra h
          exact hunsendable (.header hparse header hmem (by simpa using h))
        have hsend : CanSendTo u := by
          by_contra h
          exact hunsendable (.url hparse hurl h)
        obtain ⟨sent, hsent⟩ := sent_eq_ok_iff.mpr ⟨hheaders, hsend⟩
        exact ⟨request, method, u, sent, hparse, htarget, hsent⟩

/-! ## Failures -/

/-- **Whether a failure tells bad input and failures on the way apart**: it has the one status if and
only if the payload is bad in any way, and the other only if what was asked for is legal and was
tried; the peer has no status. -/
structure TellsApart (payload : Bytes) (response : Response) : Prop where
  bad : response.status.code = 400 ↔ IsMalformed payload ∨ IsUnsendable payload
  tried : response.status.code = 500 → IsLegal payload
  code : response.code = 0

/-- **A payload that asks for nothing legal** fails, and nobody is asked. -/
theorem answer_of_not_legal (hop : r.operation = operation) (h : ¬ IsLegal r.payload) :
    (client.answer c left r).state = client ∧ ∃ e, (client.answer c left r).reply = .error e := by
  rw [answer, if_neg (not_not.mpr hop)]
  cases hread : Json.read Request.shape r.payload.toList with
  | error reason => exact ⟨rfl, _, rfl⟩
  | ok document =>
    have hparse : Request.parse r.payload = .ok (Request.ofDocument document) := by
      rw [Request.parse, hread]
      rfl
    simp only [perform]
    cases htarget : target (Request.ofDocument document) with
    | error response => exact ⟨rfl, _, rfl⟩
    | ok asked =>
      obtain ⟨method, u⟩ := asked
      cases hsent : (Request.ofDocument document).sent method u with
      | error fault =>
        simp only [hsent]
        exact ⟨rfl, _, rfl⟩
      | ok sent => exact absurd ⟨_, method, u, sent, hparse, htarget, hsent⟩ h

/-- **Bad input and failures on the way are told apart, unless no request can be built.**

A payload that asks for nothing legal fails, and nobody is asked.  Whoever reads what a guest is told
of a failure finds no status of a peer, and the status for bad input if and only if the payload is
refused for what it is, and the status for failures on the way otherwise.  So bad input and failures on
the way are told apart if and only if the payload is not one that could only be refused when a
request was built of it. -/
theorem told_apart_iff (client : HttpClient) (c : Context) (left : Nat) {r : HostRequest}
    (hop : r.operation = operation) :
    (¬ IsLegal r.payload →
      (client.answer c left r).state = client ∧ ∃ e, (client.answer c left r).reply = .error e) ∧
    ∀ e, (client.answer c left r).reply = .error e → ∃ response,
      Response.parse (HostCall.document r.space r.operation e) = .ok response ∧ response.code = 0 ∧
      (response.status.code = 400 ↔ IsMalformed r.payload) ∧
      (response.status.code = 500 ↔ ¬ IsMalformed r.payload) ∧
      (TellsApart r.payload response ↔ ¬ (IsUnsendable r.payload ∧ ¬ IsMalformed r.payload)) := by
  refine ⟨answer_of_not_legal hop, fun e he => ?_⟩
  obtain ⟨response, hout, rfl⟩ := error_of_reply hop he
  have hparse := (hasStatuses_of_outcome (.inr hout)).parse_document
  refine ⟨response, hparse, ?_⟩
  have hbad (text : String) : (Response.failure 400 text).status.code ≠ 500 := nofun
  have hway (text : String) : (Response.failure 500 text).status.code ≠ 400 := nofun
  obtain ⟨⟨text, hcase⟩, hmalformed⟩ | ⟨hmalformed, ⟨text, hcase⟩ | ⟨_, hcase, -⟩⟩ :=
    client.outcome_cases left r.payload
  · cases hout.symm.trans hcase
    refine ⟨rfl, iff_of_true rfl hmalformed, iff_of_false (hbad text) (not_not.mpr hmalformed), ?_⟩
    have htells : TellsApart r.payload (.failure 400 text) :=
      ⟨iff_of_true rfl (.inl hmalformed), fun h => absurd h (hbad text), rfl⟩
    exact iff_of_true htells fun h => h.2 hmalformed
  · cases hout.symm.trans hcase
    refine ⟨rfl, iff_of_false (hway text) hmalformed, iff_of_true rfl hmalformed, fun h hu => ?_,
      fun h => ?_⟩
    · exact (isLegal_iff.mp (h.tried rfl)).2 hu.1
    · have hunsendable : ¬ IsUnsendable r.payload := fun hu => h ⟨hu, hmalformed⟩
      exact ⟨iff_of_false (hway text) (not_or.mpr ⟨hmalformed, hunsendable⟩),
        fun _ => isLegal_iff.mpr ⟨hmalformed, hunsendable⟩, rfl⟩
  · cases hout.symm.trans hcase

/-- A call with a text as its payload. -/
def callOf (text : String) : HostRequest :=
  { space := space, operation := operation, key := "", payload := Bytes.ofText text }

/-- A guest that asks for what is no address is told that this is bad. -/
theorem bad_address_is_told_apart :
    let r := callOf "\x7b\"url\": \"/\"\x7d"
    ∃ e response, ((default : HttpClient).answer default 30000 r).reply = .error e ∧
      Response.parse (HostCall.document r.space r.operation e) = .ok response ∧
      response.status.code = 400 ∧ TellsApart r.payload response := by
  intro r
  have hparse : Request.parse r.payload = .ok { url := "/" } := by cbv
  have hurl : Url.parse "/" = .error .relative := by cbv
  have hmalformed : IsMalformed r.payload := .url hparse hurl
  obtain ⟨hfails, htold⟩ := told_apart_iff default default 30000 (r := r) rfl
  obtain ⟨-, e, he⟩ := hfails fun hlegal => (isLegal_iff.mp hlegal).1 hmalformed
  obtain ⟨response, hdocument, -, hstatus, -, hapart⟩ := htold e he
  exact ⟨e, response, he, hdocument, hstatus.mpr hmalformed, hapart.mpr fun h => h.2 hmalformed⟩

/-- A guest that asks for an illegal header is told of a failure on the way, though nothing was sent
and the payload is bad. -/
theorem bad_header_is_not_told_apart :
    let r := callOf "\x7b\"url\": \"http://127.0.0.1:9/\", \"headers\": \x7b\"a\": \"b\\n\"\x7d\x7d"
    IsUnsendable r.payload ∧
      ∃ e response, ((default : HttpClient).answer default 30000 r).reply = .error e ∧
        Response.parse (HostCall.document r.space r.operation e) = .ok response ∧
        response.status = ⟨500, "Unable to execute HTTP request - " ++ "builder error"⟩ ∧
        ¬ TellsApart r.payload response := by
  intro r
  have hparse : Request.parse r.payload =
      .ok { url := "http://127.0.0.1:9/", headers := Dictionary.empty.insert "a" "b\n" } := by cbv
  have hheader : Http.isSendable ("a", "b\n") = false := by cbv
  have hname : Http.isName (Bytes.ofText "GET".toUpper).toList = true := by cbv
  have hurl : Url.parse "http://127.0.0.1:9/" =
      .ok { scheme := "http", host := some (.ipv4 2130706433), port := some 9, path := "/" } := by cbv
  have hunsendable : IsUnsendable r.payload := .header hparse _ List.mem_cons_self hheader
  have hout : (default : HttpClient).outcome 30000 r.payload =
      .error (transportFailure (Http.ExchangeFault.unbuilt none).message) :=
    outcome_of_unsent hparse (target_eq_ok_iff.mpr ⟨hname, hurl, rfl⟩)
      (sent_of_illegal List.mem_cons_self hheader)
  have hreply : ((default : HttpClient).answer default 30000 r).reply =
      .error (refusal (transportFailure (Http.ExchangeFault.unbuilt none).message)) := by
    rw [answer_reply rfl, hout]
    rfl
  have hdocument := (hasStatuses_of_outcome (.inr hout)).parse_document
  refine ⟨hunsendable, _, _, hreply, hdocument, rfl, fun h => ?_⟩
  have hbad : 500 = 400 := h.bad.mpr (.inr hunsendable)
  exact absurd hbad (by decide)

end HttpClient
end FunctionHost

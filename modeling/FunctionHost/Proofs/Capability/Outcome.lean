import Mathlib
import FunctionHost.Capability.HttpClient
import FunctionHost.Guest.HostCall
import FunctionHost.Proofs.Http.Document
import FunctionHost.Proofs.Http.Exchange

/-!
# What comes of a request over HTTP

A payload comes to an outcome (`HttpClient.outcome`): a response, or a response that tells of a
failure.  It is refused because it is no request, because of its method or its address, or because
no request can be built of it; otherwise it is sent, however that is done, and what comes of it is
made of the answer that comes in (`HttpClient.attempt`).  The answer to the host call is the document
of the outcome, and since documents are read back, whoever reads it gets the outcome itself
(`HttpClient.documents_round_trip`).
-/
namespace FunctionHost

open Http (Request Response Sent ExchangeFault Outgoing)

namespace HttpClient

variable {client : HttpClient} {c : Context} {left : Nat} {r : HostRequest} {payload : Bytes}
  {request : Request} {response : Response} {method : String} {u : Url} {sent : Sent}
  {fault : ExchangeFault}

/-! ## Outcomes -/

/-- The response that tells of a failure on the way. -/
def transportFailure (reason : String) : Response :=
  .failure 500 ("Unable to execute HTTP request - " ++ reason)

/-- **What comes of sending** a request. -/
def attempt (client : HttpClient) (out : Outgoing) : Except Response Response :=
  match (client.send client.network out).2 with
  | .error reason => .error (transportFailure reason)
  | .ok answer => answer.response client.settings.maxBodyBytes.toNat

/-- **What comes of a request.** -/
def requestOutcome (client : HttpClient) (left : Nat) (request : Request) :
    Except Response Response :=
  match target request with
  | .error response => .error response
  | .ok (method, u) =>
    match request.sent method u with
    | .error fault => .error (transportFailure fault.message)
    | .ok sent => client.attempt ⟨method, u, sent, request.insecure, client.limit left⟩

/-- **What comes of a payload.** -/
def outcome (client : HttpClient) (left : Nat) (payload : Bytes) : Except Response Response :=
  match Request.parse payload with
  | .error reason => .error (badRequest ("Unable to parse request - " ++ reason))
  | .ok request => client.requestOutcome left request

theorem outcome_of_unsent (hparse : Request.parse payload = .ok request)
    (htarget : target request = .ok (method, u)) (hsent : request.sent method u = .error fault) :
    client.outcome left payload = .error (transportFailure fault.message) := by
  rw [outcome, hparse]
  simp only [requestOutcome, htarget, hsent]

theorem outcome_of_sent (hparse : Request.parse payload = .ok request)
    (htarget : target request = .ok (method, u)) (hsent : request.sent method u = .ok sent) :
    client.outcome left payload =
      client.attempt ⟨method, u, sent, request.insecure, client.limit left⟩ := by
  rw [outcome, hparse]
  simp only [requestOutcome, htarget, hsent]

/-- **Performing a request** comes to its outcome. -/
theorem perform_outcome (client : HttpClient) (c : Context) (left : Nat) (request : Request) :
    (client.perform c left request).2.2 = client.requestOutcome left request := by
  rw [perform, requestOutcome]
  cases target request with
  | error response => rfl
  | ok asked =>
    obtain ⟨method, u⟩ := asked
    cases hsent : request.sent method u with
    | error fault =>
      simp only [hsent]
      rfl
    | ok sent =>
      simp only [hsent, attempt]
      cases (client.send client.network
          ⟨method, u, sent, request.insecure, client.limit left⟩).2 with
      | error reason => rfl
      | ok answer =>
        simp only
        cases answer.response client.settings.maxBodyBytes.toNat <;> rfl

/-- The answer to a host call with an outcome. -/
def replyOf : Except Response Response → Reply
  | .ok response => .ok response.document.toBytes
  | .error response => .error (refusal response)

/-- **A call is answered** with the document of its outcome. -/
theorem answer_reply (h : r.operation = operation) :
    (client.answer c left r).reply = replyOf (client.outcome left r.payload) := by
  rw [answer, if_neg (not_not.mpr h), outcome, Request.parse]
  cases Json.read Request.shape r.payload.toList with
  | error reason => rfl
  | ok document =>
    simp only [Except.map]
    rw [← perform_outcome client c left]
    cases (client.perform c left (Request.ofDocument document)).2.2 with
    | error response => rfl
    | ok response => rfl

/-- A call fails with the document of its outcome. -/
theorem error_of_reply (hop : r.operation = operation) {e : CallbackError}
    (h : (client.answer c left r).reply = .error e) :
    ∃ response, client.outcome left r.payload = .error response ∧ e = refusal response := by
  rw [answer_reply hop] at h
  cases hout : client.outcome left r.payload with
  | ok response =>
    rw [hout] at h
    cases h
  | error response =>
    rw [hout] at h
    cases h
    exact ⟨response, rfl, rfl⟩

/-! ## Payloads that are refused -/

/-- **Whether a payload is refused for what it is**: it is no document of a request, its method is no
name or its address none. -/
inductive IsMalformed (payload : Bytes) : Prop
  | document {reason : String} (h : Request.parse payload = .error reason)
  | method {request : Request} (h : Request.parse payload = .ok request)
    (hmethod : Http.isName (Bytes.ofText request.method.toUpper).toList = false)
  | url {request : Request} {fault : UrlFault} (h : Request.parse payload = .ok request)
    (hurl : Url.parse request.url = .error fault)

theorem target_eq_ok_iff : target request = .ok (method, u) ↔
    Http.isName (Bytes.ofText request.method.toUpper).toList = true ∧
      Url.parse request.url = .ok u ∧ method = request.method.toUpper := by
  rw [target]
  cases hname : Http.isName (Bytes.ofText request.method.toUpper).toList with
  | false => simp
  | true =>
    cases Url.parse request.url with
    | error fault => simp
    | ok u => simp [and_comm, eq_comm]

/-- A request with a method and an address is not refused for what it is. -/
theorem not_malformed (hparse : Request.parse payload = .ok request)
    (htarget : target request = .ok (method, u)) : ¬ IsMalformed payload := by
  obtain ⟨hname, hurl, -⟩ := target_eq_ok_iff.mp htarget
  rintro (h | ⟨h, hmethod⟩ | ⟨h, hfault⟩)
  · rw [hparse] at h
    cases h
  · rw [hparse] at h
    cases h
    rw [hname] at hmethod
    cases hmethod
  · rw [hparse] at h
    cases h
    rw [hurl] at hfault
    cases hfault

theorem target_eq_error (hparse : Request.parse payload = .ok request)
    (h : target request = .error response) :
    (∃ text, response = .failure 400 text) ∧ IsMalformed payload := by
  rw [target] at h
  split at h
  next hname =>
    cases h
    exact ⟨⟨_, rfl⟩, .method hparse (by simpa using hname)⟩
  next =>
    split at h
    next hurl =>
      cases h
      exact ⟨⟨_, rfl⟩, .url hparse hurl⟩
    next => cases h

theorem attempt_cases (client : HttpClient) (out : Outgoing) :
    (∃ text, client.attempt out = .error (.failure 500 text)) ∨
      ∃ response, client.attempt out = .ok response ∧ response.status.code = 200 ∧
        response.code < UInt16.size := by
  unfold attempt
  split
  · exact .inl ⟨_, rfl⟩
  next answer _ => exact answer.response_cases _

/-- **What a payload comes to**: it is refused for what it is, which is a failure of the first kind;
or it is not, and that is a failure of the second kind or a response. -/
theorem outcome_cases (client : HttpClient) (left : Nat) (payload : Bytes) :
    (∃ text, client.outcome left payload = .error (.failure 400 text)) ∧ IsMalformed payload ∨
      ¬ IsMalformed payload ∧ ((∃ text, client.outcome left payload = .error (.failure 500 text)) ∨
        ∃ response, client.outcome left payload = .ok response ∧ response.status.code = 200 ∧
          response.code < UInt16.size) := by
  rw [outcome]
  cases hparse : Request.parse payload with
  | error reason => exact .inl ⟨⟨_, rfl⟩, .document hparse⟩
  | ok request =>
    simp only [requestOutcome]
    cases htarget : target request with
    | error response =>
      obtain ⟨⟨text, rfl⟩, hmalformed⟩ := target_eq_error hparse htarget
      exact .inl ⟨⟨text, rfl⟩, hmalformed⟩
    | ok asked =>
      obtain ⟨method, u⟩ := asked
      refine .inr ⟨not_malformed hparse htarget, ?_⟩
      simp only
      cases request.sent method u with
      | error fault => exact .inl ⟨_, rfl⟩
      | ok sent => exact client.attempt_cases _

/-! ## Documents -/

theorem failure_hasStatuses {code : Nat} (h : code < UInt16.size) (text : String) :
    (Response.failure code text).HasStatuses where
  status := h
  code := by
    show 0 < UInt16.size
    decide

/-- **What comes of a payload has statuses** that its document can tell. -/
theorem hasStatuses_of_outcome
    (h : client.outcome left payload = .ok response ∨ client.outcome left payload = .error response) :
    response.HasStatuses := by
  obtain ⟨⟨text, hout⟩, -⟩ | ⟨-, ⟨text, hout⟩ | ⟨other, hout, hstatus, hcode⟩⟩ :=
    client.outcome_cases left payload
  · obtain h | h := h <;> cases hout.symm.trans h
    exact failure_hasStatuses (by decide) text
  · obtain h | h := h <;> cases hout.symm.trans h
    exact failure_hasStatuses (by decide) text
  · obtain h | h := h <;> cases hout.symm.trans h
    refine ⟨?_, hcode⟩
    rw [hstatus]
    decide

/-- **Documents of exchanges are read back.**

* A request is read back from its document, whatever its texts, its headers and its body are, and so
  is a response.
* In a document that has any members of a request, or of a response, a body that is missing or null
  is empty; a text is read as a body if and only if it spells bytes in base64, and then it is the
  text that is written for them.
* So the document that a successful call delivers, and the one that tells the guest of a failed call,
  are both read as what the client made of the call. -/
theorem documents_round_trip :
    (∀ request : Request, Request.parse request.document.toBytes = .ok request) ∧
    (∀ response : Response, response.HasStatuses →
      Response.parse response.document.toBytes = .ok response) ∧
    (∀ before after : List (String × Json), ((before ++ after).map (·.1)).Nodup →
      (∀ field ∈ before ++ after, Request.IsField field) →
      Http.ReadsBodies Request.parse ["url"] Request.body (fun request bytes =>
        { request with body := bytes }) before after) ∧
    (∀ before after : List (String × Json), ((before ++ after).map (·.1)).Nodup →
      (∀ field ∈ before ++ after, Response.IsField field) →
      Http.ReadsBodies Response.parse ["status", "code"] Response.body (fun response bytes =>
        { response with body := bytes }) before after) ∧
    (∀ (client : HttpClient) (c : Context) (left : Nat) (r : HostRequest), r.operation = operation →
      (∀ response, client.outcome left r.payload = .ok response →
        ∃ document, (client.answer c left r).reply = .ok document ∧
          Response.parse document = .ok response) ∧
      (∀ response, client.outcome left r.payload = .error response →
        ∃ e, (client.answer c left r).reply = .error e ∧
          Response.parse (HostCall.document r.space r.operation e) = .ok response)) := by
  refine ⟨Request.parse_document, fun _ h => h.parse_document, fun _ _ => Request.readsBodies,
    fun _ _ => Response.readsBodies, fun client c left r hop =>
      ⟨fun response h => ?_, fun response h => ?_⟩⟩
  · refine ⟨response.document.toBytes, ?_, (hasStatuses_of_outcome (.inl h)).parse_document⟩
    rw [answer_reply hop, h]
    rfl
  · refine ⟨refusal response, ?_, (hasStatuses_of_outcome (.inr h)).parse_document⟩
    rw [answer_reply hop, h]
    rfl

/-- A response with awkward texts is read back, a request without a body has an empty one, and a call
without a document is told of its failure. -/
theorem awkward_documents_round_trip :
    let response : Response := { status := ⟨500, "\"\x7d,\\\n𝄞"⟩
                                 headers := Dictionary.empty.insert "é\"" "\x00, "
                                 body := Bytes.ofList [0, 255] }
    let r : HostRequest := { space := space, operation := operation, key := ""
                             payload := ByteArray.empty }
    Response.parse response.document.toBytes = .ok response ∧
      (∃ request, Request.parse (Json.record [("url", .text "http://a/")]).toBytes = .ok request ∧
        request.body = ByteArray.empty) ∧
      ∃ e, ((default : HttpClient).answer default 0 r).reply = .error e ∧
        Response.parse (HostCall.document r.space r.operation e) = .ok
          (badRequest "Unable to parse request - EOF while parsing a value at line 1 column 0") := by
  obtain ⟨-, hresponse, hrequest, -, hcall⟩ := documents_round_trip
  refine ⟨hresponse _ ⟨by decide, by decide⟩, ?_, (hcall _ _ _ _ rfl).2 _ ?_⟩
  · have hfield : ∀ field ∈ [("url", Json.text "http://a/")] ++ [], Request.IsField field := by
      simp only [List.append_nil, List.mem_singleton]
      rintro field rfl
      exact .url _
    have hreads := hrequest [("url", .text "http://a/")] [] (by decide) hfield
    obtain ⟨request, hparse⟩ := hreads.plain.mpr (by decide)
    exact ⟨request, hparse, hreads.absent request hparse⟩
  · cbv

end HttpClient
end FunctionHost

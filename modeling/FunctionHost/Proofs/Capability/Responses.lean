import Mathlib
import FunctionHost.Proofs.Capability.Outcome

/-!
# Answers that are passed on

How a request is sent and how an answer comes in is not the client's own, so it may be anything: over a
secured connection or not, from whom the request is sent to or from whom that one sends it on to.  A
call that gets an answer (`HttpClient.GetsAnswer`) which comes in completely passes it on without loss
and without excess (`HttpClient.PassesOn`): it succeeds if and only if the body is not larger than it
may be, and then the guest gets the status, the body and, under each name, all values of headers that
can be shown.
-/
namespace FunctionHost

open Http (Request Response Sent Outgoing Incoming Network Upstream)

namespace HttpClient

variable {client : HttpClient} {c : Context} {left : Nat} {r : HostRequest} {payload body : Bytes}
  {answer : Incoming}

/-- **Whether a call gets an answer**: a request can be built of the payload, and the answer comes in
for it. -/
inductive GetsAnswer (client : HttpClient) (left : Nat) (payload : Bytes) (answer : Incoming) : Prop
  | intro {request : Request} {method : String} {u : Url} {sent : Sent}
    (parse : Request.parse payload = .ok request) (target : target request = .ok (method, u))
    (build : request.sent method u = .ok sent)
    (arrives : (client.send client.network
      ⟨method, u, sent, request.insecure, client.limit left⟩).2 = .ok answer)

/-- **Whether a reply passes an answer on** without loss and without excess.

* It succeeds if and only if the body is not larger than it may be.
* Then it tells of success, the status and the body are those of the answer, and under a name in small
  letters there is an entry if and only if a header of that name, in any case, has a value that can be
  shown, and the entry are all such values, in order.
* Otherwise it tells of a failure on the way, without a status, headers or a body. -/
structure PassesOn (answer : Incoming) (body : Bytes) (maxBytes : Nat) (r : HostRequest)
    (reply : Reply) : Prop where
  succeeds : (∃ document, reply = .ok document) ↔ body.size ≤ maxBytes
  success : ∀ document, reply = .ok document → ∃ response,
    Response.parse document = .ok response ∧ response.status.code = 200 ∧
      response.code = answer.status.toNat ∧ response.body = body ∧
      (∀ name, (response.headers.find? name).isSome ↔
        ∃ h ∈ answer.headers, h.1.toLower = name ∧ h.2.all Http.isShown = true) ∧
      ∀ name value, response.headers.find? name = some value →
        value = ", ".intercalate (Http.shownOf answer.headers name)
  refusal : ∀ e, reply = .error e → ∃ response,
    Response.parse (HostCall.document r.space r.operation e) = .ok response ∧
      response.status.code = 500 ∧ response.code = 0 ∧ response.headers = .empty ∧
      response.body = ByteArray.empty

/-- **What comes of a call that gets an answer.** -/
theorem GetsAnswer.outcome (h : GetsAnswer client left payload answer)
    (hcomplete : answer.IsComplete body) :
    client.outcome left payload =
      if body.size ≤ client.settings.maxBodyBytes.toNat then
        .ok { status := ⟨200, "OK"⟩, code := answer.status.toNat
              headers := answer.headers.foldl Http.collect .empty, body := body }
      else .error Http.tooLarge := by
  obtain ⟨hparse, htarget, hsent, harrives⟩ := h
  rw [outcome_of_sent hparse htarget hsent, attempt, harrives]
  exact hcomplete.response _

/-- A call that gets an answer passes it on. -/
theorem GetsAnswer.passesOn (h : GetsAnswer client left r.payload answer)
    (hcomplete : answer.IsComplete body) (hop : r.operation = operation) (c : Context) :
    PassesOn answer body client.settings.maxBodyBytes.toNat r (client.answer c left r).reply := by
  have hout := h.outcome hcomplete
  have hreply : (client.answer c left r).reply = replyOf (client.outcome left r.payload) :=
    answer_reply hop
  by_cases hfits : body.size ≤ client.settings.maxBodyBytes.toNat
  · rw [if_pos hfits] at hout
    rw [hreply, hout, replyOf]
    refine ⟨iff_of_true ⟨_, rfl⟩ hfits, fun document hdocument => ?_, fun e he => nomatch he⟩
    cases hdocument
    refine ⟨_, (hasStatuses_of_outcome (.inl hout)).parse_document, rfl, rfl, rfl, fun name => ?_,
      fun name value hvalue => ?_⟩
    · rw [Http.find?_collected, Http.joined_shownOf_isSome]
    · exact Http.eq_of_joined ((Http.find?_collected _ name).symm.trans hvalue)
  · rw [if_neg hfits] at hout
    rw [hreply, hout, replyOf]
    refine ⟨iff_of_false (fun ⟨_, hdocument⟩ => nomatch hdocument) hfits,
      (fun document hdocument => nomatch hdocument), fun e he => ?_⟩
    cases he
    exact ⟨_, (hasStatuses_of_outcome (.inr hout)).parse_document, rfl, rfl, rfl, rfl⟩

/-- **Answers are passed on without loss and without excess.**

* A call that gets an answer which comes in completely passes it on, however the request was sent and
  the answer came in, whatever its status, its headers and its body are, whether or not its length was
  told before, and whatever size a body may have.
* A machine that talks plainly and sends an answer as it is delivers it, unless it sends the client
  elsewhere. -/
theorem answers_are_passed_on :
    (∀ (client : HttpClient) (c : Context) (left : Nat) (r : HostRequest) (answer : Incoming)
      (body : Bytes), r.operation = operation → GetsAnswer client left r.payload answer →
      answer.IsComplete body →
      PassesOn answer body client.settings.maxBodyBytes.toNat r (client.answer c left r).reply) ∧
    ∀ (network later : Network) (out : Outgoing) (up : Upstream), up.IsPlain out.method →
      (Http.isRedirection up.status = true → ∀ h ∈ up.headers, h.1.toLower ≠ "location") →
      0 < out.limit → out.url.scheme = "http" →
      network.exchange (Network.place out.url) out.sent = (later, some (Bytes.ofList up.wire)) →
      ∃ answer, Network.send network out = (later, .ok answer) ∧ up.ArrivesAs answer :=
  ⟨fun _ c _ _ _ _ hop h hcomplete => h.passesOn hcomplete hop c,
    fun _ _ _ _ hplain hstays htime hscheme hpeer => hplain.send hstays htime hscheme hpeer⟩

/-- Two values that can be shown are joined around one that cannot, whether a machine that talks
plainly sends them or they come in over a secured connection whose certificate nobody vouches for.
With less room for the body the guest is refused. -/
theorem split_header_is_passed_on :
    let up : Upstream := {
      status := 299
      headers := [("X-A", [49]), ("x-a", [255]), ("X-a", [50])]
      body := [0, 255, 10] }
    let plain : HttpClient := { network := [{ place := "a:80", reply := Bytes.ofList up.wire }] }
    let secured (room : UInt64) : HttpClient := {
      settings := { maxBodyBytes := room }
      send := fun network out => (network,
        if out.insecure then .ok ⟨299, up.headers, none, .ok (Bytes.ofList up.body)⟩
        else .error ("error sending request for url (" ++ out.url.render ++ ")")) }
    let call (request : Request) : HostRequest :=
      { space := space, operation := operation, key := "", payload := request.document.toBytes }
    let gets (client : HttpClient) (request : Request) : Prop :=
      ∃ document response, (client.answer default 30000 (call request)).reply = .ok document ∧
        Response.parse document = .ok response ∧ response.code = 299 ∧
        response.body = Bytes.ofList [0, 255, 10] ∧ response.headers.find? "x-a" = some "1, 2"
    gets plain { url := "http://a/" } ∧
    gets (secured 3) { url := "https://a/", insecure := true } ∧
    ∃ e response, ((secured 2).answer default 30000
        (call { url := "https://a/", insecure := true })).reply = .error e ∧
      Response.parse (HostCall.document space operation e) = .ok response ∧
      response.status.code = 500 ∧ response.code = 0 ∧ response.body = ByteArray.empty := by
  intro up plain secured call gets
  obtain ⟨hpasses, hdelivers⟩ := answers_are_passed_on
  -- To a reader the three headers have one name.
  have hlower : ∀ h ∈ up.headers, h.1.toLower = "x-a" := by
    have hnames : "X-A".toLower = "x-a" ∧ "x-a".toLower = "x-a" ∧ "X-a".toLower = "x-a" :=
      ⟨by cbv, by cbv, by cbv⟩
    simp [up, hnames]
  have hshown : Http.shownOf up.headers "x-a" = ["1", "2"] := by cbv
  have hread {client : HttpClient} {request : Request} {answer : Incoming}
      (hgets : GetsAnswer client 30000 (call request).payload answer)
      (hcomplete : answer.IsComplete (Bytes.ofList up.body)) (hstatus : answer.status.toNat = 299)
      (hheaders : Http.shownOf answer.headers "x-a" = ["1", "2"])
      (hroom : 3 ≤ client.settings.maxBodyBytes.toNat) : gets client request := by
    have hpassed := hpasses client default 30000 (call request) answer _ rfl hgets hcomplete
    obtain ⟨document, hdocument⟩ := hpassed.succeeds.mpr hroom
    obtain ⟨response, hresponse, -, hcode, hbody, hentry, hvalue⟩ :=
      hpassed.success document hdocument
    refine ⟨document, response, hdocument, hresponse, hcode.trans hstatus, hbody, ?_⟩
    have hsome : (response.headers.find? "x-a").isSome :=
      (hentry "x-a").mpr (Http.joined_shownOf_isSome.mp (by rw [hheaders]; rfl))
    obtain ⟨value, hfind⟩ := Option.isSome_iff_exists.mp hsome
    rw [hfind, hvalue "x-a" value hfind, hheaders]
    rfl
  let sent : Sent := ⟨"GET / HTTP/1.1",
    [("accept", "*/*"), ("user-agent", "capsule/0.1.0"), ("host", "a")], ByteArray.empty⟩
  have hsecured (room : UInt64) : GetsAnswer (secured room) 30000
      (call { url := "https://a/", insecure := true }).payload
      ⟨299, up.headers, none, .ok (Bytes.ofList up.body)⟩ := by
    let u : Url := { scheme := "https", host := some (.domain "a"), path := "/" }
    have htarget : target { url := "https://a/", insecure := true } = .ok ("GET", u) :=
      target_eq_ok_iff.mpr ⟨by cbv, by cbv, by cbv⟩
    have hbuild : ({ url := "https://a/", insecure := true } : Request).sent "GET" u = .ok sent := by
      cbv
    exact .intro (Request.parse_document _) htarget hbuild rfl
  have hcomplete : Incoming.IsComplete ⟨299, up.headers, none, .ok (Bytes.ofList up.body)⟩
      (Bytes.ofList up.body) := ⟨rfl, fun _ h => absurd h (Option.not_mem_none _)⟩
  refine ⟨?_, hread (hsecured 3) hcomplete rfl hshown (by decide), ?_⟩
  · let u : Url := { scheme := "http", host := some (.domain "a"), path := "/" }
    have htarget : target { url := "http://a/" } = .ok ("GET", u) :=
      target_eq_ok_iff.mpr ⟨by cbv, by cbv, by cbv⟩
    have hbuild : ({ url := "http://a/" } : Request).sent "GET" u = .ok sent := by cbv
    have hheaders : ∀ h ∈ up.headers,
        Http.isHeaderName h.1.toUTF8.toList = true ∧ Http.IsValue h.2 := by
      simp only [up, List.mem_cons, List.not_mem_nil, or_false]
      rintro h (rfl | rfl | rfl) <;> exact ⟨by cbv, by decide, by decide⟩
    have hplain : up.IsPlain "GET" := by
      refine ⟨by decide, hheaders, by decide, fun h hm => ?_, fun h hm hname => ?_, by decide,
        fun h => ?_⟩
      · rw [hlower h hm]
        decide
      · rw [hlower h hm] at hname
        exact absurd hname (by decide)
      · simp [Upstream.IsBodiless, up] at h
    have hplace : Network.place u = "a:80" := by cbv
    have hpeer : plain.network.exchange (Network.place u) sent = ([⟨"a:80", Bytes.ofList up.wire,
        some sent⟩], some (Bytes.ofList up.wire)) := by
      rw [hplace]
      rfl
    obtain ⟨answer, hsend, hstatus, hheaders, hcomplete⟩ := hdelivers plain.network _
      ⟨"GET", u, sent, false, plain.limit 30000⟩ up hplain (fun h => absurd h (by decide))
      (by decide) rfl hpeer
    have hgets : GetsAnswer plain 30000 (call { url := "http://a/" }).payload answer :=
      .intro (Request.parse_document _) htarget hbuild (congrArg Prod.snd hsend)
    refine hread hgets hcomplete hstatus ?_ (by decide)
    rw [hheaders]
    cbv
  · have hpassed := hpasses (secured 2) default 30000
      (call { url := "https://a/", insecure := true }) _ _ rfl (hsecured 2) hcomplete
    cases hreply : ((secured 2).answer default 30000
        (call { url := "https://a/", insecure := true })).reply with
    | ok document => exact absurd (hpassed.succeeds.mp ⟨document, hreply⟩) (by decide)
    | error e =>
      obtain ⟨response, hresponse, hcode, hnone, -, hbody⟩ := hpassed.refusal e hreply
      exact ⟨e, response, rfl, hresponse, hcode, hnone, hbody⟩

end HttpClient
end FunctionHost

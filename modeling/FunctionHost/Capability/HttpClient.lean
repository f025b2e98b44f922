import FunctionHost.Callback
import FunctionHost.Document.Shape
import FunctionHost.Http.Exchange
import FunctionHost.Json.Reader
import FunctionHost.Settings.File
/-!
# Requests over HTTP

Guests have requests made for them: a request document goes in, a response document comes out.  An
attempt that fails is answered by a document, too, whose status says whether the request itself was
bad or something went wrong on the way.
-/
namespace FunctionHost

open Http (Request Response Network Transport)

/-- **A client of HTTP.** -/
structure HttpClient where
  /-- Its settings. -/
  settings : HttpSettings := {}
  /-- The machines that it can reach. -/
  network : Network := []
  /-- How it has requests sent. -/
  send : Transport := Network.send

instance : Inhabited HttpClient := ⟨{}⟩

namespace HttpClient

/-- The namespace under which guests find the client. -/
def space : String := "httpclient"

/-- The operation. -/
def operation : String := "call"

/-- The client, as diagnostics show it. -/
def shown (client : HttpClient) : String :=
  let seconds := client.settings.timeoutSecs.toNat
  Text.openRecord "HttpClientCapability" [
    ("timeout", if seconds = 0 then "0ns" else toString seconds ++ "s"),
    ("max_body_bytes", toString client.settings.maxBodyBytes.toNat)]

/-- An event about requests. -/
def event (level : Level) (message : String) (fields : List (String × FieldValue)) : Event :=
  { target := "capsule_host::http", level := level, message := message, fields := fields }

/-- The response to a request that is bad in itself. -/
def badRequest (text : String) : Response := .failure 400 text

/-- **What a request asks for**: its method in capitals and its address. -/
def target (r : Request) : Except Response (String × Url) :=
  let method := r.method.toUpper
  if !Http.isName (Bytes.ofText method).toList then
    .error (badRequest ("Invalid HTTP method " ++ r.method))
  else
    match Url.parse r.url with
    | .error fault =>
      .error (badRequest ("Invalid URL " ++ r.url ++ ": " ++ fault.message))
    | .ok u => .ok (method, u)

/-- What a step of the client is: the client afterwards, what it reports, and what comes of it. -/
abbrev Outcome := HttpClient × List Event × Except Response Response

/-- The end of an attempt that failed, for a reason. -/
def failed (client : HttpClient) (events : List Event) (u : Url) (reason : String) : Outcome :=
  let e := event .warn "HTTP request failed" [("url", .text u.render), ("error", .text reason)]
  (client, events ++ [e], .error (.failure 500 ("Unable to execute HTTP request - " ++ reason)))

/-- Milliseconds that an attempt may take, if so many are left. -/
def limit (client : HttpClient) (left : Nat) : Nat :=
  min left (client.settings.timeoutSecs.toNat * 1000)

/-- **Makes a request**, given how many milliseconds are left for it. -/
def perform (client : HttpClient) (c : Context) (left : Nat) (r : Request) : Outcome :=
  match target r with
  | .error response => (client, [], .error response)
  | .ok (method, u) =>
    let events := [event .debug "Executing HTTP request" [
      ("request_id", .text c.request.shown), ("method", .text method), ("url", .text u.render),
      ("insecure", .flag r.insecure)]]
    match r.sent method u with
    | .error fault => client.failed events u fault.message
    | .ok sent =>
      let (network, result) :=
        client.send client.network ⟨method, u, sent, r.insecure, client.limit left⟩
      let client := { client with network := network }
      match result with
      | .error reason => client.failed events u reason
      | .ok answer =>
        match answer.response client.settings.maxBodyBytes.toNat with
        | .error response => (client, events, .error response)
        | .ok response =>
          let e := event .info "HTTP request completed" [
            ("url", .text u.render), ("status", .number response.code),
            ("body_size", .number response.body.size)]
          (client, events ++ [e], .ok response)

/-- A response as an error that brings its own document. -/
def refusal (response : Response) : CallbackError :=
  .failed response.status.text (some response.document.toBytes)

/-- **Answers a host call**, given how many milliseconds are left for it. -/
def answer (client : HttpClient) (c : Context) (left : Nat) (r : HostRequest) :
    Answer HttpClient :=
  if r.operation ≠ operation then
    { state := client, reply := .error (.unknownOperation space r.operation) }
  else
    match Json.read Request.shape r.payload.toList with
    | .error reason =>
      { state := client
        reply := .error (refusal (badRequest ("Unable to parse request - " ++ reason))) }
    | .ok document =>
      let (client, events, outcome) := client.perform c left (Request.ofDocument document)
      { state := client
        reply := match outcome with
          | .ok response => .ok response.document.toBytes
          | .error response => .error (refusal response)
        events := events }

/-- The capability.  A host call is only asked for while its context is open, and an exchange takes
no time of the host's clock, so only the client's own limit counts. -/
def callback : Callback HttpClient := fun c r client =>
  client.answer c (client.settings.timeoutSecs.toNat * 1000) r

end HttpClient
end FunctionHost

import FunctionHost.Http.Document
import FunctionHost.Http.Message
import FunctionHost.Http.Url
import FunctionHost.Text.Utf8
/-!
# Exchanges

From a request that a guest wants to have made to what is sent, and from what comes back to the
response that the guest gets.  What can be wrong with a request is found before anything is sent,
except for its scheme and its headers, which count as a failed attempt.

What lies between is not the client's own: connections, certificates and the answers that send it
elsewhere.  All that is a function from what goes out to what comes in (`Transport`).  The last
section has one, which asks machines that talk plainly and take one connection each.
-/
namespace FunctionHost
namespace Http

/-! ## What is sent -/

/-- Why an attempt failed. -/
inductive ExchangeFault where
  /-- No request can be built, because of a header, or else because of the address. -/
  | unbuilt (url : Option String)
  /-- Nothing that is an answer came back. -/
  | unanswered (url : String)
  /-- The body of the answer is not all there. -/
  | body
  deriving DecidableEq, Repr

/-- The wording of the fault. -/
def ExchangeFault.message : ExchangeFault → String
  | .unbuilt none => "builder error"
  | .unbuilt (some url) => "builder error for url (" ++ url ++ ")"
  | .unanswered url => "error sending request for url (" ++ url ++ ")"
  | .body => "error decoding response body"

/-- How the host calls itself. -/
def agent : String := "capsule/0.1.0"

/-- The name and the password that an address holds, as texts; none if they are no texts. -/
def credentials? (u : Url) : Option (String × Option String) :=
  let read (text : String) : Option String := Utf8.decode? (Percent.decode text)
  match read u.user, u.password.bind read with
  | some user, password => if user = "" ∧ password.isNone then none else some (user, password)
  | none, _ => none

/-- The address without the name and the password that it is asked with. -/
def bare (u : Url) : Url :=
  if (credentials? u).isSome then { u with user := "", password := none } else u

/-- The header that tells a peer who asks. -/
def authorization (u : Url) : List (String × String) :=
  match credentials? u with
  | none => []
  | some (user, password) =>
    let text := user ++ ":" ++ password.getD ""
    [("authorization", "Basic " ++ Base64.encode (Bytes.ofText text))]

/-- Whether a header can be sent. -/
def isSendable (header : String × String) : Bool :=
  isHeaderName (Bytes.ofText header.1).toList && (Bytes.ofText header.2).toList.all isValueByte

/-- Headers with another one, unless they have it. -/
def withDefault (name value : String) (headers : List (String × String)) :
    List (String × String) :=
  if headers.any (·.1 = name) then headers else headers ++ [(name, value)]

/-- Characters of a host that no request can name. -/
def isUnsendable (c : Char) : Bool := "\"`\x7b\x7d".contains c

/-- Bytes that an address may have. -/
def maxUrlBytes : Nat := 65534

/-- **What is sent** for a request to an address. -/
def Request.sent (r : Request) (method : String) (u : Url) : Except ExchangeFault Sent :=
  let text := (bare u).render
  if !r.headers.entries.all isSendable then .error (.unbuilt none)
  else if ¬(u.scheme = "http" ∨ u.scheme = "https") then .error (.unbuilt (some text))
  else if u.hostText.any isUnsendable ∨ maxUrlBytes < text.utf8ByteSize then
    .error (.unbuilt (some text))
  else
    let given := r.headers.entries.map fun (name, value) => (name.toLower, value)
    let headers := authorization u ++ given
    let headers := withDefault "accept" "*/*" headers
    let headers := withDefault "user-agent" agent headers
    let headers := withDefault "host" u.hostText headers
    let headers :=
      if r.body.isEmpty then headers
      else withDefault "content-length" (toString r.body.size) headers
    let target := if method = "CONNECT" then u.hostText else u.target
    .ok { line := method ++ " " ++ target ++ " HTTP/1.1", headers := headers, body := r.body }

/-- **A request on its way**: what is sent, and how. -/
structure Outgoing where
  /-- The method. -/
  method : String
  /-- The address. -/
  url : Url
  /-- What is sent. -/
  sent : Sent
  /-- Whether the peer's certificate may be anything. -/
  insecure : Bool
  /-- Milliseconds until the answer has to be there. -/
  limit : Nat
  deriving Inhabited

/-! ## What comes back -/

/-- **An answer as it comes in**, from whoever gave it in the end. -/
structure Incoming where
  /-- The status. -/
  status : UInt16
  /-- The headers, in their order. -/
  headers : List (String × List UInt8)
  /-- The length of the body, if that is told before it is there. -/
  told : Option Nat
  /-- The body, or why it is not there. -/
  body : Except String Bytes
  deriving Inhabited

/-- The headers with another one: a value that is no text is left out, others of one name in small
letters are joined. -/
def collect (all : Headers) (header : String × List UInt8) : Headers :=
  if !header.2.all isShown then all
  else
    let name := header.1.toLower
    let text := asciiText header.2
    match all.find? name with
    | some before => all.insert name (before ++ ", " ++ text)
    | none => all.insert name text

/-- The refusal of an answer that is too large. -/
def tooLarge : Response := .failure 500 "Response body too large"

/-- **What the guest gets** of an answer, if a body may have so many bytes. -/
def Incoming.response (answer : Incoming) (maxBytes : Nat) : Except Response Response :=
  if answer.told.any (maxBytes < ·) then .error tooLarge
  else
    match answer.body with
    | .error reason => .error (.failure 500 ("Unable to read HTTP response body - " ++ reason))
    | .ok body =>
      if maxBytes < body.size then .error tooLarge
      else .ok {
        status := ⟨200, "OK"⟩
        code := answer.status.toNat
        headers := answer.headers.foldl collect .empty
        body := body }

/-! ## Machines that talk plainly -/

/-- A machine that waits for one connection. -/
structure Peer where
  /-- Its host and its port. -/
  place : String
  /-- The bytes that it answers with, whatever it is sent. -/
  reply : Bytes
  /-- What it was sent. -/
  received : Option Sent := none
  deriving Inhabited

/-- **The machines that can be reached.** -/
abbrev Network := List Peer

/-- **How requests are sent** and answers come back: the machines afterwards, and an answer or the
wording of what went wrong. -/
abbrev Transport := Network → Outgoing → Network × Except String Incoming

/-- Whether a status sends the client elsewhere. -/
def isRedirection (status : Nat) : Bool := [301, 302, 303, 307, 308].contains status

/-- Whether an address can be asked for, whatever its scheme. -/
def isAskable (u : Url) : Bool :=
  match u.host with
  | some host => host.render ≠ ""
  | none =>
    let end_ := ((u.scheme ++ ":" ++ u.path).splitOn "@").getLastD ""
    u.query.isNone && !u.path.contains '/' && (end_.toList.count ':' ≤ 1)

/-- **Where an answer sends the client**, if it does. -/
def Head.redirection? (h : Head) (u : Url) : Option Url :=
  if !isRedirection h.status then none
  else
    match (h.values "location").head?.bind (fun l => Utf8.decode? (Bytes.ofList l)) with
    | none => none
    | some location =>
      match u.resolve location with
      | .ok next => if isAskable next then some { next with fragment := none } else none
      | .error _ => none

/-- Answers before the one that counts, at most. -/
def maxAnnouncements : Nat := 1000

/-- **The answer that bytes hold**, or why there is none.  Whoever is sent elsewhere finds nobody, for
the one connection is used up. -/
def received (method : String) (u : Url) (bytes : Bytes) : Except ExchangeFault Incoming :=
  let unanswered := ExchangeFault.unanswered (bare u).render
  match answer? method maxAnnouncements bytes.toList with
  | none => .error unanswered
  | some (head, framing, rest) =>
    match head.redirection? (bare u) with
    | some next =>
      if next.scheme = "http" ∨ next.scheme = "https" then .error unanswered
      else .error (.unbuilt (some next.render))
    | none => .ok {
        status := UInt16.ofNat head.status
        headers := head.headers
        told := match framing with
          | .sized length => some length
          | .chunked | .untilEnd => none
        body := match body? rest framing with
          | some body => .ok (Bytes.ofList body)
          | none => .error ExchangeFault.body.message }

namespace Network

/-- Gives what is sent to whoever waits at a place: the bytes that come back, if somebody does. -/
def exchange : Network → String → Sent → Network × Option Bytes
  | [], _, _ => ([], none)
  | peer :: rest, place, sent =>
    if peer.place = place ∧ peer.received.isNone then
      ({ peer with received := some sent } :: rest, some peer.reply)
    else
      let (rest, reply) := exchange rest place sent
      (peer :: rest, reply)

/-- Where a request is sent. -/
def place (u : Url) : String := u.hostText ++ if u.port.isSome then "" else ":80"

/-- **Sends a request** to a machine that talks plainly. -/
def send : Transport := fun network out =>
  let unanswered := ExchangeFault.unanswered (bare out.url).render
  if out.limit = 0 ∨ out.url.scheme ≠ "http" then (network, .error unanswered.message)
  else
    let (network, reply) := network.exchange (place out.url) out.sent
    match reply.map (received out.method out.url) with
    | none => (network, .error unanswered.message)
    | some (.error fault) => (network, .error fault.message)
    | some (.ok answer) => (network, .ok answer)

end Network

end Http
end FunctionHost

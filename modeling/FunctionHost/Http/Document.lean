import FunctionHost.Dictionary
import FunctionHost.Document.Shape
import FunctionHost.Http.Base64
/-!
# Documents of HTTP exchanges

What a guest sends to have a request made, and what it gets back.  Bodies are base64; headers are
texts by name.  A response says first how the attempt itself went and then what the peer answered.
-/
namespace FunctionHost
namespace Http

/-- Headers by name. -/
abbrev Headers := Dictionary String

/-- The headers as a document. -/
def headersDocument (h : Headers) : Json :=
  .record (h.entries.map fun (name, value) => (name, .text value))

/-- The headers that a document holds; of several with one name the last counts. -/
def headersOf (d : Json) : Headers :=
  d.asMembers.foldl (fun h (name, value) => h.insert name value.asText) .empty

/-- What a body looks like: base64, or nothing. -/
def bodyShape : Shape :=
  .checkedText fun text =>
    match Base64.decode text with
    | .ok _ => none
    | .error problem => some problem.message

/-- The bytes of a body. -/
def bodyOf (d : Json) : Bytes :=
  match Base64.decode d.asText with
  | .ok bytes => bytes
  | .error _ => ByteArray.empty

/-- **A request to be made.** -/
structure Request where
  /-- The method. -/
  method : String := "GET"
  /-- The address. -/
  url : String
  /-- The headers. -/
  headers : Headers := .empty
  /-- Whether the peer's certificate may be anything. -/
  insecure : Bool := false
  /-- The body. -/
  body : Bytes := ByteArray.empty
  deriving Inhabited

namespace Request

/-- The request as a document. -/
def document (r : Request) : Json := .record [
  ("method", .text r.method),
  ("url", .text r.url),
  ("headers", headersDocument r.headers),
  ("insecure", .bool r.insecure),
  ("body", .text (Base64.encode r.body))]

/-- What a document of a request looks like. -/
def shape : Shape :=
  .record "HttpClientRequest" [
    ("method", .text, some (.text "GET")),
    ("url", .text, none),
    ("headers", .textMap, some (.record [])),
    ("insecure", .flag, some (.bool false)),
    ("body", bodyShape, some (.text ""))]

/-- The request that a document of its shape holds. -/
def ofDocument (d : Json) : Request where
  method := (d.child "method").asText
  url := (d.child "url").asText
  headers := headersOf (d.child "headers")
  insecure := (d.child "insecure").asFlag
  body := bodyOf (d.child "body")

end Request

/-- How an attempt to make a request went. -/
structure Status where
  /-- 200, or the kind of failure. -/
  code : Nat := 0
  /-- In words. -/
  text : String := ""
  deriving DecidableEq, Repr, Inhabited

/-- **What comes back.** -/
structure Response where
  /-- How the attempt went. -/
  status : Status := {}
  /-- The status of the peer's answer; zero if there was none. -/
  code : Nat := 0
  /-- The headers of the answer. -/
  headers : Headers := .empty
  /-- The body of the answer. -/
  body : Bytes := ByteArray.empty
  deriving Inhabited

namespace Response

/-- The response as a document. -/
def document (r : Response) : Json := .record [
  ("status", .record [("code", .nat r.status.code), ("status", .text r.status.text)]),
  ("code", .nat r.code),
  ("headers", headersDocument r.headers),
  ("body", .text (Base64.encode r.body))]

/-- What a document of a response looks like. -/
def shape : Shape :=
  .record "HttpClientResponse" [
    ("status", .record "CallStatus" [("code", .u16, none), ("status", .text, none)], none),
    ("code", .u16, none),
    ("headers", .textMap, some (.record [])),
    ("body", bodyShape, some (.text ""))]

/-- The response that a document of its shape holds. -/
def ofDocument (d : Json) : Response where
  status := ⟨((d.child "status").child "code").asNat, ((d.child "status").child "status").asText⟩
  code := (d.child "code").asNat
  headers := headersOf (d.child "headers")
  body := bodyOf (d.child "body")

/-- A failed attempt. -/
def failure (code : Nat) (text : String) : Response := { status := ⟨code, text⟩ }

end Response
end Http
end FunctionHost

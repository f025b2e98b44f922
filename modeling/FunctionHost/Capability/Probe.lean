import FunctionHost.Callback
import FunctionHost.Text.Utf8
/-!
# The probe

A capability to try out guests with: its operations provoke every kind of outcome, let time and
epochs pass, and describe the context in which they were asked.  It remembers what it was asked.
-/
namespace FunctionHost

/-- **A probe.** -/
structure Probe where
  /-- How many calls of `admit` still succeed. -/
  admissions : Nat := 0
  /-- What was asked, the last one first. -/
  seen : List String := []
  deriving DecidableEq, Repr, Inhabited

namespace Probe

/-- The namespace under which guests find the probe. -/
def space : String := "test"

/-- The number that a key spells in decimal, if it is one of 64 bits; zero otherwise. -/
def number (key : String) : Nat :=
  let digits := match key.toList with
    | '+' :: rest => rest
    | digits => digits
  if digits.isEmpty || !digits.all Char.isDigit then 0
  else
    let value := digits.foldl (fun acc c => 10 * acc + (c.toNat - 48)) 0
    if value < UInt64.size then value else 0

/-- The context of a request in one line; `-` stands for what is missing or made up. -/
def describe (c : Context) (key : String) : String :=
  let request := if c.entrypoint = some "_initialize" then "-" else c.request.shown
  "/".intercalate [c.module.getD "-", c.entrypoint.getD "-", request, key]

/-- The capability. -/
def callback : Callback Probe := fun c r probe =>
  let probe := { probe with seen := (r.operation ++ ":" ++ r.key) :: probe.seen }
  match r.operation with
  | "echo" => { state := probe, reply := .ok r.payload }
  | "empty" => { state := probe, reply := .ok ByteArray.empty }
  | "describe" => { state := probe, reply := .ok (Bytes.ofText (describe c r.key)) }
  | "big" => { state := probe, reply := .ok (Bytes.replicate (number r.key) 0x5a) }
  | "sleep" => { state := probe, reply := .ok r.payload, delay := number r.key }
  | "admit" =>
    if probe.admissions = 0 then
      { state := probe, reply := .error (.failure "no more instances admitted") }
    else
      { state := { probe with admissions := probe.admissions - 1 }, reply := .ok ByteArray.empty }
  | "tick" => { state := probe, reply := .ok r.payload, ticks := number r.key }
  | "fail" => { state := probe, reply := .error (.failure (Utf8.decodeLossy r.payload)) }
  | "fail_doc" => { state := probe, reply := .error (.failed "probe failure" (some r.payload)) }
  | "not_found" => { state := probe, reply := .error (.notFound r.key) }
  | "invalid" =>
    { state := probe, reply := .error (.invalidArgument (Utf8.decodeLossy r.payload)) }
  | other => { state := probe, reply := .error (.unknownOperation space other) }

end Probe

/-- **A recorder**: it answers every request with its diagnostic text, except that the key `fail`
fails with the payload as the message. -/
structure Recorder where
  /-- What was asked, the last one first. -/
  seen : List String := []
  deriving DecidableEq, Repr, Inhabited

namespace Recorder

/-- The recorder, as diagnostics show it. -/
def shown : String := Text.openRecord "FnCallback" []

/-- What a recorder remembers of a request. -/
def trace (r : HostRequest) : String := r.space ++ "/" ++ r.operation ++ ":" ++ r.key

/-- The recorder as a callback for all namespaces. -/
def callback : Callback Recorder := fun _ r recorder =>
  { state := ⟨trace r :: recorder.seen⟩
    reply :=
      if r.key = "fail" then .error (.failure (Utf8.decodeLossy r.payload))
      else .ok (Bytes.ofText r.shown) }

end Recorder
end FunctionHost

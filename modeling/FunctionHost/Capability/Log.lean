import FunctionHost.Callback
import FunctionHost.Text.Utf8
/-!
# The log capability

Guests write to the journal of the host.  The operation is the level, the payload the message;
the event says which request wrote it.
-/
namespace FunctionHost
namespace Log

/-- The namespace under which guests find the log. -/
def space : String := "logger"

/-- The level that an operation stands for. -/
def level? : String → Option Level
  | "error" => some .error
  | "warn" => some .warn
  | "info" => some .info
  | "debug" => some .debug
  | "trace" => some .trace
  | _ => none

/-- What a guest writes, as an event. -/
def entry (c : Context) (level : Level) (message : String) : Event :=
  { target := "capsule_host::logging"
    level := level
    message := message
    fields := [("request_id", .text c.request.shown), ("module", .text (c.module.getD "")),
      ("entrypoint", .text (c.entrypoint.getD "")), ("guest_log", .flag true)]
    fromGuest := true }

/-- The capability; it has nothing to remember. -/
def callback : Callback Unit := fun c r _ =>
  match level? r.operation with
  | none => { state := (), reply := .error (.unknownOperation space r.operation) }
  | some level =>
    { state := ()
      reply := .ok ByteArray.empty
      events := [entry c level (Utf8.decodeLossy r.payload)] }

end Log
end FunctionHost

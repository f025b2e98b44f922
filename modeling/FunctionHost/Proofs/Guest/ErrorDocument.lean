import FunctionHost.Guest.HostCall
import FunctionHost.Proofs.Json.Parsing

/-!
# Documents of errors

The namespace, the operation and most of the wording of an error come from guests, and all of them
end up inside the document that tells a guest of it.  None of them can break it: whoever parses the
document finds the cause of the error, its wording, the namespace and the operation, as they are, and
nothing else (`HostCall.document_is_faithful`).  A handler's own document is handed on untouched.
-/
namespace FunctionHost
namespace HostCall

variable {space operation : String} {e : CallbackError}

/-- There are no numbers in a document for an error. -/
theorem isExact_generic (space operation : String) (e : CallbackError) :
    (generic space operation e).IsExact :=
  ⟨⟨trivial, trivial, trivial⟩, trivial, trivial, trivial⟩

theorem document_of_payload {payload : Bytes} (h : e.payload = some payload) :
    document space operation e = payload := by
  rw [document, h]

theorem document_of_none (h : e.payload = none) :
    document space operation e = (generic space operation e).toBytes := by
  rw [document, h]

/-- Two documents for errors are alike if and only if they say the same. -/
theorem generic_inj {space' operation' : String} {e' : CallbackError} :
    generic space operation e = generic space' operation' e' ↔
      e.kind = e'.kind ∧ e.message = e'.message ∧ space = space' ∧ operation = operation' := by
  simp [generic, and_assoc]

/-- **The document that tells a guest of an error cannot be broken by what it contains.**  Whatever
characters there are in the namespace, in the operation and in the error: if the error brings a
document of its own, it is that document.  Otherwise it is a text, and parsing it gives one object
with the cause of the error, its wording, the namespace and the operation, each as it is, and no
other members; so two such documents are alike if and only if all four are. -/
theorem document_is_faithful (space operation : String) (e : CallbackError) :
    (∀ payload, e.payload = some payload → document space operation e = payload) ∧
    (e.payload = none →
      (∃ text, Utf8.decode? (document space operation e) = some text) ∧
      Json.parse (document space operation e) = some (.record [
        ("error", .record [("kind", .text e.kind), ("message", .text e.message)]),
        ("namespace", .text space),
        ("operation", .text operation)]) ∧
      ∀ (space' operation' : String) (e' : CallbackError), e'.payload = none →
        (document space operation e = document space' operation' e' ↔
          e.kind = e'.kind ∧ e.message = e'.message ∧ space = space' ∧ operation = operation')) := by
  refine ⟨fun payload => document_of_payload, fun h => ?_⟩
  rw [document_of_none h]
  refine ⟨Json.decode?_toBytes _, Json.parse_toBytes (isExact_generic ..),
    fun space' operation' e' h' => ?_⟩
  rw [document_of_none h', Json.toBytes_inj (isExact_generic ..) (isExact_generic ..)]
  exact generic_inj

/-- A guest that asks for a key which looks like the end of a document is told of just that key. -/
theorem awkward_key_is_told :
    let e := CallbackError.notFound "\"\x7d,\"\\\n\x01𝄞"
    let document := document "kv\"store" "get\\" e
    Json.parse document = some (.record [
      ("error", .record [("kind", .text "not_found"),
        ("message", .text "Key not found: \"\x7d,\"\\\n\x01𝄞")]),
      ("namespace", .text "kv\"store"),
      ("operation", .text "get\\")]) ∧
    document ≠ HostCall.document "kv\"store" "get\\"
      (.failure "Key not found: \"\x7d,\"\\\n\x01𝄞") := by
  intro e document
  obtain ⟨-, hparse, hsame⟩ := (document_is_faithful "kv\"store" "get\\" e).2 rfl
  refine ⟨hparse, fun h => ?_⟩
  have hkind : "not_found" = "failed" := ((hsame _ _ _ rfl).mp h).1
  exact absurd hkind (by decide)

end HostCall
end FunctionHost

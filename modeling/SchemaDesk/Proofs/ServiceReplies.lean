import SchemaDesk.Formatting.Service
import SchemaDesk.Proofs.ChatOutcomes
import SchemaDesk.Proofs.DocumentTexts
import SchemaDesk.Proofs.LineEdges
import SchemaDesk.Proofs.ObjectMembers

/-!
# Replies of the format service

A document is posted to a service once, as a text that is read as the same document again. The
result is the formatted text exactly if the reply was granted with one; a refusal blames the
document by its status, and every other reply means that there is no service. Nothing else comes
of it, except for an address that is none, a fault that is none of input and output, and a body
that is nested too deeply.
-/

namespace SchemaDesk

namespace Json

/-! ## White space -/

end Json

namespace FormatService

/-! ## Requests -/

/-- A body is the text of an object, and the last value under the name of formatted texts is
a string with this text. A surrogate alone stands in it as the replacement character. -/
def Holds (octets : List UInt8) (t : Text) : Prop :=
  ∃ members s, Json.HasMembers (Text.Utf8.decodeLossy octets) members ∧
    Fields.last? members "formattedSchema" = some (.str s) ∧ s.text = t

/-- A granted body that holds a formatted text. -/
def Brings (reply : HttpReply) (t : Text) : Prop :=
  ∃ octets, reply = .granted octets ∧ Holds octets t

/-- The document was refused for what it is. -/
def Refuses (reply : HttpReply) : Prop :=
  ∃ status body, reply = .refused status body ∧ 400 ≤ status ∧ status ≤ 499

/-- A reply that comes to no result: a fault that is none of input and output, or a body that
is nested too deeply. -/
inductive Escapes : HttpReply → Prop
  | fault {fault : Fault} (hio : fault.kind.isIo = false) : Escapes (.failed fault)
  | granted {octets : List UInt8} {e : NestingError}
      (hparse : Json.parse (Text.Utf8.decodeLossy octets) = .error (.nesting e)) :
      Escapes (.granted octets)
  | refused {status : Int} {octets : List UInt8} {e : NestingError}
      (hparse : Json.parse (Text.Utf8.decodeLossy octets) = .error (.nesting e)) :
      Escapes (.refused status (some octets))

/-- What a result says of the reply that it is made from. -/
structure Classifies (reply : HttpReply) (result : FormatResult) : Prop where
  formatted_iff : ∀ t, (result.ok = true ∧ result.text = t) ↔ Brings reply t
  invalidInput_iff : result.ok = false →
    (result.errorKind = "invalid_input".toList ↔ Refuses reply)
  unavailable : result.ok = false → ¬Refuses reply →
    result.errorKind = "unavailable".toList

/-- A failed result tells what the reply was by its kind. -/
theorem Classifies.of_failed {reply : HttpReply} {result : FormatResult} (kind : FormatErrorKind)
    (hnone : ∀ t, ¬Brings reply t) (hok : result.ok = false) (hkind : result.errorKind = kind.name)
    (hrefuses : kind = .invalidInput ↔ Refuses reply) : Classifies reply result where
  formatted_iff t := by simp [hok, hnone t]
  invalidInput_iff _ := by
    rw [hkind, ← hrefuses]
    cases kind <;> decide
  unavailable _ hnot := by
    rw [hkind]
    cases kind with
    | invalidInput => exact absurd (hrefuses.mp rfl) hnot
    | unavailable => rfl

end FormatService

end SchemaDesk

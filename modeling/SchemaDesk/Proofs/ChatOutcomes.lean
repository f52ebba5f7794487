import SchemaDesk.Assistant.Chat
import SchemaDesk.Proofs.TextForms

/-!
# Outcomes of chat requests

Whatever a chat endpoint answers, a request with strings for prompts ends in a result, and the
result is a completion exactly if the endpoint granted a document with one. Three things
end in no result: a base address that is none, a fault of the surroundings that is none of
the connection, and a body that is nested too deeply.
-/

namespace SchemaDesk

namespace ChatRequest

/-- The prompts are strings and the numbers are numbers, the seconds finitely many. -/
structure IsPlain (request : ChatRequest) : Prop where
  systemPrompt : ∃ s, request.systemPrompt = .str s
  userPrompt : ∃ s, request.userPrompt = .str s
  maxTokens : ∃ i, request.maxTokens = .int i
  timeout : ∃ negative mantissa power canonical,
    request.timeout = .float (.finite negative mantissa power canonical)
  temperature : ∃ x, request.temperature = .float x

end ChatRequest

namespace Chat

/-- What is sent for a plain request hangs on its address alone. -/
theorem prepare_cases {request : ChatRequest} (hplain : request.IsPlain) (url apiKey model : Text) :
    (∃ e, Url.parse url = .error e ∧ prepare request url apiKey model = .error (.address e)) ∨
      ∃ address prepared, Url.parse url = .ok address ∧
        prepare request url apiKey model = .ok prepared := by
  obtain ⟨i, hi⟩ := hplain.maxTokens
  obtain ⟨negative, mantissa, power, canonical, htimeout⟩ := hplain.timeout
  obtain ⟨x, hx⟩ := hplain.temperature
  have htokens : ∃ tokens, (request.maxTokens.orElse (.int 100)).toWhole = .ok tokens := by
    rw [hi, Json.orElse]
    split <;> exact ⟨_, rfl⟩
  have hseconds : ∃ seconds,
      (request.timeout.orElse (.float (.ofRatio false 10 1))).toFloat = .ok seconds := by
    rw [htimeout, Json.orElse]
    split <;> exact ⟨_, rfl⟩
  obtain ⟨tokens, htokens⟩ := htokens
  obtain ⟨seconds, hseconds⟩ := hseconds
  have hwarm : request.temperature.toFloat = .ok x := by
    rw [hx, Json.toFloat]
  unfold prepare
  rw [hwarm, htokens, hseconds]
  cases hurl : Url.parse url with
  | error e => exact Or.inl ⟨e, rfl, rfl⟩
  | ok address => exact Or.inr ⟨address, _, rfl, rfl⟩

/-! ## Replies -/

/-- The content of the first choice of a reply: that of its message, or its own text where
its message is no object. -/
inductive FirstContent (reply : Fields) : CodeText → Prop
  | ofMessage {choice message : Fields} {rest : List Json} {content : CodeText}
      (hchoices : reply.get? "choices" = some (.arr (.obj choice :: rest)))
      (hmessage : choice.get? "message" = some (.obj message))
      (hcontent : message.get? "content" = some (.str content)) : FirstContent reply content
  | ofText {choice : Fields} {rest : List Json} {content : CodeText}
      (hchoices : reply.get? "choices" = some (.arr (.obj choice :: rest)))
      (hmessage : ∀ message, choice.get? "message" ≠ some (.obj message))
      (hcontent : choice.get? "text" = some (.str content)) : FirstContent reply content

theorem FirstContent.firstChoice_eq {reply : Fields} {content : CodeText}
    (hfirst : FirstContent reply content) : firstChoice reply = content.text := by
  cases hfirst with
  | ofMessage hchoices hmessage hcontent =>
      simp only [firstChoice, Fields.get, hchoices, hmessage, hcontent, Option.getD_some]
  | @ofText choice rest content hchoices hmessage hcontent =>
      simp only [firstChoice, Fields.get, hchoices, Option.getD_some]
      cases hfound : choice.get? "message" with
      | none => simp only [hcontent, Option.getD_none, Option.getD_some]
      | some value =>
          cases value with
          | obj message => exact absurd hfound (hmessage message)
          | _ => simp only [hcontent, Option.getD_some]

/-- A body is an object whose first choice has this text, without white space at its edges
and not blank. A surrogate alone stands in it as the replacement character. -/
def Offers (octets : List UInt8) (t : Text) : Prop :=
  ∃ reply content, Json.parse (Text.Utf8.decodeLossy octets) = .ok (.obj reply) ∧
    FirstContent reply content ∧ t = Text.strip content.text ∧ t ≠ []

/-- A granted body that offers a text. -/
def Brings (reply : HttpReply) (t : Text) : Prop :=
  ∃ octets, reply = .granted octets ∧ Offers octets t

/-- A reply that comes to no result: a fault of the surroundings that is none of the
connection and none of the values, or a body that is nested too deeply. -/
inductive Escapes : HttpReply → Prop
  | fault {fault : Fault} (htimedOut : fault.kind ≠ .timedOut)
      (hconnection : fault.kind.isConnection = false) (hvalue : fault.kind.isOfValue = false) :
      Escapes (.failed fault)
  | nesting {octets : List UInt8} {e : NestingError}
      (hparse : Json.parse (Text.Utf8.decodeLossy octets) = .error (.nesting e)) :
      Escapes (.granted octets)

/-- What a result owes to the reply that it is made from. -/
structure Answers (reply : HttpReply) (result : ChatResult) : Prop where
  ok_iff : result.ok = true ↔ ∃ t, Brings reply t
  text : ∀ t, Brings reply t → result.text = t
  errorKind : result.ok = false → result.errorKind ≠ []
  not_configError : result.isConfigError = false

theorem Offers.unique {octets : List UInt8} {t other : Text} (ht : Offers octets t)
    (hother : Offers octets other) : t = other := by
  obtain ⟨reply, content, hparse, hcontent, rfl, -⟩ := ht
  obtain ⟨again, content', hparse', hcontent', rfl, -⟩ := hother
  cases hparse.symm.trans hparse'
  rw [← hcontent.firstChoice_eq, hcontent'.firstChoice_eq]

theorem Brings.unique {reply : HttpReply} {t other : Text} (ht : Brings reply t)
    (hother : Brings reply other) : t = other := by
  obtain ⟨octets, rfl, hoffers⟩ := ht
  obtain ⟨octets', hgranted, hoffers'⟩ := hother
  cases hgranted
  exact hoffers.unique hoffers'

/-- A failed result answers a reply that brings nothing, if it does not blame the settings. -/
theorem Answers.of_failed {reply : HttpReply} {result : ChatResult} (kind : ChatErrorKind)
    (hnone : ∀ t, ¬Brings reply t) (hok : result.ok = false) (hkind : result.errorKind = kind.name)
    (hblame : kind ≠ .missingCredentials ∧ kind ≠ .invalidConfig) : Answers reply result where
  ok_iff := by simp [hok, hnone]
  text t ht := absurd ht (hnone t)
  errorKind _ := by
    rw [hkind]
    cases kind <;> exact List.cons_ne_nil _ _
  not_configError := by
    rw [ChatResult.isConfigError, hkind]
    cases kind with
    | missingCredentials => exact absurd rfl hblame.1
    | invalidConfig => exact absurd rfl hblame.2
    | _ => decide

/-- What the network brings for a request: a text in a granted body. -/
def Completes (network : Network) (request : ChatRequest) (t : Text) : Prop :=
  ∃ prepared ∈ (complete network request).sent, Brings (network prepared) t

end Chat

end SchemaDesk

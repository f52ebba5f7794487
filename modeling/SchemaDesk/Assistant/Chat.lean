import SchemaDesk.Json.Conversion
import SchemaDesk.Json.Parser
import SchemaDesk.Json.Printer
import SchemaDesk.Text.Utf8
import SchemaDesk.Transport.Exchange

/-!
# Chat completions

One request to a chat endpoint, and what came of it. Whatever the endpoint does,
there is a result; what it has no words for are faults that are none of the
network, bodies that are nested too deeply, and numbers or addresses that are none.
-/

namespace SchemaDesk

open Decimal

/-- What a chat endpoint is asked. Prompts are passed on as they are, and numbers
are read leniently. -/
structure ChatRequest where
  baseUrl : Text
  apiKey : Text
  model : Text
  systemPrompt : Json
  userPrompt : Json
  maxTokens : Json
  /-- Seconds. -/
  timeout : Json
  temperature : Json := .float (.ofRatio false 1 10)

/-- The kinds of failed results. -/
inductive ChatErrorKind where
  | missingCredentials
  | invalidConfig
  | http
  | network
  | parse
  | empty
  deriving DecidableEq, Repr

/-- The name of a kind of failed results. -/
def ChatErrorKind.name : ChatErrorKind → Text
  | .missingCredentials => "missing_credentials".toList
  | .invalidConfig => "invalid_config".toList
  | .http => "http_error".toList
  | .network => "network".toList
  | .parse => "parse_error".toList
  | .empty => "empty".toList

/-- What came of a request. Results from elsewhere may name kinds of their own. -/
structure ChatResult where
  ok : Bool
  statusText : Text
  httpStatus : Option Int := none
  errorKind : Text := []
  text : Text := []
  usage : Fields := []

namespace ChatResult

/-- A failed result. -/
def failed (kind : ChatErrorKind) (statusText : Text) : ChatResult :=
  { ok := false, statusText, errorKind := kind.name }

/-- Does the result say that the settings are to blame? -/
def isConfigError (result : ChatResult) : Bool :=
  result.errorKind == ChatErrorKind.missingCredentials.name ||
    result.errorKind == ChatErrorKind.invalidConfig.name

end ChatResult

/-- Why there is no result. -/
inductive ChatError where
  | number (e : ConversionError)
  | address (e : UrlError)
  | fault (f : Fault)
  deriving DecidableEq, Repr

/-- The wording of what has no result. -/
def ChatError.message : ChatError → Text
  | .number e => e.message
  | .address e => e.message
  | .fault f => f.message

/-- What comes of asking, and the requests that were sent. -/
structure ChatVisit where
  result : Except ChatError ChatResult
  sent : List HttpRequest := []

/-- Who answers requests. -/
abbrev ChatProvider := ChatRequest → ChatVisit

namespace Chat

/-- The address of the endpoint behind a base address: it may lack a scheme, a
version, or end in slashes. A blank base has none. -/
def endpoint (baseUrl : Text) : Text :=
  let root := ((Text.strip baseUrl).reverse.dropWhile (· == '/')).reverse
  if root.isEmpty then []
  else
    let root :=
      if (Text.indexOf? "://".toList root).isSome then root else "https://".toList ++ root
    let root := if "/v1".toList.isSuffixOf root then root else root ++ "/v1".toList
    root ++ "/chat/completions".toList

/-- The body of a request. -/
def body (request : ChatRequest) (model : Text) (temperature : Binary64) (maxTokens : Int) : Json :=
  let said (role : String) (content : Json) : Json :=
    .obj [("role", .ofString role), ("content", content)]
  .obj [("model", .str model),
    ("messages", .arr [said "system" request.systemPrompt, said "user" request.userPrompt]),
    ("temperature", .float temperature), ("max_tokens", .int maxTokens), ("n", .int 1)]

/-- Half a second: no endpoint is given less. -/
def shortestTimeout : Binary64 :=
  .ofRatio false 1 2

/-- The request to an endpoint with a key for a model. -/
def prepare (request : ChatRequest) (url apiKey model : Text) : Except ChatError HttpRequest := do
  let number {α : Type} : Except ConversionError α → Except ChatError α := Except.mapError .number
  let temperature ← number request.temperature.toFloat
  let maxTokens ← number (request.maxTokens.orElse (.int 100)).toWhole
  let timeout ← number (request.timeout.orElse (.float (.ofRatio false 10 1))).toFloat
  let url ← Except.mapError ChatError.address (Url.parse url)
  return {
    url, method := "POST"
    headers := [("authorization", "Bearer ".toList ++ apiKey),
      ("content-type", "application/json".toList), ("user-agent", "SchemaStudio/0.1".toList)]
    body := (body request model temperature (max 1 maxTokens)).compact
    timeout := Binary64.max shortestTimeout timeout }

/-- The text of the first choice in a reply. A surrogate alone in it counts as the replacement
character. -/
def firstChoice (reply : Fields) : Text :=
  match reply.get "choices" with
  | .arr (.obj choice :: _) =>
    let content :=
      match Fields.get choice "message" with
      | .obj message => Fields.get message "content"
      | _ => Fields.get choice "text"
    match content with
    | .str s => s.text
    | _ => []
  | _ => []

/-- The result for the document of a granted request. -/
def replyResult : Json → ChatResult
  | .obj reply =>
    let text := Text.strip (firstChoice reply)
    if text.isEmpty then .failed .empty "AI endpoint returned no completion.".toList
    else
      { ok := true, statusText := "AI completion received.".toList, text
        usage := (Fields.get reply "usage").fields?.getD [] }
  | _ => .failed .parse "AI endpoint returned an unexpected payload.".toList

/-- The result for a body that is no document. -/
def malformed : ChatResult :=
  .failed .parse "AI endpoint returned malformed JSON.".toList

/-- The result for the body of a granted request; no body counts as an empty object. -/
def readBody (octets : List UInt8) : Except ChatError ChatResult :=
  let t := Text.Utf8.decodeLossy octets
  match if t.isEmpty then .ok (.obj []) else Json.parse t with
  | .ok document => .ok (replyResult document)
  | .error .malformed => .ok malformed
  | .error (.nesting e) => .error (.fault e.fault)

/-- What a status means. -/
def statusText (status : Int) : Text :=
  match status with
  | 401 => "The AI endpoint rejected the API key (401).".toList
  | 403 => "The API key has no access to this model (403).".toList
  | 404 => "Chat completions endpoint not found (404). Check the base URL.".toList
  | 429 => "AI endpoint is rate limiting requests (429).".toList
  | _ => "AI request failed with HTTP ".toList ++ intText status ++ ['.']

/-- The result for a network that did not answer. -/
def unreachable : ChatResult :=
  .failed .network "Could not reach the AI endpoint.".toList

/-- The result for a reply. -/
def readReply : HttpReply → Except ChatError ChatResult
  | .granted octets => readBody octets
  | .refused status _ =>
    .ok { ChatResult.failed .http (statusText status) with httpStatus := some status }
  | .timedOut => .ok unreachable
  | .unreachable _ => .ok unreachable
  | .failed fault =>
    if fault.kind == .timedOut || fault.kind.isConnection then .ok unreachable
    else if fault.kind.isOfValue then .ok malformed
    else .error (.fault fault)

/-- Ask for a completion. -/
def complete (network : Network) (request : ChatRequest) : ChatVisit :=
  let url := endpoint request.baseUrl
  let apiKey := Text.strip request.apiKey
  let model := Text.strip request.model
  if apiKey.isEmpty then
    { result := .ok (.failed .missingCredentials "AI API key is not configured.".toList) }
  else if url.isEmpty || model.isEmpty then
    { result := .ok (.failed .invalidConfig "AI base URL or model is not configured.".toList) }
  else
    match prepare request url apiKey model with
    | .error e => { result := .error e }
    | .ok prepared => { result := readReply (network prepared), sent := [prepared] }

end Chat

end SchemaDesk

import SchemaDesk.Formatting.Provider
import SchemaDesk.Json.Conversion
import SchemaDesk.Json.Parser
import SchemaDesk.Json.Printer
import SchemaDesk.Text.Utf8

/-!
# The format service

A formatter behind an address. The document is posted as the one field of an
object, and a granted request answers with the formatted text in another. What
the service cannot do is told apart by status: from 400 to 499 the document was
refused, and in every other case there is no service to speak of. A body that is
nested too deeply is no answer at all.
-/

namespace SchemaDesk

open Decimal

/-- A format service: its address, and the seconds it is given to answer. -/
structure FormatService where
  url : Text
  timeout : Binary64

namespace FormatService

/-- Half a second: no service is given less. -/
def shortestTimeout : Binary64 :=
  .ofRatio false 1 2

/-- The seconds a service is given if nothing else is said. -/
def defaultTimeout : Json :=
  .float (.ofRatio false 15 1)

/-- A service as settings describe it. -/
def ofSettings (url timeout : Json) : Except ConversionError FormatService := do
  let seconds ← (timeout.orElse defaultTimeout).toFloat
  return { url := Text.strip url.lenientText, timeout := Binary64.max shortestTimeout seconds }

/-- A service without an address is never asked. -/
def configured (service : FormatService) : Bool :=
  !service.url.isEmpty

/-- The body that a document is posted in. -/
def requestBody (source : Text) : Text :=
  (Json.obj [("schema", .str source)]).compact

/-- The request for a document, unless the address is none. -/
def request (service : FormatService) (source : Text) : Except UrlError HttpRequest := do
  let url ← Url.parse service.url
  return {
    url, method := "POST"
    headers := [("accept", "application/json".toList), ("content-type", "application/json".toList),
      ("user-agent", "SchemaStudio/0.1".toList)]
    body := requestBody source
    timeout := service.timeout }

/-- The document that a body is; a blank body, or one that is no document, counts
as an empty object. -/
def readBody (body : Text) : Except NestingError Json :=
  if Text.allBlank body then .ok (.obj [])
  else
    match Json.parse body with
    | .ok value => .ok value
    | .error .malformed => .ok (.obj [])
    | .error (.nesting e) => .error e

/-- The formatted text in a document. A surrogate alone in it counts as the replacement
character. -/
def formattedText? : Json → Option Text
  | .obj fields =>
    match Fields.get fields "formattedSchema" with
    | .str s => some s.text
    | _ => none
  | _ => none

/-- What a refusal says about its reasons. -/
def refusalDetail : Json → Text
  | .obj fields =>
    let detail := (Fields.get fields "details").orElse (Fields.get fields "error")
    Text.strip detail.lenientText
  | _ => []

/-- The result for a request that was refused, with what was said about it. -/
def refusalResult (status : Int) (detail : Text) (debug : List Text) : FormatResult :=
  let statusText := intText status
  let debug :=
    debug ++ [Text.stripRight ("[Format][http] ".toList ++ statusText ++ ' ' :: detail)]
  if 400 ≤ status ∧ status ≤ 499 then
    let message :=
      if detail.isEmpty then
        "Invalid input rejected by the format service (".toList ++ statusText ++ ").".toList
      else detail
    .failed .invalidInput message debug
  else
    let reason := if detail.isEmpty then ['.'] else ": ".toList ++ detail
    { FormatResult.failed .unavailable
        ("Formatter unavailable (".toList ++ statusText ++ [')'] ++ reason) debug with
      diagnostics := detail }

/-- The message for a request that was given up. -/
def timedOutMessage : Text :=
  "Formatter unavailable: request timed out.".toList

/-- The result for the document of a granted request. -/
def grantedResult (document : Json) (debug : List Text) : FormatResult :=
  match formattedText? document with
  | some t => .formatted t debug
  | none => .failed .unavailable "Format service returned an unexpected payload.".toList debug

/-- The document in the octets of a body. -/
def readOctets (octets : List UInt8) : Except Fault Json :=
  (readBody (Text.Utf8.decodeLossy octets)).mapError NestingError.fault

/-- The result for a reply; faults that are none of input and output are let through. -/
def readReply (reply : HttpReply) (debug : List Text) : Except Fault FormatResult :=
  match reply with
  | .granted body => return grantedResult (← readOctets body) debug
  | .refused status body =>
    return refusalResult status (refusalDetail (← readOctets (body.getD []))) debug
  | .timedOut => .ok (.failed .unavailable timedOutMessage debug)
  | .unreachable reason =>
    .ok <| .failed .unavailable
      (if reason.isTimeout then timedOutMessage
       else "Formatter unavailable: could not reach the format service.".toList) debug
  | .failed fault =>
    if fault.kind == .timedOut then .ok (.failed .unavailable timedOutMessage debug)
    else if fault.kind.isIo then
      .ok (.failed .unavailable ("Formatter unavailable: ".toList ++ fault.message) debug)
    else .error fault

/-- Ask the service to format a document. -/
def format (service : FormatService) (network : Network) (asked : FormatRequest) : FormatVisit :=
  if service.url.isEmpty then
    { result := .ok (.failed .unavailable "Format service URL is not configured.".toList []) }
  else
    match asked.source with
    | none | some [] =>
      { result := .ok (.failed .invalidInput "Invalid schema provided.".toList []) }
    | some source =>
      match service.request source with
      | .error e => { result := .error { kind := .badValue, text := e.message } }
      | .ok request =>
        { result := readReply (network request) ["[Format] POST ".toList ++ service.url]
          sent := [request] }

/-- The service as a formatter that may be asked first. -/
def provider (service : FormatService) (network : Network) : FormatProvider where
  configured := service.configured
  format := service.format network

end FormatService

end SchemaDesk

import SchemaDesk.Formatting.CommandLine
import SchemaDesk.Formatting.LocalPass
import SchemaDesk.Formatting.Service
import SchemaDesk.Text.Lowercase

/-!
# Formatting a document

The first formatter is asked if it is configured; if it gives no text, the local
pass does the work; and if that fails too, the document stays as it is. Nothing
that goes wrong on the way is let through: there is always an outcome.
-/

namespace SchemaDesk

/-- How a document was formatted. Outcomes from elsewhere may name other ways. -/
inductive FormatMode where
  | primary
  | fallback
  | failed
  | named (name : Text)
  deriving DecidableEq, Repr

namespace FormatMode

/-- The name of a mode. -/
def name : FormatMode → Text
  | .primary => "primary".toList
  | .fallback => "fallback".toList
  | .failed => "failed".toList
  | .named name => name

/-- The mode with a name. -/
def ofName (name : Text) : FormatMode :=
  if name = FormatMode.primary.name then .primary
  else if name = FormatMode.fallback.name then .fallback
  else if name = FormatMode.failed.name then .failed
  else .named name

end FormatMode

/-- What came of formatting a document. -/
structure FormatOutcome where
  mode : FormatMode
  text : Text
  message : Text := []
  /-- Why the first formatter gave no text. -/
  primaryErrorKind : Text := []
  debugLines : List Text := []
  deriving DecidableEq, Repr

/-- Only a failed outcome leaves the document as it is. -/
def FormatOutcome.changesDocument (outcome : FormatOutcome) : Bool :=
  outcome.mode != .failed

/-- A formatter with a pass to fall back on. -/
structure Formatter where
  primary : Option FormatProvider
  localPass : Text → Except Fault Text := fun t => .ok (LocalPass.format t)

/-- One run of a formatter: its outcome, the request that the first formatter was
asked with, if it was, and what was sent. -/
structure FormatRun where
  outcome : FormatOutcome
  asked : Option FormatRequest
  sent : List HttpRequest

namespace Formatter

/-- The message of an outcome that failed. -/
def failureMessage : Text :=
  "Formatting failed. Unable to format schema; please check your syntax.".toList

/-- The outcome that follows from the result of the first formatter. -/
def outcome (formatter : Formatter) (source : Text) (result : FormatResult) : FormatOutcome :=
  if result.ok then
    { mode := .primary, text := result.text, debugLines := result.debugLines
      message := "Schema formatted with the Prisma formatter.".toList }
  else
    match formatter.localPass source with
    | .ok text =>
      let reason :=
        if result.message.isEmpty then "Prisma formatter was unavailable.".toList
        else result.message
      { mode := .fallback, text, message := "Schema formatted (fallback): ".toList ++ reason
        primaryErrorKind := result.errorKind, debugLines := result.debugLines }
    | .error _ =>
      { mode := .failed, text := source, message := failureMessage
        primaryErrorKind := result.errorKind, debugLines := result.debugLines }

/-- The result of asking the first formatter; a fault counts as unavailable. Faults are
exceptions here: an interrupt would pass the formatter too. -/
def settle (visit : FormatVisit) : FormatResult :=
  match visit.result with
  | .ok result => result
  | .error fault => .failed .unavailable fault.message []

/-- The run without a first formatter. -/
def withoutPrimary (formatter : Formatter) (source : Text) : FormatRun :=
  let missing := FormatResult.failed .unavailable "No schema formatter is configured.".toList []
  { outcome := formatter.outcome source missing, asked := none, sent := [] }

/-- Format a document. -/
def format (formatter : Formatter) (source filePath projectRoot : Text) : FormatRun :=
  let request : FormatRequest := { source := some source, filePath, projectRoot }
  match formatter.primary with
  | some provider =>
    if provider.configured then
      let visit := provider.format request
      { outcome := formatter.outcome source (settle visit), asked := some request
        sent := visit.sent }
    else formatter.withoutPrimary source
  | none => formatter.withoutPrimary source

end Formatter

/-- The formatter that settings choose. -/
inductive ChosenFormatter where
  | service (remote : FormatService)
  | command (tool : FormatCommand)

namespace ChosenFormatter

/-- The seconds in the settings, which are in milliseconds; a second at least. -/
def seconds (timeout : Json) : Except ConversionError Decimal.Binary64 := do
  let milliseconds ← (timeout.orElse (.int 15000)).toFloat
  return Decimal.Binary64.max FormatCommand.shortestTimeout (milliseconds.divNat 1000)

/-- The formatter for a section of the settings. -/
def ofSettings (fields : Fields) : Except ConversionError ChosenFormatter := do
  let mode := Text.lowercase (Text.strip ((fields.get "mode").orElse (.ofString "cli")).display)
  let timeout := Json.float (← seconds (fields.get "timeout_ms"))
  if mode = "service".toList then
    return .service (← FormatService.ofSettings (fields.get "service_url") timeout)
  else
    return .command (← FormatCommand.ofSettings (fields.get "prisma_command") timeout)

/-- The chosen formatter in its surroundings. -/
def formatter (chosen : ChosenFormatter) (network : Network) (place : Workplace) : Formatter where
  primary :=
    match chosen with
    | .service remote => some (remote.provider network)
    | .command tool => some (tool.provider place)

end ChosenFormatter

end SchemaDesk

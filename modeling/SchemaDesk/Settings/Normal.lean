import SchemaDesk.Json.Conversion
import SchemaDesk.Settings.Defaults
import SchemaDesk.Text.Lowercase

/-!
# Sections in normal form

The formatter and the assistant do not read their sections as they stand in a
file, where any value may stand in any place. They read a normal form: strings are
trimmed, numbers lie within bounds, and what does not fit is as by default.
-/

namespace SchemaDesk

namespace Settings

open Json (ofString)

/-- The fields of a section, and the defaults for what it does not name; a section
that is no object names nothing. -/
def filledIn (defaults : Fields) (raw : Json) : Fields :=
  defaults.update (raw.fields?.getD [])

/-- The string of a field, trimmed. -/
def stringOf (fields : Fields) (name : CodeText) : CodeText :=
  CodeText.strip (fields.get name).lenientString

/-- The string of a field, trimmed, or the default where that is empty. -/
def namedString (defaults fields : Fields) (name : CodeText) : CodeText :=
  let s := stringOf fields name
  if s.isEmpty then (defaults.get name).string else s

/-- A number of milliseconds, tokens or entries, within bounds. -/
def numberOf (defaults fields : Fields) (name : CodeText) (low high : Int) :
    Except ConversionError Int := do
  let fallback ← (defaults.get name).toWhole
  (fields.get name).clampedWhole low high fallback

end Settings

/-- Who formats a document. -/
inductive FormatterMode where
  | commandLine
  | service
  deriving DecidableEq, Repr

/-- The name of a mode in settings. -/
def FormatterMode.name : FormatterMode → Text
  | .commandLine => "cli".toList
  | .service => "service".toList

/-- The settings of the formatter. -/
structure FormatterSettings where
  mode : FormatterMode
  serviceUrl : CodeText
  command : CodeText
  projectRoot : CodeText
  /-- Milliseconds. -/
  timeout : Int
  deriving DecidableEq, Repr

namespace FormatterSettings

open Settings

/-- The mode that a text names; every other text names the default. -/
def modeOf (t : Text) : FormatterMode :=
  if Text.lowercase (Text.strip t) = FormatterMode.service.name then .service else .commandLine

/-- The normal form of a section. -/
def ofSection (raw : Json) : Except ConversionError FormatterSettings := do
  let fields := filledIn formatterDefaults raw
  let timeout ← numberOf formatterDefaults fields "timeout_ms" 1000 60000
  return {
    mode := modeOf (fields.get "mode").lenientText
    serviceUrl := stringOf fields "service_url"
    command := stringOf fields "prisma_command"
    projectRoot := stringOf fields "project_root"
    timeout }

/-- The normal form as a section. -/
def toFields (settings : FormatterSettings) : Fields :=
  [("mode", .str settings.mode.name), ("service_url", .str settings.serviceUrl),
    ("prisma_command", .str settings.command), ("project_root", .str settings.projectRoot),
    ("timeout_ms", .int settings.timeout)]

end FormatterSettings

/-- The settings of the assistant. -/
structure AssistantSettings where
  enabled : Bool
  baseUrl : CodeText
  apiKey : CodeText
  model : CodeText
  language : CodeText
  /-- Milliseconds of rest before a passive request starts. -/
  debounce : Int
  /-- Milliseconds that a request is given. -/
  timeout : Int
  maxTokens : Int
  cacheSize : Int
  deriving DecidableEq, Repr

namespace AssistantSettings

open Settings

/-- The variable that holds a key where the settings have none. -/
def keyVariable : String :=
  "OPENAI_API_KEY"

/-- The normal form of a section. -/
def ofSection (environment : Environment) (raw : Json) :
    Except ConversionError AssistantSettings := do
  let fields := filledIn assistantDefaults raw
  let ownKey := stringOf fields "api_key"
  let debounce ← numberOf assistantDefaults fields "debounce_ms" 40 5000
  let timeout ← numberOf assistantDefaults fields "inline_timeout_ms" 1000 30000
  let maxTokens ← numberOf assistantDefaults fields "max_output_tokens" 16 512
  let cacheSize ← numberOf assistantDefaults fields "cache_size" 1 64
  return {
    enabled := (fields.get "enabled").truthy
    baseUrl := namedString assistantDefaults fields "base_url"
    apiKey := if ownKey.isEmpty then CodeText.strip ((environment keyVariable).getD []) else ownKey
    model := namedString assistantDefaults fields "model"
    language := namedString assistantDefaults fields "language"
    debounce, timeout, maxTokens, cacheSize }

/-- The normal form as a section. -/
def toFields (settings : AssistantSettings) : Fields :=
  [("enabled", .bool settings.enabled), ("base_url", .str settings.baseUrl),
    ("api_key", .str settings.apiKey), ("model", .str settings.model),
    ("language", .str settings.language), ("debounce_ms", .int settings.debounce),
    ("inline_timeout_ms", .int settings.timeout), ("max_output_tokens", .int settings.maxTokens),
    ("cache_size", .int settings.cacheSize)]

/-- The settings that fields hold, value by value as they stand there. -/
def ofFields (fields : Fields) : Except ConversionError AssistantSettings := do
  let debounce ← (fields.get "debounce_ms").toWhole
  let timeout ← (fields.get "inline_timeout_ms").toWhole
  let maxTokens ← (fields.get "max_output_tokens").toWhole
  let cacheSize ← (fields.get "cache_size").toWhole
  return {
    enabled := (fields.get "enabled").truthy
    baseUrl := (fields.get "base_url").string
    apiKey := (fields.get "api_key").string
    model := (fields.get "model").string
    language := (fields.get "language").string
    debounce, timeout, maxTokens, cacheSize }

/-- The settings that an assistant is configured with: what the normal form of a section holds. -/
def configuredBy (environment : Environment) (raw : Json) :
    Except ConversionError AssistantSettings := do
  let normal ← ofSection environment raw
  ofFields normal.toFields

/-- Is there a key to ask with? -/
def hasKey (settings : AssistantSettings) : Bool :=
  !settings.apiKey.isEmpty

end AssistantSettings

end SchemaDesk

import SchemaDesk.Json.Basic
import SchemaDesk.Path

/-!
# Default settings

Settings are an object with a section for the editor, one for the formatter and
one for the assistant. What a settings file does not say is as it is here.
-/

namespace SchemaDesk

/-- The variables of the environment. -/
abbrev Environment := String → Option Text

namespace Settings

open Json (ofString)

/-- The section of the editor. -/
def editorDefaults : Fields :=
  [("font_family", ofString "JetBrains Mono"), ("font_size", .int 14), ("tab_size", .int 2),
    ("auto_trigger_completion", .bool true), ("show_hover_docs", .bool true),
    ("hover_delay_ms", .int 350)]

/-- The section of the formatter. -/
def formatterDefaults : Fields :=
  [("mode", ofString "cli"), ("service_url", ofString "http://127.0.0.1:3000/api/format-schema"),
    ("prisma_command", ofString ""), ("project_root", ofString ""), ("timeout_ms", .int 15000)]

/-- The section of the assistant. -/
def assistantDefaults : Fields :=
  [("enabled", .bool false), ("base_url", ofString "https://api.openai.com/v1"),
    ("api_key", ofString ""), ("model", ofString "gpt-3.5-turbo"),
    ("language", ofString "prisma"), ("debounce_ms", .int 500), ("inline_timeout_ms", .int 10000),
    ("max_output_tokens", .int 100), ("cache_size", .int 8)]

/-- All sections. -/
def defaults : Fields :=
  [("editor", .obj editorDefaults), ("formatter", .obj formatterDefaults),
    ("ai", .obj assistantDefaults)]

/-- The variable that names a settings file. -/
def pathVariable : String :=
  "SCHEMA_STUDIO_SETTINGS"

/-- The settings file: as the environment says, else in the home directory. -/
def defaultPath? (environment : Environment) (homes : Text → Option Text) : Option Path :=
  let named := Text.strip ((environment pathVariable).getD [])
  if named.isEmpty then
    (Path.ofText "~/.config/schema-studio/settings.json".toList).expandHome? homes
  else (Path.ofText named).expandHome? homes

end Settings

end SchemaDesk

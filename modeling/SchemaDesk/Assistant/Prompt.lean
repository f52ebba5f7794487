import SchemaDesk.Text.Basic

/-!
# Prompts

What the assistant is told: once what it is for, and with every request the text
before the cursor.
-/

namespace SchemaDesk.Prompt

/-- The language that is named where none is. -/
def defaultLanguage : Text :=
  "prisma".toList

/-- The language, or the default. -/
def named (language : Text) : Text :=
  if language.isEmpty then defaultLanguage else language

/-- What the assistant is for. -/
def system (language : Text) : Text :=
  "You are a code completion assistant for ".toList ++ named language ++
    (" schemas. Provide concise, contextually relevant code completions. Only return the code " ++
      "that should be inserted, no explanations or markdown formatting.").toList

/-- What the assistant is asked: to go on behind the text before the cursor, of which
the part in the line of the cursor comes last. -/
def user (language before current : Text) : Text :=
  "Complete this ".toList ++ named language ++ " code:\n\n".toList ++ before ++ current ++
    ("\n\nProvide only the completion for the current line or next logical code block. " ++
      "Consider:\n- Prisma schema syntax\n- Model definitions and relationships\n" ++
      "- Field types and attributes\n- Proper indentation and formatting\n\n" ++
      "Return only the code to insert, no explanations or markdown.").toList

end SchemaDesk.Prompt

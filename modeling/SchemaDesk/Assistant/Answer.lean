import SchemaDesk.Text.Basic

/-!
# Answers of the assistant

An answer is inserted behind the text that was asked about, so what does not
belong there is taken off: a fence around the code, a repetition of the line so
far, and empty lines at the start.
-/

namespace SchemaDesk.Answer

/-- Answers are cut after so many characters. -/
def limit : Nat := 2400

/-- A character of the language tag of a fence. -/
def isTagChar (c : Char) : Bool :=
  ('a' ≤ c && c ≤ 'z') || ('A' ≤ c && c ≤ 'Z') || ('0' ≤ c && c ≤ '9') || c == '_' || c == '-'

/-- Three backquotes. -/
def fence : Text :=
  List.replicate 3 (Char.ofNat 0x60)

/-- What stands inside a fence, if the whole text is fenced. -/
def fenced? (t : Text) : Option Text :=
  let t := Text.stripLeft t
  if fence.isPrefixOf t then
    match (t.drop fence.length).dropWhile isTagChar with
    | '\n' :: inside =>
      let inside := Text.stripRight inside
      let closing := '\n' :: fence
      if closing.isSuffixOf inside then some (inside.take (inside.length - closing.length))
      else none
    | _ => none
  else none

/-- The text without a repetition of what stands before it. -/
def withoutRepetition (before t : Text) : Text :=
  let before := Text.strip before
  let body := Text.stripLeft t
  if !before.isEmpty && before.isPrefixOf body then body.drop before.length else t

/-- The part of an answer that is inserted behind `before`. -/
def clean (before t : Text) : Text :=
  let t := t.filter (· != '\r')
  if Text.allBlank t then []
  else
    let t := (fenced? t).getD t
    ((withoutRepetition before t).dropWhile (· == '\n')).take limit

end SchemaDesk.Answer

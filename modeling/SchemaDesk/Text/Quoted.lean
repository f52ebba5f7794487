import SchemaDesk.Text.CodePoint
import SchemaDesk.Text.PrintTable
import SchemaDesk.Text.Word

/-!
# Quoted text

How messages show a text: between single quotes, or between double quotes if
it holds a single quote and no double quote. What has no printed form, and
surrogates are of that kind, is written by its number in two, four or eight
hexadecimal digits.
-/

namespace SchemaDesk

namespace Text

/-- A character that messages show as it is. -/
def isPrintable (c : Char) : Bool :=
  if c.toNat < 128 then 32 ≤ c.toNat && c.toNat < 127
  else !inRanges unprintableRanges c.toNat

/-- One lower-case hexadecimal digit. -/
def hexDigit (n : Nat) : Char :=
  if n < 10 then Char.ofNat (48 + n) else Char.ofNat (87 + n)

/-- The lowest `width` hexadecimal digits of `n`. -/
def hexDigits (width n : Nat) : Text :=
  match width with
  | 0 => []
  | width + 1 => hexDigits width (n / 16) ++ [hexDigit (n % 16)]

/-- One character between quotes of the given kind. -/
def quotedChar (quote c : Char) : Text :=
  if c == quote || c == '\\' then ['\\', c]
  else if c == '\n' then ['\\', 'n']
  else if c == '\r' then ['\\', 'r']
  else if c == '\t' then ['\\', 't']
  else if isPrintable c then [c]
  else if c.toNat < 0x100 then ['\\', 'x'] ++ hexDigits 2 c.toNat
  else if c.toNat < 0x10000 then ['\\', 'u'] ++ hexDigits 4 c.toNat
  else ['\\', 'U'] ++ hexDigits 8 c.toNat

end Text

/-- One code point between quotes of the given kind. -/
def CodePoint.quoted (quote : Char) : CodePoint → Text
  | .char c => Text.quotedChar quote c
  | .surrogate offset => ['\\', 'u'] ++ Text.hexDigits 4 (CodePoint.surrogate offset).toNat

/-- The string between quotes. -/
def CodeText.quoted (s : CodeText) : Text :=
  let quote := if s.contains (.char '\'') && !s.contains (.char '"') then '"' else '\''
  quote :: s.flatMap (CodePoint.quoted quote) ++ [quote]

/-- The text between quotes. -/
def Text.quoted (t : Text) : Text :=
  CodeText.quoted t

end SchemaDesk

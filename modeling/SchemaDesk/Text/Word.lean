import SchemaDesk.Text.Basic
import SchemaDesk.Text.WordTable

/-!
# Word characters

Identifiers start with an ASCII letter or an underscore and go on with word
characters of any script; numbers may be written in any decimal digits.
Combining marks are no word characters.
-/

namespace SchemaDesk.Text

/-- Membership in a list of closed ranges. -/
def inRanges (ranges : List (Nat × Nat)) (n : Nat) : Bool :=
  ranges.any fun (first, last) => first ≤ n && n ≤ last

/-- An ASCII letter. -/
def isLatin (c : Char) : Bool :=
  ('a' ≤ c && c ≤ 'z') || ('A' ≤ c && c ≤ 'Z')

/-- A letter, digit or numeric of any script. -/
def isAlphanumeric (c : Char) : Bool :=
  if c.toNat < 128 then isLatin c || ('0' ≤ c && c ≤ '9')
  else inRanges alphanumericRanges c.toNat

/-- A character that can go on a word. -/
def isWordChar (c : Char) : Bool :=
  c == '_' || isAlphanumeric c

/-- A character that can start an identifier. -/
def startsIdentifier (c : Char) : Bool :=
  c == '_' || isLatin c

/-- The value of a decimal digit of any script. -/
def decimalDigit? (c : Char) : Option Nat :=
  if c.toNat < 128 then
    if '0' ≤ c && c ≤ '9' then some (c.toNat - 48) else none
  else
    (decimalZeros.find? fun first => first ≤ c.toNat && c.toNat < first + 10).map
      fun first => c.toNat - first

/-- A decimal digit of any script. -/
def isDecimalDigit (c : Char) : Bool :=
  (decimalDigit? c).isSome

/-- The longest run of word characters at the start. -/
def leadingWord (t : Text) : Text :=
  t.takeWhile isWordChar

/-- The longest run of word characters at the end. -/
def trailingWord (t : Text) : Text :=
  takeWhileRight isWordChar t

end SchemaDesk.Text

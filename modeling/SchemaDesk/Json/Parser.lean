import SchemaDesk.Decimal.Reader
import SchemaDesk.Json.Nesting

/-!
# Reading documents

The grammar of documents, with three named numbers besides: `NaN`, `Infinity`
and `-Infinity`. Of fields with the same name the last value counts and the
first place. Control characters must be escaped inside strings, nothing but
white space may follow the value, and a whole number may not have more digits
than the limit. Two escaped surrogates are one character if they are a pair; a
surrogate without its partner is read as it is. Of what is wrong with a text the
first counts: a text that is nested too deeply may be malformed further on.
-/

namespace SchemaDesk.Json

open Decimal

/-- White space between the parts of a document. -/
def isGap (c : Char) : Bool :=
  c == ' ' || c == '\t' || c == '\n' || c == '\r'

/-- The text without the white space before its first part. -/
def skipGap (t : Text) : Text :=
  t.dropWhile isGap

/-- The value of a hexadecimal digit. -/
def hexValue? (c : Char) : Option Nat :=
  if '0' ≤ c && c ≤ '9' then some (c.toNat - 48)
  else if 'a' ≤ c && c ≤ 'f' then some (c.toNat - 87)
  else if 'A' ≤ c && c ≤ 'F' then some (c.toNat - 55)
  else none

/-- The four hexadecimal digits of an escape. -/
def readUnit? : Text → Option (Nat × Text)
  | a :: b :: c :: d :: rest => do
    let a ← hexValue? a
    let b ← hexValue? b
    let c ← hexValue? c
    let d ← hexValue? d
    some (((a * 16 + b) * 16 + c) * 16 + d, rest)
  | _ => none

/-- The second half of a pair of surrogates, escaped at the start of a text. -/
def readLow? : Text → Option (Nat × Text)
  | '\\' :: 'u' :: rest => (readUnit? rest).filter fun (unit, _) => CodePoint.isLow unit
  | _ => none

/-- The code point of an escape by number, of which `unit` was read; the first
half of a pair takes the second with it, if that follows. -/
def joinUnits (unit : Nat) (rest : Text) : CodePoint × Text :=
  match if CodePoint.isHigh unit then readLow? rest else none with
  | some (low, rest') => (.ofPair unit low, rest')
  | none => (.ofNat unit, rest)

/-- The code point of an escape, without its backslash. -/
def readEscape? : Text → Option (CodePoint × Text)
  | [] => none
  | c :: rest =>
    if c == '"' || c == '\\' || c == '/' then some (.char c, rest)
    else if c == 'b' then some (.char '\x08', rest)
    else if c == 'f' then some (.char '\x0c', rest)
    else if c == 'n' then some (.char '\n', rest)
    else if c == 'r' then some (.char '\r', rest)
    else if c == 't' then some (.char '\t', rest)
    else if c == 'u' then (readUnit? rest).map fun (unit, rest') => joinUnits unit rest'
    else none

/-- The rest of a string after its opening quote. `fuel` bounds its length. -/
def readString? (fuel : Nat) (t : Text) : Option (CodeText × Text) :=
  match fuel, t with
  | 0, _ => none
  | _, [] => none
  | fuel + 1, c :: rest =>
    if c == '"' then some ([], rest)
    else if c == '\\' then do
      let (escaped, rest') ← readEscape? rest
      let (tail, rest'') ← readString? fuel rest'
      some (escaped :: tail, rest'')
    else if c.toNat < 32 then none
    else (readString? fuel rest).map fun (tail, rest') => (.char c :: tail, rest')

/-- An ASCII digit. -/
def isDigit (c : Char) : Bool :=
  '0' ≤ c && c ≤ '9'

/-- A point with the digits after it; nothing where no digit follows. -/
def takeFraction (t : Text) : Text × Text :=
  match t with
  | '.' :: rest =>
    let digits := rest.takeWhile isDigit
    if digits.isEmpty then ([], t) else ('.' :: digits, rest.dropWhile isDigit)
  | _ => ([], t)

/-- An exponent with its mark and sign; nothing where no digit follows. -/
def takeExponent (t : Text) : Text × Text :=
  match t with
  | [] => ([], [])
  | mark :: rest =>
    if mark == 'e' || mark == 'E' then
      let (sign, body) : Text × Text :=
        match rest with
        | '-' :: body => (['-'], body)
        | '+' :: body => (['+'], body)
        | _ => ([], rest)
      let digits := body.takeWhile isDigit
      if digits.isEmpty then ([], t) else (mark :: sign ++ digits, body.dropWhile isDigit)
    else ([], t)

/-- The whole part of a number: a zero alone, or digits that start with none. -/
def takeWhole (t : Text) : Text × Text :=
  match t with
  | '0' :: rest => (['0'], rest)
  | _ => (t.takeWhile isDigit, t.dropWhile isDigit)

/-- A number at the start of a text. -/
def readNumber? (t : Text) : Option (Json × Text) :=
  let (sign, body) : Text × Text :=
    match t with
    | '-' :: body => (['-'], body)
    | _ => ([], t)
  let (whole, rest) := takeWhole body
  if whole.isEmpty then none
  else
    let (fraction, rest) := takeFraction rest
    let (exponent, rest) := takeExponent rest
    if fraction.isEmpty && exponent.isEmpty then
      match readWhole (sign ++ whole) with
      | .ok i => some (.int i, rest)
      | .error _ => none
    else
      (readBinary64? (sign ++ whole ++ fraction ++ exponent)).map fun x => (.float x, rest)

/-- A value that is written as a fixed word. -/
def constants : List (Text × Json) :=
  [("null".toList, .null), ("true".toList, .bool true), ("false".toList, .bool false),
    ("NaN".toList, .float .nan), ("Infinity".toList, .float (.infinity false)),
    ("-Infinity".toList, .float (.infinity true))]

/-- A fixed word at the start of a text. -/
def readConstant? (t : Text) : Option (Json × Text) :=
  (constants.find? fun (word, _) => word.isPrefixOf t).map fun (word, value) =>
    (value, t.drop word.length)

/-- Why a text is read as no document. -/
inductive ReadError where
  /-- The text does not follow the grammar. -/
  | malformed
  /-- The text goes on deeper than is read. -/
  | nesting (e : NestingError)
  deriving DecidableEq, Repr

/-- A part of a document that does not depend on levels. -/
def orMalformed {α : Type} : Option α → Except ReadError α
  | some found => .ok found
  | none => .error .malformed

mutual

/-- A value at the start of a text, with at most so many levels of arrays and
objects. `fuel` bounds the number of steps. -/
def readValue (fuel levels : Nat) (t : Text) : Except ReadError (Json × Text) :=
  match fuel, t with
  | 0, _ => .error .malformed
  | _, [] => .error .malformed
  | fuel + 1, c :: rest =>
    if c == '"' then orMalformed ((readString? fuel rest).map fun (s, rest') => (.str s, rest'))
    else if c == '{' then
      match levels with
      | 0 => .error (.nesting .readingObject)
      | levels + 1 =>
        match skipGap rest with
        | '}' :: rest' => .ok (.obj [], rest')
        | body => (readFields fuel levels [] body).map fun (fields, rest') => (.obj fields, rest')
    else if c == '[' then
      match levels with
      | 0 => .error (.nesting .readingArray)
      | levels + 1 =>
        match skipGap rest with
        | ']' :: rest' => .ok (.arr [], rest')
        | body => (readItems fuel levels body).map fun (items, rest') => (.arr items, rest')
    else
      match readConstant? t with
      | some found => .ok found
      | none => orMalformed (readNumber? t)

/-- The items of an array from its first item on, and what follows the bracket. -/
def readItems (fuel levels : Nat) (t : Text) : Except ReadError (List Json × Text) :=
  match fuel with
  | 0 => .error .malformed
  | fuel + 1 => do
    let (item, rest) ← readValue fuel levels t
    match skipGap rest with
    | ']' :: rest' => .ok ([item], rest')
    | ',' :: rest' =>
      let (items, rest'') ← readItems fuel levels (skipGap rest')
      .ok (item :: items, rest'')
    | _ => .error .malformed

/-- The fields of an object from its first name on, written over `fields`, and
what follows the brace. -/
def readFields (fuel levels : Nat) (fields : Fields) (t : Text) :
    Except ReadError (Fields × Text) :=
  match fuel, t with
  | fuel + 1, '"' :: rest => do
    let (name, rest) ← orMalformed (readString? fuel rest)
    match skipGap rest with
    | ':' :: rest =>
      let (value, rest) ← readValue fuel levels (skipGap rest)
      let fields := fields.set name value
      match skipGap rest with
      | '}' :: rest' => .ok (fields, rest')
      | ',' :: rest' => readFields fuel levels fields (skipGap rest')
      | _ => .error .malformed
    | _ => .error .malformed
  | _, _ => .error .malformed

end

/-- The number of steps that a text is read in at most: a bracket takes two of them, for
the array and for its first item, and no other character takes more. -/
def stepsFor (t : Text) : Nat :=
  2 * t.length + 2

/-- The document that a text is, if it has at most so many levels. -/
def parseWithin (levels : Nat) (t : Text) : Except ReadError Json := do
  let (value, rest) ← readValue (stepsFor t) levels (skipGap t)
  if (skipGap rest).isEmpty then .ok value else .error .malformed

/-- The document that a text is. -/
def parse (t : Text) : Except ReadError Json :=
  parseWithin readingLevels t

/-- A value that stands deeper than the last level is not looked at. -/
theorem readValue_of_no_levels (fuel : Nat) (rest : Text) :
    readValue (fuel + 1) 0 ('[' :: rest) = .error (.nesting .readingArray) := by
  simp [readValue]

/-- What is wrong inside a bracket is found from outside with two more steps and one more
level. -/
theorem readValue_bracket_of_error {fuel levels : Nat} {rest : Text} {e : ReadError}
    (inner : readValue fuel levels ('[' :: rest) = .error e) :
    readValue (fuel + 2) (levels + 1) ('[' :: '[' :: rest) = .error e := by
  have items : readItems (fuel + 1) levels ('[' :: rest) = .error e := by
    rw [readItems, inner]
    rfl
  have unread : skipGap ('[' :: rest) = '[' :: rest := by simp [skipGap, isGap]
  rw [readValue, unread]
  simp [items, Except.map]

/-- Two steps a level are enough to find that there are too many. -/
theorem readValue_replicate_bracket {fuel levels count : Nat} (deep : levels < count)
    (enough : 2 * levels < fuel) :
    readValue fuel levels (List.replicate count '[') = .error (.nesting .readingArray) := by
  induction levels generalizing fuel count with
  | zero =>
    obtain ⟨count, rfl⟩ := Nat.exists_eq_add_of_lt deep
    obtain ⟨fuel, rfl⟩ := Nat.exists_eq_add_of_lt enough
    exact readValue_of_no_levels _ _
  | succ levels ih =>
    match count, fuel with
    | count + 2, fuel + 2 =>
      have deeper : levels < count + 1 := by omega
      exact readValue_bracket_of_error (ih deeper (by omega))

/-- Brackets alone, more than there are levels, are nested too deeply. -/
theorem parseWithin_replicate_bracket {levels count : Nat} (deep : levels < count) :
    parseWithin levels (List.replicate count '[') = .error (.nesting .readingArray) := by
  have unread : skipGap (List.replicate count '[') = List.replicate count '[' := by
    cases count <;> simp [skipGap, isGap, List.replicate_succ]
  rw [parseWithin, unread, readValue_replicate_bracket deep]
  · rfl
  · simp only [stepsFor, List.length_replicate]
    omega

end SchemaDesk.Json

import SchemaDesk.Decimal.Binary64
import SchemaDesk.Text.Word

/-!
# Numbers in text

Numbers may stand between white space, have one sign, be written in the decimal
digits of any script, and have single underscores between digits. Whole numbers
are digits alone; other numbers may have a point and an exponent, or be named.
-/

namespace SchemaDesk.Decimal

/-- Whole numbers of more digits are refused. -/
def digitLimit : Nat := 4300

/-- White space around numbers: the separator controls of ASCII do not count. -/
def isNumberBlank (c : Char) : Bool :=
  Text.isBlank c && !(28 ≤ c.toNat && c.toNat ≤ 31)

/-- A text without the white space around a number. -/
def trimNumber (t : Text) : Text :=
  ((t.dropWhile isNumberBlank).reverse.dropWhile isNumberBlank).reverse

/-- The number that decimal digits, most significant first, stand for. -/
def digitsValue (digits : List Nat) : Nat :=
  digits.foldl (fun value digit => value * 10 + digit) 0

/-- The digits at the start of a text, with single underscores between them, and
what follows. `inside` says that a digit stands before the text. -/
def digitRun (inside : Bool) : Text → List Nat × Text
  | [] => ([], [])
  | c :: rest =>
    match Text.decimalDigit? c with
    | some digit =>
      let (digits, rest') := digitRun true rest
      (digit :: digits, rest')
    | none =>
      if inside && c == '_' && rest.head?.any Text.isDecimalDigit then digitRun false rest
      else ([], c :: rest)

/-- A sign at the start of a text, and what follows. -/
def signAndRest : Text → Bool × Text
  | '-' :: rest => (true, rest)
  | '+' :: rest => (false, rest)
  | t => (false, t)

/-- Why a text is no whole number. -/
inductive WholeNumberError where
  | malformed
  | tooManyDigits (count : Nat)
  deriving DecidableEq, Repr

/-- The whole number that a text is. -/
def readWhole (t : Text) : Except WholeNumberError Int :=
  let (negative, body) := signAndRest (trimNumber t)
  let (digits, rest) := digitRun false body
  if digits.isEmpty || rest.head? = some '_' then .error .malformed
  else if digitLimit < digits.length then .error (.tooManyDigits digits.length)
  else if !rest.isEmpty then .error .malformed
  else
    let value : Int := digitsValue digits
    .ok (if negative then -value else value)

/-- The exponent at the start of a text, and what follows; none is written as zero. -/
def exponentAndRest (t : Text) : Int × Text :=
  match t with
  | [] => (0, [])
  | mark :: rest =>
    if mark == 'e' || mark == 'E' then
      let (negative, body) := signAndRest rest
      match digitRun false body with
      | ([], _) => (0, t)
      | (digits, rest') =>
        let value : Int := digitsValue digits
        (if negative then -value else value, rest')
    else (0, t)

/-- The names of the values that have no digits. -/
def namedValue? (negative : Bool) (t : Text) : Option Binary64 :=
  let name := t.map Char.toLower
  if name == "inf".toList || name == "infinity".toList then some (.infinity negative)
  else if name == "nan".toList then some .nan
  else none

/-- A number without white space or sign. -/
def readUnsigned? (negative : Bool) (t : Text) : Option Binary64 :=
  let (whole, rest) := digitRun false t
  let (fraction, rest) :=
    match rest with
    | '.' :: rest' => digitRun false rest'
    | _ => ([], rest)
  let (exponent, rest) := exponentAndRest rest
  if (whole.isEmpty && fraction.isEmpty) || !rest.isEmpty then none
  else
    some (Binary64.ofScientific negative (digitsValue (whole ++ fraction))
      (exponent - (fraction.length : Int)))

/-- The floating-point value that a text is. -/
def readBinary64? (t : Text) : Option Binary64 :=
  let (negative, body) := signAndRest (trimNumber t)
  match namedValue? negative body with
  | some value => some value
  | none => readUnsigned? negative body

end SchemaDesk.Decimal

import SchemaDesk.Decimal.Shortest
import SchemaDesk.Text.Basic

/-!
# How numbers are written

A style is one record of decisions: where positional writing ends, what marks a
whole number, and how exponents look. Messages, settings files and request
bodies all use the same style.
-/

namespace SchemaDesk.Decimal

/-- The decisions that turn a decimal into text. The point of a decimal is the
power of ten above its first digit: `1` for `5.0`, `0` for `0.5`. -/
structure Style where
  /-- The lowest point that is written positionally. -/
  lowestPoint : Int
  /-- The highest point that is written positionally. -/
  highestPoint : Int
  /-- What follows a whole number written positionally. -/
  wholeMark : String
  /-- What stands before an exponent. -/
  exponentMark : String
  /-- The least number of digits of an exponent. -/
  exponentDigits : Nat
  nanText : String
  infinityText : String

/-- Positional from `0.0001` up to below `10 ^ 16`, whole numbers with `.0`, and
exponents with a sign and two digits at least. -/
def Style.standard : Style where
  lowestPoint := -3
  highestPoint := 16
  wholeMark := ".0"
  exponentMark := "e"
  exponentDigits := 2
  nanText := "nan"
  infinityText := "inf"

/-- The same numbers, with the names of the special values that documents use. -/
def Style.document : Style :=
  { Style.standard with nanText := "NaN", infinityText := "Infinity" }

/-- Digits of a natural number, most significant first. -/
def natText (n : Nat) : Text :=
  Nat.toDigits 10 n

/-- A whole number with its sign. -/
def intText (i : Int) : Text :=
  if i < 0 then '-' :: natText i.natAbs else natText i.natAbs

/-- Digits filled up with zeros on the left. -/
def padded (width : Nat) (t : Text) : Text :=
  List.replicate (width - t.length) '0' ++ t

/-- The digits of a decimal without zeros at the end, and its point. -/
def digitsAndPoint (d : Scientific) : Text × Int :=
  let digits := natText d.digits
  let kept := (digits.reverse.dropWhile (· == '0')).reverse
  (if kept.isEmpty then ['0'] else kept, d.exponent + digits.length)

namespace Style

/-- A positive decimal in the style. -/
def decimal (style : Style) (d : Scientific) : Text :=
  let (digits, point) := digitsAndPoint d
  if style.lowestPoint ≤ point && point ≤ style.highestPoint then
    if point ≤ 0 then
      ['0', '.'] ++ List.replicate point.natAbs '0' ++ digits
    else
      let whole := point.toNat
      if digits.length ≤ whole then
        digits ++ List.replicate (whole - digits.length) '0' ++ style.wholeMark.toList
      else digits.take whole ++ '.' :: digits.drop whole
  else
    let exponent := point - 1
    let sign := if exponent < 0 then '-' else '+'
    let fraction := digits.drop 1
    digits.take 1 ++ (if fraction.isEmpty then [] else '.' :: fraction) ++
      style.exponentMark.toList ++
      sign :: padded style.exponentDigits (natText exponent.natAbs)

/-- A value in the style. -/
def text (style : Style) : Binary64 → Text
  | .nan => style.nanText.toList
  | .infinity negative => (if negative then ['-'] else []) ++ style.infinityText.toList
  | .finite negative mantissa power _ =>
    (if negative then ['-'] else []) ++
      (if mantissa = 0 then '0' :: style.wholeMark.toList
       else style.decimal (shortest mantissa power))

/-- A value without decimal places, a half going to the even neighbour. -/
def rounded (style : Style) : Binary64 → Text
  | .finite negative mantissa power _ =>
    let (n, d) := Binary64.ratio mantissa power
    (if negative then ['-'] else []) ++ natText (roundHalfEven n d)
  | other => style.text other

end Style

end SchemaDesk.Decimal

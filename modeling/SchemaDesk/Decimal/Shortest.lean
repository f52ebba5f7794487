import SchemaDesk.Decimal.Binary64

/-!
# Shortest decimals

The decimal written for a finite value is the one with the fewest digits that
reads back as that value; of several such decimals, the one nearest to it. A
decimal is whole digits times a power of ten.
-/

namespace SchemaDesk.Decimal

/-- A decimal: `digits * 10 ^ exponent`. -/
structure Scientific where
  digits : Nat
  exponent : Int
  deriving DecidableEq, Repr

/-- The quotient times a power of ten, as a quotient of natural numbers. -/
def scaleDecimal (numerator denominator : Nat) (exponent : Int) : Nat × Nat :=
  match exponent with
  | .ofNat e => (numerator * Nat.pow 10 e, denominator)
  | .negSucc e => (numerator, denominator * Nat.pow 10 (e + 1))

/-- The exponent of the first digit of a positive quotient. -/
def leadingExponent (numerator denominator : Nat) : Int :=
  let guess := ((numerator.log2 : Int) - denominator.log2) * 30103 / 100000 - 1
  let reaches (e : Int) : Bool :=
    let (n, d) := scaleDecimal numerator denominator (-e)
    d ≤ n
  if reaches (guess + 2) then guess + 2
  else if reaches (guess + 1) then guess + 1
  else if reaches guess then guess
  else guess - 1

/-- Does a decimal read back as the magnitude of the form? -/
def readsBack (mantissa : Nat) (power : Int) (d : Scientific) : Bool :=
  match Binary64.ofScientific false d.digits d.exponent with
  | .finite _ m p _ => m == mantissa && p == power
  | _ => false

/-- The nearest decimal on the grid of `10 ^ exponent` that reads back, if one of
the two neighbours does. -/
def onGrid? (mantissa : Nat) (power exponent : Int) : Option Scientific :=
  let (n, d) := Binary64.ratio mantissa power
  let (n, d) := scaleDecimal n d (-exponent)
  let nearest := roundHalfEven n d
  let other := if nearest == n / d then n / d + 1 else n / d
  [{ digits := nearest, exponent }, { digits := other, exponent }].find?
    (readsBack mantissa power)

/-- All digits of the form: what is left where no shorter decimal reads back. -/
def exact (mantissa : Nat) (power : Int) : Scientific :=
  match power with
  | .ofNat p => { digits := mantissa * Nat.pow 2 p, exponent := 0 }
  | .negSucc p => { digits := mantissa * Nat.pow 5 (p + 1), exponent := .negSucc p }

/-- The shortest decimal of a form. -/
def shortest (mantissa : Nat) (power : Int) : Scientific :=
  let (n, d) := Binary64.ratio mantissa power
  let leading := leadingExponent n d
  let grids := (List.range 17).map fun (fewer : Nat) => leading - (fewer : Int)
  (grids.findSome? fun exponent => onGrid? mantissa power exponent).getD (exact mantissa power)

end SchemaDesk.Decimal

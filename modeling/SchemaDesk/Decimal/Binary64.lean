/-!
# Binary floating point of 64 bits

A finite value is a sign, a mantissa of at most 53 bits and a power of two.
Each value has exactly one such form, which the type enforces, so equality of
values is equality of forms. All results are rounded once, exactly: to the
nearest value, and from the middle between two values to the even one.
-/

namespace SchemaDesk.Decimal

/-- The quotient rounded to the nearest whole number, a half going to the even
neighbour. -/
def roundHalfEven (numerator denominator : Nat) : Nat :=
  let whole := numerator / denominator
  let twice := 2 * (numerator % denominator)
  if twice < denominator then whole
  else if denominator < twice then whole + 1
  else if whole % 2 == 0 then whole
  else whole + 1

/-- The forms that finite values take: full mantissas, and shorter ones with the
lowest power of two alone. -/
def Canonical (mantissa : Nat) (power : Int) : Prop :=
  mantissa < Nat.pow 2 53 ∧ -1074 ≤ power ∧ power ≤ 971 ∧ (Nat.pow 2 52 ≤ mantissa ∨ power = -1074)

instance (mantissa : Nat) (power : Int) : Decidable (Canonical mantissa power) :=
  inferInstanceAs (Decidable (_ ∧ _ ∧ _ ∧ (_ ∨ _)))

/-- A floating-point value. -/
inductive Binary64 where
  | nan
  | infinity (negative : Bool)
  | finite (negative : Bool) (mantissa : Nat) (power : Int) (form : Canonical mantissa power)
  deriving DecidableEq

namespace Binary64

/-- Zero, with a sign. -/
def zero (negative : Bool) : Binary64 :=
  .finite negative 0 (-1074) (by decide)

instance : Inhabited Binary64 := ⟨zero false⟩

/-- A mantissa and a power of two as a value; what has no finite form is too large. -/
def ofForm (negative : Bool) (mantissa : Nat) (power : Int) : Binary64 :=
  if form : Canonical mantissa power then .finite negative mantissa power form
  else .infinity negative

/-- The quotient divided by a power of two, as a quotient of natural numbers. -/
def scaleDown (numerator denominator : Nat) (power : Int) : Nat × Nat :=
  match power with
  | .ofNat p => (numerator, denominator * Nat.pow 2 p)
  | .negSucc p => (numerator * Nat.pow 2 (p + 1), denominator)

/-- The value nearest to a quotient. -/
def ofRatio (negative : Bool) (numerator denominator : Nat) : Binary64 :=
  if numerator = 0 then zero negative
  else
    let guess := max ((numerator.log2 : Int) - denominator.log2 - 53) (-1074)
    let (n, d) := scaleDown numerator denominator guess
    let power := if n / d < Nat.pow 2 53 then guess else guess + 1
    let (n, d) := scaleDown numerator denominator power
    let mantissa := roundHalfEven n d
    if mantissa = Nat.pow 2 53 then ofForm negative (Nat.pow 2 52) (power + 1)
    else ofForm negative mantissa power

/-- The value nearest to `digits * 10 ^ exponent`. Exponents far outside the range
of finite values are settled without computing the power. -/
def ofScientific (negative : Bool) (digits : Nat) (exponent : Int) : Binary64 :=
  if digits = 0 then zero negative
  else
    let magnitude := exponent + (digits.log2 : Int) * 30103 / 100000
    if 400 < magnitude then .infinity negative
    else if magnitude < -400 then zero negative
    else match exponent with
      | .ofNat e => ofRatio negative (digits * Nat.pow 10 e) 1
      | .negSucc e => ofRatio negative digits (Nat.pow 10 (e + 1))

/-- The magnitude of a finite value as a quotient. -/
def ratio (mantissa : Nat) (power : Int) : Nat × Nat :=
  match power with
  | .ofNat p => (mantissa * Nat.pow 2 p, 1)
  | .negSucc p => (mantissa, Nat.pow 2 (p + 1))

/-- The value nearest to a whole number, unless the number is too large for every
finite value. -/
def ofInt? (i : Int) : Option Binary64 :=
  match ofRatio (decide (i < 0)) i.natAbs 1 with
  | .infinity _ => none
  | value => some value

/-- Zero of either sign. -/
def isZero : Binary64 → Bool
  | .finite _ mantissa _ _ => mantissa == 0
  | _ => false

/-- The value divided by a positive whole number. -/
def divNat (value : Binary64) (divisor : Nat) : Binary64 :=
  match value with
  | .finite negative mantissa power _ =>
    let (n, d) := ratio mantissa power
    ofRatio negative n (d * divisor)
  | other => other

/-- Compare the magnitudes of two finite values. -/
def magnitudeLt (m : Nat) (p : Int) (m' : Nat) (p' : Int) : Bool :=
  let low := min p p'
  m * Nat.pow 2 (p - low).toNat < m' * Nat.pow 2 (p' - low).toNat

/-- The order of values; nothing is less than `nan` and `nan` is less than nothing. -/
def lt : Binary64 → Binary64 → Bool
  | .nan, _ => false
  | _, .nan => false
  | .infinity negative, .infinity negative' => negative && !negative'
  | .infinity negative, .finite .. => negative
  | .finite .., .infinity negative => !negative
  | .finite negative m p _, .finite negative' m' p' _ =>
    match negative, negative' with
    | false, false => magnitudeLt m p m' p'
    | true, true => magnitudeLt m' p' m p
    | true, false => !(m == 0 && m' == 0)
    | false, true => false

/-- The larger of two values, the first where neither is. -/
def max (a b : Binary64) : Binary64 :=
  if lt a b then b else a

/-- The whole part of a finite value, its sign kept. -/
def truncate (negative : Bool) (mantissa : Nat) (power : Int) : Int :=
  let (n, d) := ratio mantissa power
  if negative then -((n / d : Nat) : Int) else ((n / d : Nat) : Int)

end Binary64

end SchemaDesk.Decimal

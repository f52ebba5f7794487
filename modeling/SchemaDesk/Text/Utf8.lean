import SchemaDesk.Text.Quoted

/-!
# UTF-8

Files and message bodies are octets; texts are characters. Octets are cut into
stretches, each of which is either one character or a maximal piece of a broken
one. Strict reading stops at the first broken stretch and says where it stands
and what is wrong with it; tolerant reading puts one replacement character in
the place of each.
-/

namespace SchemaDesk.Text.Utf8

/-- What is wrong with a broken stretch. -/
inductive Flaw where
  /-- The octet starts no character. -/
  | badStart
  /-- An octet that had to go on with the character does not. -/
  | badContinuation
  /-- The octets end inside the character. -/
  | cutShort
  deriving DecidableEq, Repr

/-- How the flaw is called in messages. -/
def Flaw.describe : Flaw → String
  | .badStart => "invalid start byte"
  | .badContinuation => "invalid continuation byte"
  | .cutShort => "unexpected end of data"

/-- The octets of one character. -/
def encodeChar (c : Char) : List UInt8 :=
  let n := c.toNat
  if n < 0x80 then [.ofNat n]
  else if n < 0x800 then [.ofNat (0xC0 + n / 64), .ofNat (0x80 + n % 64)]
  else if n < 0x10000 then
    [.ofNat (0xE0 + n / 4096), .ofNat (0x80 + n / 64 % 64), .ofNat (0x80 + n % 64)]
  else
    [.ofNat (0xF0 + n / 262144), .ofNat (0x80 + n / 4096 % 64), .ofNat (0x80 + n / 64 % 64),
      .ofNat (0x80 + n % 64)]

/-- The octets of a text. -/
def encode (t : Text) : List UInt8 :=
  t.flatMap encodeChar

/-- What a first octet promises: its share of the code point, the number of
octets that go on, and the bounds of the next one. The bounds leave out
overlong forms, surrogates and numbers beyond the last code point. -/
def promise? (octet : Nat) : Option (Nat × Nat × Nat × Nat) :=
  if octet < 0x80 then some (octet, 0, 0x80, 0xBF)
  else if octet < 0xC2 then none
  else if octet < 0xE0 then some (octet - 0xC0, 1, 0x80, 0xBF)
  else if octet < 0xF0 then
    some (octet - 0xE0, 2, if octet == 0xE0 then 0xA0 else 0x80,
      if octet == 0xED then 0x9F else 0xBF)
  else if octet < 0xF5 then
    some (octet - 0xF0, 3, if octet == 0xF0 then 0x90 else 0x80,
      if octet == 0xF4 then 0x8F else 0xBF)
  else none

/-- Read the `owed` octets that go on with a character of which `value` is known.
The answer holds what came of it and how many octets were taken. -/
def continuation (owed low high value : Nat) (octets : List UInt8) : Except Flaw Char × Nat :=
  match owed, octets with
  | 0, _ => (.ok (Char.ofNat value), 0)
  | _ + 1, [] => (.error .cutShort, 0)
  | owed + 1, octet :: rest =>
    if low ≤ octet.toNat ∧ octet.toNat ≤ high then
      let (read, taken) := continuation owed 0x80 0xBF (value * 64 + (octet.toNat - 0x80)) rest
      (read, taken + 1)
    else (.error .badContinuation, 0)

/-- A stretch of octets with the character it stands for, or its flaw. -/
structure Stretch where
  octets : List UInt8
  meaning : Except Flaw Char

/-- The stretch that `octet` starts, and the number of octets of `rest` in it. -/
def stretchAt (octet : UInt8) (rest : List UInt8) : Except Flaw Char × Nat :=
  match promise? octet.toNat with
  | none => (.error .badStart, 0)
  | some (value, owed, low, high) => continuation owed low high value rest

/-- Octets cut into characters and broken pieces, in order. -/
def stretches : List UInt8 → List Stretch
  | [] => []
  | octet :: rest =>
    let (meaning, taken) := stretchAt octet rest
    { octets := octet :: rest.take taken, meaning } :: stretches (rest.drop taken)
  termination_by octets => octets.length
  decreasing_by simp only [List.length_drop, List.length_cons]; omega

/-- Why octets are no text: the first broken stretch and its offset. -/
structure DecodeError where
  offset : Nat
  octets : List UInt8
  flaw : Flaw
  deriving DecidableEq, Repr

/-- Where the broken stretch stands, in words. -/
def DecodeError.place (e : DecodeError) : String :=
  match e.octets with
  | [octet] => s!"byte 0x{String.ofList (hexDigits 2 octet.toNat)} in position {e.offset}"
  | octets => s!"bytes in position {e.offset}-{e.offset + octets.length - 1}"

/-- The wording of a decoding error. -/
def DecodeError.message (e : DecodeError) : String :=
  s!"'utf-8' codec can't decode {e.place}: {e.flaw.describe}"

/-- The characters of `stretches` that start at `offset`, or the first flaw. -/
def readStretches (offset : Nat) : List Stretch → Except DecodeError Text
  | [] => .ok []
  | stretch :: rest =>
    match stretch.meaning with
    | .ok c => (readStretches (offset + stretch.octets.length) rest).map (c :: ·)
    | .error flaw => .error { offset, octets := stretch.octets, flaw }

/-- Strict reading. -/
def decode (octets : List UInt8) : Except DecodeError Text :=
  readStretches 0 (stretches octets)

/-- Tolerant reading: a broken stretch becomes one replacement character. -/
def decodeLossy (octets : List UInt8) : Text :=
  (stretches octets).map fun stretch =>
    match stretch.meaning with
    | .ok c => c
    | .error _ => '\uFFFD'

end SchemaDesk.Text.Utf8

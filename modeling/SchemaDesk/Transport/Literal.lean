import SchemaDesk.Text.Basic

/-!
# Numeric addresses

The numbers by which hosts are known: four decimal numbers with points between
them, or eight groups of hexadecimal digits with colons between them, of which
one run of zeros may be left out between two colons.
-/

namespace SchemaDesk.Literal

/-- An ASCII digit. -/
def isDigit (c : Char) : Bool :=
  '0' ≤ c && c ≤ '9'

/-- A hexadecimal digit. -/
def isHexDigit (c : Char) : Bool :=
  isDigit c || ('a' ≤ c && c ≤ 'f') || ('A' ≤ c && c ≤ 'F')

/-- A number up to 255, without zeros in front. -/
def isOctet (t : Text) : Bool :=
  !t.isEmpty && t.length ≤ 3 && t.all isDigit && (t == ['0'] || t.head? != some '0') &&
    t.foldl (fun value c => value * 10 + (c.toNat - 48)) 0 ≤ 255

/-- Four numbers with points between them. -/
def isShort (t : Text) : Bool :=
  let octets := Text.splitWhere (· == '.') t
  octets.length == 4 && octets.all isOctet

/-- One to four hexadecimal digits. -/
def isGroup (t : Text) : Bool :=
  !t.isEmpty && t.length ≤ 4 && t.all isHexDigit

/-- The groups of a text, with colons between them; no text has none. -/
def groups (t : Text) : List Text :=
  if t.isEmpty then [] else Text.splitWhere (· == ':') t

/-- The number of groups in a list that ends an address; an address in the short form
may stand in the last place and counts as two. There is no number if one of them is
no group. -/
def countAtEnd? : List Text → Option Nat
  | [] => some 0
  | [last] => if isGroup last then some 1 else if isShort last then some 2 else none
  | group :: rest => if isGroup group then (countAtEnd? rest).map (· + 1) else none

/-- Eight groups, or fewer with a run left out. -/
def isLong (t : Text) : Bool :=
  match Text.indexOf? [':', ':'] t with
  | none => countAtEnd? (groups t) == some 8
  | some offset =>
    let head := groups (t.take offset)
    head.all isGroup &&
      match countAtEnd? (groups (t.drop (offset + 2))) with
      | some count => head.length + count < 8
      | none => false

/-- A long address, perhaps with a percent sign and the name of a zone behind it. -/
def isLongInZone (t : Text) : Bool :=
  let address := t.takeWhile (· != '%')
  let zone := t.drop (address.length + 1)
  isLong address && (address.length == t.length || (!zone.isEmpty && !zone.contains '%'))

/-- An address of a later version: its number after a letter, a point, and anything. -/
def isLater (t : Text) : Bool :=
  match t with
  | 'v' :: rest =>
    let version := rest.takeWhile isHexDigit
    let body := rest.drop version.length
    !version.isEmpty && body.head? == some '.' && 1 < body.length
  | _ => false

end SchemaDesk.Literal

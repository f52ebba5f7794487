import SchemaDesk.Text.Word

/-!
# Snippet templates

A template is literal text with tabstops: a dollar sign and a number, or a dollar
sign and braces around a number and, behind a colon, a default. Expanding a
template leaves the literals and the defaults, and says where the cursor goes:
over the default of the first tabstop, unless its number is zero; failing that
to the first tabstop zero; failing that to the end.
-/

namespace SchemaDesk.Snippet

/-- A piece of a template. -/
inductive Piece where
  | literal (c : Char)
  | tabstop (number default : Text)
  deriving DecidableEq, Repr

/-- The inside of the braces of a tabstop and what follows it: the number, the
default, and the length up to and with the closing brace. -/
def readBraced? (t : Text) : Option (Piece × Nat) :=
  let number := t.takeWhile Text.isDecimalDigit
  if number.isEmpty then none
  else
    match t.drop number.length with
    | '}' :: _ => some (.tabstop number [], number.length + 1)
    | ':' :: rest =>
      let default := rest.takeWhile (· != '}')
      if default.length < rest.length then
        some (.tabstop number default, number.length + default.length + 2)
      else none
    | _ => none

/-- The tabstop at the start of a text, and its length. -/
def readTabstop? (t : Text) : Option (Piece × Nat) :=
  match t with
  | '$' :: '{' :: rest => (readBraced? rest).map fun (piece, length) => (piece, length + 2)
  | '$' :: rest =>
    let number := rest.takeWhile Text.isDecimalDigit
    if number.isEmpty then none else some (.tabstop number [], number.length + 1)
  | _ => none

/-- The pieces of a template, after `skip` characters that belong to a tabstop
that has been read already. -/
def piecesFrom (skip : Nat) : Text → List Piece
  | [] => []
  | c :: rest =>
    match skip with
    | skip + 1 => piecesFrom skip rest
    | 0 =>
      match readTabstop? (c :: rest) with
      | some (piece, length) => piece :: piecesFrom (length - 1) rest
      | none => .literal c :: piecesFrom 0 rest

/-- The pieces of a template, in order. -/
def pieces (template : Text) : List Piece :=
  piecesFrom 0 template

/-- Tabstop zero is where the cursor ends up; it leaves no text. -/
def isFinal (number : Text) : Bool :=
  number == ['0']

/-- What a piece leaves in the text. -/
def Piece.text : Piece → Text
  | .literal c => [c]
  | .tabstop number default => if isFinal number then [] else default

/-- An expanded template. -/
structure Expansion where
  text : Text
  cursorOffset : Nat
  selectionLength : Nat
  deriving DecidableEq, Repr

/-- The offset of the first tabstop with a number other than zero, and the length
of its default. `offset` is the length of the text before the pieces. -/
def firstTabstop? (offset : Nat) : List Piece → Option (Nat × Nat)
  | [] => none
  | .literal _ :: rest => firstTabstop? (offset + 1) rest
  | .tabstop number default :: rest =>
    if isFinal number then firstTabstop? offset rest else some (offset, default.length)

/-- The offset of the first tabstop zero. -/
def finalTabstop? (offset : Nat) : List Piece → Option Nat
  | [] => none
  | piece :: rest =>
    match piece with
    | .literal _ => finalTabstop? (offset + 1) rest
    | .tabstop number default =>
      if isFinal number then some offset else finalTabstop? (offset + default.length) rest

/-- The text of a template, and where the cursor goes in it. -/
def expand (template : Text) : Expansion :=
  let parts := pieces template
  let text := parts.flatMap Piece.text
  match firstTabstop? 0 parts with
  | some (offset, length) => { text, cursorOffset := offset, selectionLength := length }
  | none =>
    { text, cursorOffset := (finalTabstop? 0 parts).getD text.length, selectionLength := 0 }

end SchemaDesk.Snippet

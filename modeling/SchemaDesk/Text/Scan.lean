import SchemaDesk.Text.Basic

/-!
# Scanning for tokens

A scan goes through a text from left to right and takes the first token it
finds, then the first one behind that, and so on; tokens never overlap. A rule
says how long the token is that starts at a place, given the character before
the place and the text from there on.
-/

namespace SchemaDesk.Text

/-- The length of the token that starts at a place, if one does. A length of zero
counts as no token. -/
abbrev TokenRule := Option Char → Text → Option Nat

/-- A stretch of a text. -/
structure Stretch where
  start : Nat
  length : Nat
  deriving DecidableEq, Repr

/-- The tokens of `t`, which starts at `offset` behind the character `before` and
whose first `skip` characters belong to a token that has been found already. -/
def scanFrom (rule : TokenRule) (offset skip : Nat) (before : Option Char) : Text → List Stretch
  | [] => []
  | c :: rest =>
    match skip with
    | skip + 1 => scanFrom rule (offset + 1) skip (some c) rest
    | 0 =>
      match rule before (c :: rest) with
      | some (length + 1) =>
        { start := offset, length := length + 1 } ::
          scanFrom rule (offset + 1) length (some c) rest
      | _ => scanFrom rule (offset + 1) 0 (some c) rest

/-- All tokens of a text. -/
def scan (rule : TokenRule) (t : Text) : List Stretch :=
  scanFrom rule 0 0 none t

/-- The characters of a stretch. -/
def slice (t : Text) (s : Stretch) : Text :=
  (t.drop s.start).take s.length

end SchemaDesk.Text

import SchemaDesk.Text.Basic

/-!
# Text buffers

A text with one caret in it, which has an end that moves and one that stays; what
lies between them is selected. Replacing a part of the text takes the caret
along, and every change counts up the revision.
-/

namespace SchemaDesk

/-- A caret: offsets of the end that moves and of the end that stays. -/
structure Caret where
  position : Nat
  anchor : Nat
  deriving DecidableEq, Repr

namespace Caret

/-- A caret without a selection. -/
def atOffset (offset : Nat) : Caret where
  position := offset
  anchor := offset

/-- The start of the selection. -/
def start (caret : Caret) : Nat :=
  min caret.position caret.anchor

/-- The end of the selection. -/
def stop (caret : Caret) : Nat :=
  max caret.position caret.anchor

/-- Where an offset is taken when the part from `start` to `stop` is replaced by
`length` characters: what lies before the part stays, and all else moves along. -/
def follow (start stop length offset : Nat) : Nat :=
  if offset < start then offset else max start (offset - (stop - start)) + length

/-- Move to an offset, if it lies in a text of `length` characters. -/
def moveTo (length : Nat) (offset : Int) (caret : Caret) : Caret :=
  if 0 ≤ offset ∧ offset ≤ length then .atOffset offset.toNat else caret

/-- Move to an offset and keep the other end, if the offset lies in the text. -/
def extendTo (length : Nat) (offset : Int) (caret : Caret) : Caret :=
  if 0 ≤ offset ∧ offset ≤ length then { caret with position := offset.toNat } else caret

end Caret

/-- A text with a caret. -/
structure Buffer where
  text : Text
  caret : Caret := .atOffset 0
  /-- How often the text has changed. -/
  revision : Nat := 0
  deriving DecidableEq, Repr

namespace Buffer

/-- A buffer that holds a text. -/
def ofText (t : Text) : Buffer where
  text := Text.dropReturnBeforeFeed t

/-- The buffer with all of its text replaced and the caret at the start. This counts
as a change whatever the text. -/
def reset (buffer : Buffer) (t : Text) : Buffer where
  text := Text.dropReturnBeforeFeed t
  caret := .atOffset 0
  revision := buffer.revision + 1

/-- The buffer with the part from `start` to `stop` replaced. There is no answer if
nothing is left out and nothing is put in. -/
def replace? (buffer : Buffer) (start stop : Nat) (t : Text) : Option Buffer :=
  let t := Text.dropReturnBeforeFeed t
  if start = stop && t.isEmpty then none
  else
    let follow := Caret.follow start stop t.length
    some {
      text := buffer.text.take start ++ t ++ buffer.text.drop stop
      caret := { position := follow buffer.caret.position, anchor := follow buffer.caret.anchor }
      revision := buffer.revision + 1 }

/-- The characters before an offset that belong to its line. -/
def lineBefore (buffer : Buffer) (offset : Nat) : Text :=
  Text.takeWhileRight (· != '\n') (buffer.text.take offset)

/-- The line of an offset, counted from one. -/
def lineOf (buffer : Buffer) (offset : Nat) : Nat :=
  (buffer.text.take offset).count '\n' + 1

/-- The column of an offset in its line, counted from one. -/
def columnOf (buffer : Buffer) (offset : Nat) : Nat :=
  (buffer.lineBefore offset).length + 1

/-- The offset at which the line of an offset starts. -/
def lineStart (buffer : Buffer) (offset : Nat) : Nat :=
  offset - (buffer.lineBefore offset).length

/-- The offset at which the line of an offset ends. -/
def lineEnd (buffer : Buffer) (offset : Nat) : Nat :=
  offset + ((buffer.text.drop offset).takeWhile (· != '\n')).length

/-- The place of the caret: line and column. -/
def place (buffer : Buffer) : Nat × Nat :=
  (buffer.lineOf buffer.caret.position, buffer.columnOf buffer.caret.position)

/-- The part of the selection. -/
def selection (buffer : Buffer) : Nat × Nat :=
  (buffer.caret.start, buffer.caret.stop)

end Buffer

end SchemaDesk

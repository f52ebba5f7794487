import SchemaDesk.Highlight.Format

/-!
# Comments

A line comment starts at two slashes and goes to the end of the line. A block
comment starts at a slash and a star and goes on, over any number of lines, to
the next star and slash; its two marks are looked for wherever they stand. A
line ends either inside a block comment or outside, and the next one starts
there.
-/

namespace SchemaDesk.Highlight

open Text

/-- The mark that opens a block comment. -/
def openMark : Text := ['/', '*']

/-- The mark that closes a block comment. -/
def closeMark : Text := ['*', '/']

/-- A part that is found fits between its place and the end of the text. -/
theorem add_length_le_of_indexOf? {part t : Text} {offset : Nat}
    (h : indexOf? part t = some offset) : offset + part.length ≤ t.length := by
  induction t generalizing offset with
  | nil =>
    cases part with
    | nil =>
      simp only [indexOf?, List.isEmpty_nil, if_true, Option.some.injEq] at h
      simp [← h]
    | cons c part => simp [indexOf?] at h
  | cons c rest ih =>
    rw [indexOf?] at h
    split at h
    next hpart =>
      simp only [Option.some.injEq] at h
      have := (List.isPrefixOf_iff_prefix.mp hpart).length_le
      omega
    next =>
      obtain ⟨k, hk, rfl⟩ := Option.map_eq_some_iff.mp h
      have := ih hk
      simp only [List.length_cons]
      omega

/-- The comments in `rest`, which starts at `offset` outside every comment, and
whether the last one is still open at the end. -/
def commentsOutside (offset : Nat) (rest : Text) : List Stretch × Bool :=
  match _found : indexOf? openMark rest with
  | none => ([], false)
  | some start =>
    let body := rest.drop (start + openMark.length)
    match indexOf? closeMark body with
    | none => ([{ start := offset + start, length := rest.length - start }], true)
    | some inner =>
      let length := openMark.length + inner + closeMark.length
      let (later, isOpen) := commentsOutside (offset + start + length) (rest.drop (start + length))
      ({ start := offset + start, length } :: later, isOpen)
  termination_by rest.length
  decreasing_by
    have := add_length_le_of_indexOf? _found
    simp only [openMark, closeMark, List.length_cons, List.length_nil, List.length_drop] at *
    omega

/-- The comments of a line, and whether the last one is still open at its end.
`inside` says that the line starts in a comment. -/
def blockComments (inside : Bool) (line : Text) : List Stretch × Bool :=
  if inside then
    match indexOf? closeMark line with
    | none => ([{ start := 0, length := line.length }], true)
    | some inner =>
      let length := inner + closeMark.length
      let (later, isOpen) := commentsOutside length (line.drop length)
      ({ start := 0, length } :: later, isOpen)
  else commentsOutside 0 line

/-- Does a string stand open at the end of a text? A backslash, inside a string or
not, takes the next character with it. -/
def endsInsideString (t : Text) : Bool :=
  (t.foldl (fun (state : Bool × Bool) c =>
    let (open', escaped) := state
    if escaped then (open', false)
    else if c == '\\' then (open', true)
    else if c == '"' then (!open', false)
    else (open', false)) (false, false)).1

/-- The part of a text before an index; a negative index counts from the end. -/
def upTo (index : Int) (t : Text) : Text :=
  if index < 0 then t.take (t.length - index.natAbs) else t.take index.toNat

/-- The offset of the first two slashes from which on there is no line feed, but
for a final one. -/
def slashesAt? (offset : Nat) : Text → Option Nat
  | [] => none
  | c :: rest =>
    if ['/', '/'].isPrefixOf (c :: rest) && !(dropFinalFeed (c :: rest)).contains '\n' then
      some offset
    else slashesAt? (offset + 1) rest

/-- The start of the line comment: the first two slashes of the line, unless they
stand in a string. -/
def lineCommentStart? (line : Text) : Option Nat :=
  (slashesAt? 0 line).filter fun start => !endsInsideString (line.take start)

end SchemaDesk.Highlight

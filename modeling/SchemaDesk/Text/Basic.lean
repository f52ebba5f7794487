/-!
# Text

Documents, lines, tokens and answers are lists of characters, so that every
offset, length and column counts characters. This module holds the operations
on whole texts that do not look at what a text means: white space at the
edges, cutting at separators, line ends, and searching for a part.
-/

namespace SchemaDesk

/-- A run of characters. -/
abbrev Text := List Char

namespace Text

/-- White space: what is trimmed from edges and what separates words. -/
def isBlank (c : Char) : Bool :=
  let n := c.toNat
  (9 ≤ n && n ≤ 13) || (28 ≤ n && n ≤ 32) || n == 0x85 || n == 0xA0 || n == 0x1680 ||
    (0x2000 ≤ n && n ≤ 0x200A) || n == 0x2028 || n == 0x2029 || n == 0x202F ||
    n == 0x205F || n == 0x3000

/-- The text without its leading white space. -/
def stripLeft (t : Text) : Text :=
  t.dropWhile isBlank

/-- The text without its trailing white space. -/
def stripRight (t : Text) : Text :=
  (t.reverse.dropWhile isBlank).reverse

/-- The text without white space at either edge. -/
def strip (t : Text) : Text :=
  stripRight (stripLeft t)

/-- What is left without the items at either edge that are not wanted there. -/
def trimWhere {α : Type} (unwanted : α → Bool) (t : List α) : List α :=
  ((t.dropWhile unwanted).reverse.dropWhile unwanted).reverse

/-- Nothing but white space. -/
def allBlank (t : Text) : Bool :=
  t.all isBlank

/-- Cut before and after everything that separates. There is always at least
one part, and parts may be empty. -/
def splitWhere {α : Type} (separates : α → Bool) : List α → List (List α)
  | [] => [[]]
  | c :: rest =>
    if separates c then [] :: splitWhere separates rest
    else match splitWhere separates rest with
      | [] => [[c]]
      | part :: parts => (c :: part) :: parts

/-- The parts between line feeds. -/
def splitLines (t : Text) : List Text :=
  splitWhere (· == '\n') t

/-- The parts put together again with a line feed between neighbours. -/
def joinLines (parts : List Text) : Text :=
  List.intercalate ['\n'] parts

theorem splitWhere_ne_nil {α : Type} (separates : α → Bool) (t : List α) :
    splitWhere separates t ≠ [] := by
  cases t with
  | nil => simp [splitWhere]
  | cons c rest =>
    rw [splitWhere]
    split
    · simp
    · split <;> simp

theorem joinLines_cons_cons (part next : Text) (parts : List Text) :
    joinLines (part :: next :: parts) = part ++ '\n' :: joinLines (next :: parts) := by
  simp [joinLines, List.intercalate, List.intersperse]

/-- Nothing is lost between the lines. -/
theorem joinLines_splitLines (t : Text) : joinLines (splitLines t) = t := by
  induction t with
  | nil => rfl
  | cons c rest ih =>
    cases hparts : splitLines rest with
    | nil => exact absurd hparts (splitWhere_ne_nil _ rest)
    | cons part parts =>
      rw [hparts] at ih
      rw [splitLines] at hparts
      by_cases hc : c = '\n'
      · subst hc
        rw [splitLines, splitWhere, if_pos (by rfl), hparts, joinLines_cons_cons, ih]
        rfl
      · rw [splitLines, splitWhere, if_neg (by simpa using hc), hparts]
        cases parts with
        | nil => simpa [joinLines, List.intercalate] using ih
        | cons next parts =>
          rw [joinLines_cons_cons] at ih
          change joinLines ((c :: part) :: next :: parts) = c :: rest
          rw [joinLines_cons_cons, List.cons_append, ih]

/-- What stands between and in the parts, and nothing else, stands in the whole. -/
theorem mem_intercalate_iff {separator : Text} {parts : List Text} {c : Char} :
    c ∈ List.intercalate separator parts ↔
      (∃ part ∈ parts, c ∈ part) ∨ c ∈ separator ∧ 2 ≤ parts.length := by
  induction parts with
  | nil => simp [List.intercalate]
  | cons part parts ih =>
    cases parts with
    | nil => simp [List.intercalate]
    | cons next parts =>
      have hsplit : List.intercalate separator (part :: next :: parts) =
          part ++ (separator ++ List.intercalate separator (next :: parts)) := by
        simp [List.intercalate, List.intersperse]
      rw [hsplit, List.mem_append, List.mem_append, ih]
      simp only [List.mem_cons, List.length_cons]
      grind

/-- The maximal runs without white space. -/
def words (t : Text) : List Text :=
  (splitWhere isBlank t).filter (fun part => !part.isEmpty)

/-- A carriage return that stands before a line feed is dropped. -/
def dropReturnBeforeFeed : Text → Text
  | [] => []
  | '\r' :: '\n' :: rest => '\n' :: dropReturnBeforeFeed rest
  | c :: rest => c :: dropReturnBeforeFeed rest

/-- Every line end, of whichever kind, becomes a single line feed. -/
def unifyLineEnds : Text → Text
  | [] => []
  | '\r' :: '\n' :: rest => '\n' :: unifyLineEnds rest
  | '\r' :: rest => '\n' :: unifyLineEnds rest
  | c :: rest => c :: unifyLineEnds rest

/-- No carriage return is left. -/
theorem not_mem_unifyLineEnds (t : Text) : '\r' ∉ unifyLineEnds t := by
  fun_induction unifyLineEnds t <;> simp_all [eq_comm]

/-- The text without its last character, if that is a line feed. Anchored token
shapes are matched against this part: they may stand before one final line end. -/
def dropFinalFeed (t : Text) : Text :=
  if t.getLast? = some '\n' then t.dropLast else t

/-- The offset of the first place where `part` stands, if there is one. -/
def indexOf? (part : Text) : Text → Option Nat
  | [] => if part.isEmpty then some 0 else none
  | c :: rest =>
    if part.isPrefixOf (c :: rest) then some 0 else (indexOf? part rest).map (· + 1)

/-- The offset of the first place at or after `start` where `part` stands. -/
def indexFrom? (part : Text) (t : Text) (start : Nat) : Option Nat :=
  if start ≤ t.length then (indexOf? part (t.drop start)).map (· + start) else none

/-- The offset of the last place where `part` stands. -/
def lastIndexOf? (part : Text) : Text → Option Nat
  | [] => if part.isEmpty then some 0 else none
  | c :: rest =>
    match lastIndexOf? part rest with
    | some offset => some (offset + 1)
    | none => if part.isPrefixOf (c :: rest) then some 0 else none

/-- The longest suffix whose characters all satisfy `p`. -/
def takeWhileRight (p : Char → Bool) (t : Text) : Text :=
  (t.reverse.takeWhile p).reverse

end Text

end SchemaDesk

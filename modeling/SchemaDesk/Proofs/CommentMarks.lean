import SchemaDesk.Proofs.BlockComments
import SchemaDesk.Proofs.FirstPlaces
import SchemaDesk.Proofs.LineComments

/-!
# Marks that are no code

A slash and a star that stand in a string, or behind the start of a line comment, are no code. They
open a block comment all the same: every mark does that stands outside the block comments that
are open already. So no line of a document is coloured as a block comment only if there is no
such mark at all, in code or elsewhere.
-/

namespace SchemaDesk.Highlight

open Text

/-! ## Marks -/

/-- The mark that opens a block comment stands at a place of a line. -/
def MarkAt (line : Text) (place : Nat) : Prop :=
  openMark <+: line.drop place

/-- The mark at a place is no code: it stands in a string, or behind the start of a line
comment. -/
structure MarkOutsideCode (line : Text) (place : Nat) : Prop where
  mark : MarkAt line place
  outside : endsInsideString (line.take place) = true ∨
    ∃ start, StartsComment line start ∧ start < place

/-- A block comment starts at a place of a line. The one that the line starts inside of was
opened on an earlier line. -/
def OpensAt (inside : Bool) (line : Text) (place : Nat) : Prop :=
  (∃ comment ∈ (blockComments inside line).1, comment.start = place) ∧
    ¬(inside = true ∧ place = 0)

/-- A scanner that has read a line up to a place is inside a block comment. -/
def InsideAt (inside : Bool) (line : Text) (place : Nat) : Prop :=
  (readMarks inside (line.take place)).2 = true

/-- Two marks share no character. -/
theorem MarkAt.add_two_le {line : Text} {first second : Nat} (hfirst : MarkAt line first)
    (hsecond : MarkAt line second) (hlt : first < second) : first + 2 ≤ second := by
  by_contra hnext
  obtain rfl : second = first + 1 := by omega
  have hstar := getElem?_of_prefix_drop hfirst (i := 1) (by decide)
  have hslash := getElem?_of_prefix_drop hsecond (i := 0) (by decide)
  rw [Nat.add_zero, hstar] at hslash
  cases hslash

/-! ## The scanner on its way -/

theorem length_nextMark (inside : Bool) : (nextMark inside).length = 2 := by
  cases inside <;> rfl

/-- Up to the next mark the scanner goes on as before. -/
theorem snd_readMarks_take_of_no_mark {inside : Bool} {line : Text} {place : Nat}
    (hmark : ∀ start, start + 2 ≤ place → ¬nextMark inside <+: line.drop start) :
    (readMarks inside (line.take place)).2 = inside := by
  have hnone : indexOf? (nextMark inside) (line.take place) = none := by
    apply indexOf?_take_eq_none
    · exact List.ne_nil_of_length_pos (by rw [length_nextMark]; decide)
    · rwa [length_nextMark]
  rw [readMarks_of_none hnone]

theorem snd_readMarks_take_of_none (inside : Bool) {line : Text}
    (hnone : indexOf? (nextMark inside) line = none) (place : Nat) :
    (readMarks inside (line.take place)).2 = inside :=
  snd_readMarks_take_of_no_mark fun start _ => not_prefix_of_indexOf?_eq_none hnone start

theorem snd_readMarks_take_before (inside : Bool) {line : Text} {start place : Nat}
    (hstart : indexOf? (nextMark inside) line = some start) (hplace : place < start + 2) :
    (readMarks inside (line.take place)).2 = inside :=
  snd_readMarks_take_of_no_mark fun earlier hearlier =>
    (prefix_of_indexOf?_eq_some hstart).2 earlier (by omega)

/-- Behind the mark the scanner has changed sides. -/
theorem snd_readMarks_take_behind (inside : Bool) {line : Text} {start : Nat}
    (hstart : indexOf? (nextMark inside) line = some start) (place : Nat) :
    (readMarks inside (line.take (start + 2 + place))).2 =
      (readMarks (!inside) ((line.drop (start + 2)).take place)).2 := by
  have htake : indexOf? (nextMark inside) (line.take (start + 2 + place)) = some start := by
    apply indexOf?_take_eq_some hstart
    rw [length_nextMark]
    omega
  rw [readMarks_of_some htake, List.drop_take, Nat.add_sub_cancel_left]

/-! ## Where comments start -/

section FirstMark

variable {rest : Text} {start : Nat}

theorem opens_at_first_mark (hstart : indexOf? openMark rest = some start) :
    MarkAt rest start ∧ ¬InsideAt false rest start := by
  refine ⟨(prefix_of_indexOf?_eq_some hstart).1, ?_⟩
  have houtside : (readMarks false (rest.take start)).2 = false :=
    snd_readMarks_take_before false hstart (by omega)
  rw [InsideAt, houtside]
  exact Bool.false_ne_true

theorem MarkAt.eq_or_behind (hstart : indexOf? openMark rest = some start) {place : Nat}
    (hmark : MarkAt rest place) : place = start ∨ ∃ later, place = start + 2 + later := by
  obtain ⟨hfirst, hbefore⟩ := prefix_of_indexOf?_eq_some hstart
  rcases Nat.lt_trichotomy place start with hlt | heq | hgt
  · exact absurd hmark (hbefore place hlt)
  · exact .inl heq
  · obtain ⟨later, hlater⟩ := Nat.exists_eq_add_of_le (MarkAt.add_two_le hfirst hmark hgt)
    exact .inr ⟨later, hlater⟩

/-- Behind the first mark the scanner reads the rest from inside a comment. -/
theorem insideAt_behind_first_mark (hstart : indexOf? openMark rest = some start) (later : Nat) :
    InsideAt false rest (start + 2 + later) ↔ InsideAt true (rest.drop (start + 2)) later := by
  have hread : (readMarks false (rest.take (start + 2 + later))).2 = _ :=
    snd_readMarks_take_behind false hstart later
  rw [InsideAt, hread]
  exact Iff.rfl

/-- A comment that is left open goes on to the end. -/
theorem MarkAt.eq_of_unclosed (hstart : indexOf? openMark rest = some start)
    (hopen : indexOf? closeMark (rest.drop (start + 2)) = none) {place : Nat}
    (hmark : MarkAt rest place) (houtside : ¬InsideAt false rest place) : place = start := by
  rcases hmark.eq_or_behind hstart with heq | ⟨later, rfl⟩
  · exact heq
  · refine absurd ?_ houtside
    rw [insideAt_behind_first_mark hstart]
    exact snd_readMarks_take_of_none true hopen later

/-- A comment that is closed goes on up to its mark and with it. -/
theorem MarkAt.eq_or_behind_comment (hstart : indexOf? openMark rest = some start) {inner : Nat}
    (hinner : indexOf? closeMark (rest.drop (start + 2)) = some inner) {place : Nat}
    (hmark : MarkAt rest place) (houtside : ¬InsideAt false rest place) :
    place = start ∨ ∃ later, place = start + (2 + inner + 2) + later := by
  rcases hmark.eq_or_behind hstart with heq | ⟨count, rfl⟩
  · exact .inl heq
  · by_cases hinside : count < inner + 2
    · refine absurd ?_ houtside
      rw [insideAt_behind_first_mark hstart]
      exact snd_readMarks_take_before true hinner hinside
    · exact .inr ⟨count - (inner + 2), by omega⟩

/-- Behind the mark that closes a comment the scanner reads the rest from outside. -/
theorem insideAt_behind_close {inner : Nat} (hinner : indexOf? closeMark rest = some inner)
    (later : Nat) :
    InsideAt true rest (inner + 2 + later) ↔ InsideAt false (rest.drop (inner + 2)) later := by
  have hread : (readMarks true (rest.take (inner + 2 + later))).2 = _ :=
    snd_readMarks_take_behind true hinner later
  rw [InsideAt, hread]
  exact Iff.rfl

theorem insideAt_behind_comment (hstart : indexOf? openMark rest = some start) {inner : Nat}
    (hinner : indexOf? closeMark (rest.drop (start + 2)) = some inner) (later : Nat) :
    InsideAt false rest (start + (2 + inner + 2) + later) ↔
      InsideAt false (rest.drop (start + (2 + inner + 2))) later := by
  have hplace : start + (2 + inner + 2) + later = start + 2 + (inner + 2 + later) := by omega
  have hrest : start + 2 + (inner + 2) = start + (2 + inner + 2) := by omega
  rw [hplace, insideAt_behind_first_mark hstart, insideAt_behind_close hinner, List.drop_drop,
    hrest]

end FirstMark

theorem markAt_drop {line : Text} {offset place : Nat} :
    MarkAt (line.drop offset) place ↔ MarkAt line (offset + place) := by
  rw [MarkAt, MarkAt, List.drop_drop]

theorem le_start_commentsOutside {offset : Nat} {rest : Text} {comment : Stretch}
    (hmem : comment ∈ (commentsOutside offset rest).1) : offset ≤ comment.start := by
  fun_induction commentsOutside offset rest with
  | case1 => cases hmem
  | case2 =>
    rw [List.mem_singleton.mp hmem]
    exact Nat.le_add_right _ _
  | case3 offset rest start hstart body inner hinner length later isOpen hlater ih =>
    rw [hlater] at ih
    rcases List.mem_cons.mp hmem with rfl | hbehind
    · exact Nat.le_add_right _ _
    · have hbound := ih hbehind
      omega

/-- From a place outside every comment on, comments start at the marks that the scanner meets
outside. -/
theorem start_mem_commentsOutside_iff (offset : Nat) (rest : Text) (place : Nat) :
    (∃ comment ∈ (commentsOutside offset rest).1, comment.start = offset + place) ↔
      MarkAt rest place ∧ ¬InsideAt false rest place := by
  fun_induction commentsOutside offset rest generalizing place with
  | case1 offset rest hnone =>
    refine iff_of_false (by simp) ?_
    rintro ⟨hmark, -⟩
    exact not_prefix_of_indexOf?_eq_none hnone place hmark
  | case2 offset rest start hstart body hopen =>
    constructor
    · rintro ⟨comment, hcomment, hplace⟩
      obtain rfl := List.mem_singleton.mp hcomment
      obtain rfl : start = place := Nat.add_left_cancel hplace
      exact opens_at_first_mark hstart
    · rintro ⟨hmark, houtside⟩
      rw [hmark.eq_of_unclosed hstart hopen houtside]
      exact ⟨_, List.mem_cons_self, rfl⟩
  | case3 offset rest start hstart body inner hinner length later isOpen hlater ih =>
    rw [hlater] at ih
    -- A place behind the comment is one of the text that is left then.
    have hbehind (place : Nat) :
        (MarkAt rest (start + length + place) ∧ ¬InsideAt false rest (start + length + place)) ↔
          ∃ comment ∈ later, comment.start = offset + start + length + place := by
      have hinside : InsideAt false rest (start + length + place) ↔ _ :=
        insideAt_behind_comment hstart hinner place
      rw [hinside, ← markAt_drop]
      exact (ih place).symm
    constructor
    · rintro ⟨comment, hcomment, hplace⟩
      rcases List.mem_cons.mp hcomment with rfl | hcomment
      · obtain rfl : start = place := Nat.add_left_cancel hplace
        exact opens_at_first_mark hstart
      · have hmem : comment ∈
            (commentsOutside (offset + start + length) (rest.drop (start + length))).1 := by
          rw [hlater]
          exact hcomment
        have hbound := le_start_commentsOutside hmem
        obtain ⟨count, rfl⟩ : ∃ count, place = start + length + count :=
          ⟨place - (start + length), by omega⟩
        exact (hbehind count).mpr ⟨comment, hcomment, by omega⟩
    · rintro ⟨hmark, houtside⟩
      rcases hmark.eq_or_behind_comment hstart hinner houtside with rfl | ⟨count, hcount⟩
      · exact ⟨_, List.mem_cons_self, rfl⟩
      · obtain rfl : place = start + length + count := hcount
        obtain ⟨comment, hcomment, hstarts⟩ := (hbehind count).mp ⟨hmark, houtside⟩
        exact ⟨comment, List.mem_cons_of_mem _ hcomment, by omega⟩

/-- Block comments are opened at the marks that the scanner meets outside every comment. -/
theorem opensAt_iff (inside : Bool) (line : Text) (place : Nat) :
    OpensAt inside line place ↔ MarkAt line place ∧ ¬InsideAt inside line place := by
  cases inside with
  | false =>
    have hstarts := start_mem_commentsOutside_iff 0 line place
    rw [Nat.zero_add] at hstarts
    rw [← hstarts]
    simp [OpensAt, blockComments]
  | true =>
    unfold OpensAt blockComments
    rw [if_pos rfl]
    split
    next hopen =>
      have hinside : InsideAt true line place := snd_readMarks_take_of_none true hopen place
      simp [hinside, eq_comm]
    next inner hinner =>
      have hlength : inner + closeMark.length = inner + 2 := rfl
      dsimp only
      rw [hlength]
      by_cases hbefore : place < inner + 2
      · have hinside : InsideAt true line place := snd_readMarks_take_before true hinner hbefore
        refine iff_of_false ?_ fun hmark => hmark.2 hinside
        rintro ⟨⟨comment, hcomment, rfl⟩, hfirst⟩
        rcases List.mem_cons.mp hcomment with rfl | hlater
        · exact hfirst ⟨rfl, rfl⟩
        · exact hbefore.not_ge (le_start_commentsOutside hlater)
      · -- Behind the comment that came over from the line before, the scanner is outside.
        obtain ⟨count, rfl⟩ := Nat.exists_eq_add_of_le (Nat.le_of_not_lt hbefore)
        have hfirst : 0 ≠ inner + 2 + count := by omega
        rw [insideAt_behind_close hinner, ← markAt_drop,
          ← start_mem_commentsOutside_iff (inner + 2)]
        simp [hfirst]

/-! ## Main result -/

/-- A line as it is coloured where there are no block comments. -/
def plainLine (line : Text) : ColouredLine where
  spans := (rules.flatMap fun (rule, format) => ruleSpans rule format line) ++ lineCommentSpans line
  insideComment := false

theorem colour_eq_plainLine_iff (line : Text) :
    colour false line = plainLine line ↔ ∀ place, ¬MarkAt line place := by
  constructor
  · intro hplain
    have hspans : (colour false line).spans = (plainLine line).spans := by rw [hplain]
    have hnone : (commentsOutside 0 line).1 = [] :=
      List.map_eq_nil_iff.mp (List.append_right_eq_self.mp hspans)
    rcases indexOf?_cases openMark line with ⟨-, hno⟩ | ⟨start, hstart, -⟩
    · exact hno
    · obtain ⟨comment, hcomment, -⟩ :=
        (start_mem_commentsOutside_iff 0 line start).mpr (opens_at_first_mark hstart)
      rw [hnone] at hcomment
      cases hcomment
  · intro hmark
    have hnone : commentsOutside 0 line = ([], false) := by
      unfold commentsOutside
      split
      next => rfl
      next start hstart => exact absurd (opens_at_first_mark hstart).1 (hmark start)
    have hcomments : blockComments false line = ([], false) := hnone
    rw [colour, hcomments]
    exact congrArg (ColouredLine.mk · false) (List.append_nil _)

/-- No block comment at all is coloured exactly in a document without marks. -/
theorem colourAll_eq_plainLine_iff (lines : List Text) :
    colourAll lines = lines.map plainLine ↔ ∀ line ∈ lines, ∀ place, ¬MarkAt line place := by
  unfold colourAll
  induction lines with
  | nil => simp [colourFrom]
  | cons line rest ih =>
    rw [List.forall_mem_cons, ← colour_eq_plainLine_iff, ← ih]
    have hcolour : colourFrom false (line :: rest) =
        colour false line :: colourFrom (colour false line).insideComment rest := rfl
    rw [hcolour, List.map_cons, List.cons.injEq]
    refine and_congr_right fun hline => ?_
    rw [hline]
    exact Iff.rfl

/-- Take any line of a document. No mark of the line that is no code opens a block comment exactly
if each of them stands inside a block comment that is open already. And a document is coloured
without any block comment exactly if it has no marks, whether they are code or not. -/
theorem mark_opens_iff_outside_comment (lines : List Text) :
    (∀ before line after, lines = before ++ line :: after →
      (colourAll lines)[before.length]? = some (colour (insideAfter before) line) ∧
        ((∀ place, MarkOutsideCode line place → ¬OpensAt (insideAfter before) line place) ↔
          ∀ place, MarkOutsideCode line place → InsideAt (insideAfter before) line place)) ∧
      (colourAll lines = lines.map plainLine ↔ ∀ line ∈ lines, ∀ place, ¬MarkAt line place) := by
  refine ⟨?_, colourAll_eq_plainLine_iff lines⟩
  rintro before line after rfl
  refine ⟨getElem?_colourFrom false before line after, ?_⟩
  refine forall_congr' fun place => forall_congr' fun hmark => ?_
  rw [opensAt_iff, not_and_not_right]
  exact ⟨fun hinside => hinside hmark.mark, fun hinside _ => hinside⟩

theorem MarkAt.lt_length {line : Text} {place : Nat} (hmark : MarkAt line place) :
    place < line.length := by
  have hlength := hmark.length_le
  simp only [openMark, List.length_cons, List.length_nil, List.length_drop] at hlength
  omega

/-- A pattern of files in a string. -/
def quotedPattern : Text :=
  "path = \"src/*\"".toList

/-- A pattern of files in a line comment. -/
def notedPattern : Text :=
  "// src/*".toList

/-- The only mark of a document stands in a string, or in a line comment. It opens a block
comment, which is not closed, so that what follows is coloured as one. -/
theorem mark_opens_outside_code :
    ((∀ place, MarkAt quotedPattern place → MarkOutsideCode quotedPattern place) ∧
      OpensAt false quotedPattern 11 ∧
      ((colourAll [quotedPattern, "model A {}".toList]).map (·.insideComment)) = [true, true]) ∧
    ((∀ place, MarkAt notedPattern place → MarkOutsideCode notedPattern place) ∧
      OpensAt false notedPattern 6 ∧
      ((colourAll [notedPattern, "model A {}".toList]).map (·.insideComment)) = [true, true]) := by
  have hquoted : ∀ place < quotedPattern.length, MarkAt quotedPattern place → place = 11 := by
    unfold MarkAt
    decide
  have hnoted : ∀ place < notedPattern.length, MarkAt notedPattern place → place = 6 := by
    unfold MarkAt
    decide
  refine ⟨⟨fun place hmark => ?_, ?_, ?_⟩, fun place hmark => ?_, ?_, ?_⟩
  · obtain rfl := hquoted place hmark.lt_length hmark
    exact ⟨hmark, .inl (by decide)⟩
  · rw [opensAt_iff, MarkAt, InsideAt]
    decide
  · decide +kernel
  · obtain rfl := hnoted place hmark.lt_length hmark
    exact ⟨hmark, .inr ⟨0, ⟨by decide, nofun⟩, by decide⟩⟩
  · rw [opensAt_iff, MarkAt, InsideAt]
    decide
  · decide +kernel

end SchemaDesk.Highlight

import SchemaDesk.Proofs.SnippetExpansion
import SchemaDesk.Proofs.TextRuns

/-!
# Templates written from segments

A template is written from literal texts and tabstops; a tabstop is a bare number, a number in
braces, or a number in braces with a default. Reading what was written gives the segments back,
so expanding it fills in the defaults and puts the cursor where the first tabstop stands.
-/

namespace SchemaDesk.Snippet

open Text

/-! ## Segments -/

/-- The number of a tabstop, in the decimal digits of any script. -/
structure TabstopNumber where
  digits : Text
  digits_ne_nil : digits ≠ []
  all_digits : ∀ c ∈ digits, isDecimalDigit c = true

/-- The ways to write a tabstop. -/
inductive TabstopForm where
  | bare
  | braced
  | filled (default : Text) (brace_not_mem : '}' ∉ default)

/-- What a tabstop proposes; nothing if it is written without a default. -/
def TabstopForm.default : TabstopForm → Text
  | .bare => []
  | .braced => []
  | .filled default _ => default

inductive Segment where
  | literal (t : Text) (dollar_not_mem : '$' ∉ t)
  | tabstop (number : TabstopNumber) (form : TabstopForm)

namespace Segment

def written : Segment → Text
  | .literal t _ => t
  | .tabstop number .bare => '$' :: number.digits
  | .tabstop number .braced => '$' :: '{' :: (number.digits ++ ['}'])
  | .tabstop number (.filled default _) =>
    '$' :: '{' :: (number.digits ++ ':' :: (default ++ ['}']))

/-- What a segment leaves in the text; a tabstop whose number is written `0` leaves nothing. -/
def filledIn : Segment → Text
  | .literal t _ => t
  | .tabstop number form => if number.digits = ['0'] then [] else form.default

/-- A tabstop with a number other than zero. -/
def IsNumbered : Segment → Prop
  | .literal _ _ => False
  | .tabstop number _ => number.digits ≠ ['0']

def IsLiteral : Segment → Prop
  | .literal _ _ => True
  | .tabstop _ _ => False

theorem IsLiteral.not_isNumbered {segment : Segment} (h : segment.IsLiteral) :
    ¬segment.IsNumbered := by
  cases segment with
  | literal t _ => exact not_false
  | tabstop number form => cases h

/-- The segment as it is read. -/
def pieces : Segment → List Piece
  | .literal t _ => t.map .literal
  | .tabstop number form => [.tabstop number.digits form.default]

end Segment

/-- The template that is written from segments. -/
def written (segments : List Segment) : Text :=
  segments.flatMap Segment.written

/-- The text that segments leave. -/
def filledIn (segments : List Segment) : Text :=
  segments.flatMap Segment.filledIn

/-- The segments go on with a decimal digit: of their literals the first one that is not empty
starts with one, and no tabstop stands before it. -/
def startsWithDigit : List Segment → Bool
  | .literal [] _ :: rest => startsWithDigit rest
  | .literal (c :: _) _ :: _ => isDecimalDigit c
  | _ => false

/-- No bare tabstop is directly followed by a literal that starts with a decimal digit: the digit
would be read as part of the number. An empty literal between the two keeps nothing apart. -/
def Separated : List Segment → Prop
  | [] => True
  | .tabstop _ .bare :: rest => startsWithDigit rest = false ∧ Separated rest
  | _ :: rest => Separated rest

/-- What segments expand to. The selection is the default of the first tabstop that is not
numbered zero; without such a tabstop it is empty and lies at the first tabstop zero, and without
any tabstop at the end. -/
structure ExpandsTo (segments : List Segment) (expansion : Expansion) : Prop where
  text : expansion.text = filledIn segments
  first_numbered : ∀ before number form after,
    segments = before ++ .tabstop number form :: after → number.digits ≠ ['0'] →
      (∀ segment ∈ before, ¬segment.IsNumbered) →
        expansion.cursorOffset = (filledIn before).length ∧
          expansion.selectionLength = form.default.length
  first_zero : ∀ before number form after,
    segments = before ++ .tabstop number form :: after →
      (∀ segment ∈ segments, ¬segment.IsNumbered) → (∀ segment ∈ before, segment.IsLiteral) →
        expansion.cursorOffset = (filledIn before).length ∧ expansion.selectionLength = 0
  no_tabstop : (∀ segment ∈ segments, segment.IsLiteral) →
    expansion.cursorOffset = expansion.text.length ∧ expansion.selectionLength = 0

/-! ## Reading what was written -/

theorem piecesFrom_eq (skip : Nat) (t : Text) : piecesFrom skip t = pieces (t.drop skip) := by
  unfold pieces
  induction t generalizing skip with
  | nil => simp [piecesFrom]
  | cons c rest ih =>
      cases skip with
      | zero => rfl
      | succ skip => exact ih skip

/-- A tabstop that is read as a whole is one piece. -/
theorem pieces_append_of_read {mark rest : Text} {piece : Piece} (hne : mark ≠ [])
    (hread : readTabstop? (mark ++ rest) = some (piece, mark.length)) :
    pieces (mark ++ rest) = piece :: pieces rest := by
  cases mark with
  | nil => exact absurd rfl hne
  | cons c mark =>
      rw [List.cons_append] at hread ⊢
      rw [pieces, piecesFrom]
      simp only [hread]
      rw [List.length_cons, Nat.add_sub_cancel, piecesFrom_eq, List.drop_left]

section

variable (number : TabstopNumber) {rest : Text}

theorem takeWhile_digits_append (hrest : ∀ c, rest.head? = some c → isDecimalDigit c = false) :
    (number.digits ++ rest).takeWhile isDecimalDigit = number.digits :=
  takeWhile_append_of_stops number.all_digits hrest

theorem isEmpty_digits : number.digits.isEmpty = false := by
  simpa using number.digits_ne_nil

theorem readTabstop?_bare (hrest : ∀ c, rest.head? = some c → isDecimalDigit c = false) :
    readTabstop? ((Segment.tabstop number .bare).written ++ rest) =
      some (.tabstop number.digits [], (Segment.tabstop number .bare).written.length) := by
  have hbrace : ∀ after, number.digits ++ rest ≠ '{' :: after := by
    intro after heq
    cases hdigits : number.digits with
    | nil => exact absurd hdigits number.digits_ne_nil
    | cons c digits =>
        rw [hdigits] at heq
        have hc := number.all_digits c (by simp [hdigits])
        rw [(List.cons.inj heq).1] at hc
        exact absurd hc (by decide)
  rw [Segment.written, List.cons_append, readTabstop?.eq_2 _ hbrace]
  simp [takeWhile_digits_append number hrest, isEmpty_digits]

theorem readTabstop?_braced :
    readTabstop? ((Segment.tabstop number .braced).written ++ rest) =
      some (.tabstop number.digits [], (Segment.tabstop number .braced).written.length) := by
  have htake : (number.digits ++ '}' :: rest).takeWhile isDecimalDigit = number.digits :=
    takeWhile_digits_append number (by simp; decide)
  simp [Segment.written, readTabstop?, readBraced?, htake, isEmpty_digits]

theorem readTabstop?_filled {default : Text} (hbrace : '}' ∉ default) :
    readTabstop? ((Segment.tabstop number (.filled default hbrace)).written ++ rest) =
      some (.tabstop number.digits default,
        (Segment.tabstop number (.filled default hbrace)).written.length) := by
  have htake : (number.digits ++ ':' :: (default ++ '}' :: rest)).takeWhile isDecimalDigit =
      number.digits :=
    takeWhile_digits_append number (by simp; decide)
  have hdefault : (default ++ '}' :: rest).takeWhile (· != '}') = default := by
    apply takeWhile_append_of_stops
    · intro c hc
      exact bne_iff_ne.mpr (ne_of_mem_of_not_mem hc hbrace)
    · simp
  simp [Segment.written, readTabstop?, readBraced?, htake, isEmpty_digits, hdefault, Nat.add_assoc]

end

/-- What is written behind a bare tabstop does not go on with its number. -/
theorem not_isDecimalDigit_of_head?_written {segments : List Segment}
    (hdigit : startsWithDigit segments = false) :
    ∀ c, (written segments).head? = some c → isDecimalDigit c = false := by
  intro c hhead
  induction segments with
  | nil => cases hhead
  | cons segment rest ih =>
      cases segment with
      | literal t hdollar =>
          cases t with
          | nil => exact ih hdigit hhead
          | cons first t =>
              obtain rfl : first = c := Option.some.inj hhead
              exact hdigit
      | tabstop number form =>
          have hdollar : (written (.tabstop number form :: rest)).head? = some '$' := by
            cases form <;> rfl
          obtain rfl : '$' = c := Option.some.inj (hdollar.symm.trans hhead)
          decide

/-- Reading a written template gives its segments back. -/
theorem pieces_written {segments : List Segment} (hseparated : Separated segments) :
    pieces (written segments) = segments.flatMap Segment.pieces := by
  induction segments with
  | nil => rfl
  | cons segment rest ih =>
      rw [written, List.flatMap_cons, List.flatMap_cons, ← written]
      cases segment with
      | literal t hdollar =>
          rw [← ih hseparated]
          exact pieces_append_of_no_dollar hdollar _
      | tabstop number form =>
          cases form with
          | bare =>
              have hdigit := not_isDecimalDigit_of_head?_written hseparated.1
              rw [← ih hseparated.2]
              exact pieces_append_of_read (List.cons_ne_nil _ _) (readTabstop?_bare number hdigit)
          | braced =>
              rw [← ih hseparated]
              exact pieces_append_of_read (List.cons_ne_nil _ _) (readTabstop?_braced number)
          | filled default hbrace =>
              rw [← ih hseparated]
              exact pieces_append_of_read (List.cons_ne_nil _ _) (readTabstop?_filled number hbrace)

/-! ## Where the cursor goes -/

theorem firstTabstop?_append {front : List Piece} {offset : Nat}
    (hnone : firstTabstop? offset front = none) (rest : List Piece) :
    firstTabstop? offset (front ++ rest) =
      firstTabstop? (offset + (textOf front).length) rest := by
  induction front generalizing offset with
  | nil => rfl
  | cons piece front ih =>
      cases piece with
      | literal c =>
          rw [List.cons_append, firstTabstop?, ih hnone]
          simp [Piece.text, Nat.add_assoc, Nat.add_comm 1]
      | tabstop number default =>
          rw [firstTabstop?] at hnone
          split at hnone
          next hfinal =>
            rw [List.cons_append, firstTabstop?, if_pos hfinal, ih hnone]
            simp [Piece.text, hfinal]
          next => cases hnone

theorem finalTabstop?_append {front : List Piece} {offset : Nat}
    (hnone : finalTabstop? offset front = none) (rest : List Piece) :
    finalTabstop? offset (front ++ rest) =
      finalTabstop? (offset + (textOf front).length) rest := by
  induction front generalizing offset with
  | nil => rfl
  | cons piece front ih =>
      cases piece with
      | literal c =>
          rw [List.cons_append, finalTabstop?, ih hnone]
          simp [Piece.text, Nat.add_assoc, Nat.add_comm 1]
      | tabstop number default =>
          simp only [finalTabstop?] at hnone
          split at hnone
          next => cases hnone
          next hfinal =>
            have hrest := ih hnone
            simpa [finalTabstop?, Piece.text, hfinal, Nat.add_assoc] using hrest

theorem textOf_pieces (segment : Segment) : textOf segment.pieces = segment.filledIn := by
  cases segment with
  | literal t _ => exact textOf_map_literal t
  | tabstop number form => simp [Segment.pieces, Segment.filledIn, textOf, Piece.text, isFinal]

theorem textOf_flatMap_pieces (segments : List Segment) :
    textOf (segments.flatMap Segment.pieces) = filledIn segments := by
  induction segments with
  | nil => rfl
  | cons segment rest ih => rw [List.flatMap_cons, textOf_append, textOf_pieces, ih]; rfl

theorem firstTabstop?_eq_none {segments : List Segment}
    (hnone : ∀ segment ∈ segments, ¬segment.IsNumbered) (offset : Nat) :
    firstTabstop? offset (segments.flatMap Segment.pieces) = none := by
  induction segments generalizing offset with
  | nil => rfl
  | cons segment rest ih =>
      obtain ⟨hsegment, hrest⟩ := List.forall_mem_cons.mp hnone
      have hfirst : firstTabstop? offset segment.pieces = none := by
        cases segment with
        | literal t _ => exact firstTabstop?_map_literal offset t
        | tabstop number form =>
            have hzero : number.digits = ['0'] := not_not.mp hsegment
            simp [Segment.pieces, firstTabstop?, isFinal, hzero]
      rw [List.flatMap_cons, firstTabstop?_append hfirst, ih hrest]

theorem finalTabstop?_eq_none {segments : List Segment}
    (hliteral : ∀ segment ∈ segments, segment.IsLiteral) (offset : Nat) :
    finalTabstop? offset (segments.flatMap Segment.pieces) = none := by
  induction segments generalizing offset with
  | nil => rfl
  | cons segment rest ih =>
      obtain ⟨hsegment, hrest⟩ := List.forall_mem_cons.mp hliteral
      have hfinal : finalTabstop? offset segment.pieces = none := by
        cases segment with
        | literal t _ => exact finalTabstop?_map_literal offset t
        | tabstop number form => cases hsegment
      rw [List.flatMap_cons, finalTabstop?_append hfinal, ih hrest]

theorem expandsTo_written {segments : List Segment} (hseparated : Separated segments) :
    ExpandsTo segments (expand (written segments)) := by
  have hpieces := pieces_written hseparated
  refine ⟨?_, ?_, ?_, ?_⟩
  · rw [text_expand, hpieces, textOf_flatMap_pieces]
  · intro before number form after hsegments hnumber hbefore
    apply expand_of_first
    rw [hpieces, hsegments, List.flatMap_append,
      firstTabstop?_append (firstTabstop?_eq_none hbefore 0), textOf_flatMap_pieces]
    simp [Segment.pieces, firstTabstop?, isFinal, hnumber]
  · intro before number form after hsegments hnone hbefore
    have hfirst : firstTabstop? 0 (pieces (written segments)) = none := by
      rw [hpieces]
      exact firstTabstop?_eq_none hnone 0
    obtain ⟨hcursor, hlength⟩ := expand_of_no_first hfirst
    have hzero : number.digits = ['0'] :=
      not_not.mp (hnone (.tabstop number form) (by simp [hsegments]))
    refine ⟨?_, hlength⟩
    rw [hcursor, hpieces, hsegments, List.flatMap_append,
      finalTabstop?_append (finalTabstop?_eq_none hbefore 0), textOf_flatMap_pieces]
    simp [Segment.pieces, finalTabstop?, isFinal, hzero]
  · intro hliteral
    have hnone : firstTabstop? 0 (pieces (written segments)) = none := by
      rw [hpieces]
      exact firstTabstop?_eq_none (fun segment hsegment =>
        (hliteral segment hsegment).not_isNumbered) 0
    obtain ⟨hcursor, hlength⟩ := expand_of_no_first hnone
    refine ⟨?_, hlength⟩
    rw [hcursor, hpieces, finalTabstop?_eq_none hliteral]
    rfl

/-- Expanding what was written from segments fills in their defaults and selects the first of
them, unless its tabstop is zero. Whatever the template is, the selection lies in the text. -/
theorem expansion_inverts_writing :
    (∀ segments, Separated segments → ExpandsTo segments (expand (written segments))) ∧
      ∀ template, (expand template).cursorOffset + (expand template).selectionLength ≤
        (expand template).text.length :=
  ⟨fun _ hseparated => expandsTo_written hseparated, cursor_within_expand⟩

def exampleZero : TabstopNumber := ⟨['0'], by decide, List.all_eq_true.mp rfl⟩

def exampleTen : TabstopNumber := ⟨['1', '0'], by decide, List.all_eq_true.mp rfl⟩

/-- An attribute with a default that holds a dollar sign and a colon, between two zeros. -/
def exampleSegments : List Segment :=
  [.literal "@map(\"".toList (by decide), .tabstop exampleZero .braced,
    .tabstop exampleTen (.filled "a:$b".toList (by decide)), .literal "\")".toList (by decide),
    .tabstop exampleZero .bare]

theorem expansion_inverts_writing_attribute :
    Separated exampleSegments ∧
      written exampleSegments = "@map(\"$\x7b0\x7d$\x7b10:a:$b\x7d\")$0".toList ∧
      (expand (written exampleSegments)).text = "@map(\"a:$b\")".toList ∧
      (expand (written exampleSegments)).cursorOffset = 6 ∧
      (expand (written exampleSegments)).selectionLength = 4 := by
  have hseparated : Separated exampleSegments := ⟨rfl, trivial⟩
  have hexpands := expansion_inverts_writing.1 exampleSegments hseparated
  have hcursor := hexpands.first_numbered (exampleSegments.take 2) exampleTen
    (.filled "a:$b".toList (by decide)) (exampleSegments.drop 3) rfl (by decide)
    (by simp [exampleSegments, Segment.IsNumbered, exampleZero])
  exact ⟨hseparated, by decide, hexpands.text.trans (by decide), hcursor.1.trans (by decide),
    hcursor.2.trans (by decide)⟩

end SchemaDesk.Snippet

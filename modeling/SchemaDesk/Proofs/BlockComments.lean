import SchemaDesk.Proofs.ColouredSpans

/-!
# Block comments

Comments are found by searching for their marks. A scanner that reads the lines character
by character, and only remembers whether it is inside a comment, finds the same ones: what
it reads inside a comment, marks included, is what is coloured as one.
-/

namespace SchemaDesk.Highlight

open Text

/-- What a scanner that is inside a comment or outside reads: for each character whether it
belongs to a comment, and whether the scanner is inside one at the end. -/
def readMarks : Bool → Text → List Bool × Bool
  | false, '/' :: '*' :: rest =>
    let (flags, isOpen) := readMarks true rest
    (true :: true :: flags, isOpen)
  | true, '*' :: '/' :: rest =>
    let (flags, isOpen) := readMarks false rest
    (true :: true :: flags, isOpen)
  | inside, _ :: rest =>
    let (flags, isOpen) := readMarks inside rest
    (inside :: flags, isOpen)
  | inside, [] => ([], inside)

/-- Does a character of a line belong to a comment? -/
def InComment (inside : Bool) (line : Text) (offset : Nat) : Prop :=
  (readMarks inside line).1[offset]? = some true

/-- Is the scanner inside a comment after some lines? -/
def insideAfter (lines : List Text) : Bool :=
  lines.foldl (fun inside line => (readMarks inside line).2) false

/-- The mark that the scanner takes notice of. -/
def nextMark (inside : Bool) : Text :=
  if inside then closeMark else openMark

/-- At a mark the scanner changes sides; both characters of the mark belong to the comment. -/
theorem readMarks_mark (inside : Bool) (rest : Text) :
    readMarks inside (nextMark inside ++ rest) =
      (true :: true :: (readMarks (!inside) rest).1, (readMarks (!inside) rest).2) := by
  cases inside <;> rfl

theorem readMarks_cons {inside : Bool} {c : Char} {rest : Text}
    (hmark : ¬ nextMark inside <+: c :: rest) :
    readMarks inside (c :: rest) =
      (inside :: (readMarks inside rest).1, (readMarks inside rest).2) := by
  refine readMarks.eq_3 inside c rest ?_ ?_
  · rintro after rfl rfl rfl
    exact hmark ⟨after, rfl⟩
  · rintro after rfl rfl rfl
    exact hmark ⟨after, rfl⟩

theorem readMarks_of_none {inside : Bool} {line : Text}
    (hnone : indexOf? (nextMark inside) line = none) :
    readMarks inside line = (List.replicate line.length inside, inside) := by
  induction line with
  | nil => cases inside <;> rfl
  | cons c rest ih =>
      unfold indexOf? at hnone
      split at hnone
      · cases hnone
      next hmark =>
        rw [readMarks_cons (mt List.isPrefixOf_iff_prefix.mpr hmark),
          ih (Option.map_eq_none_iff.mp hnone)]
        rfl

/-- The scanner goes on as before up to the next mark, and has changed sides behind it. -/
theorem readMarks_of_some {inside : Bool} {line : Text} {start : Nat}
    (hstart : indexOf? (nextMark inside) line = some start) :
    readMarks inside line =
      (List.replicate start inside ++ true :: true ::
          (readMarks (!inside) (line.drop (start + 2))).1,
        (readMarks (!inside) (line.drop (start + 2))).2) := by
  induction line generalizing start with
  | nil =>
      unfold indexOf? nextMark at hstart
      cases inside <;> cases hstart
  | cons c rest ih =>
      unfold indexOf? at hstart
      split at hstart
      next hmark =>
        obtain ⟨after, hafter⟩ := List.isPrefixOf_iff_prefix.mp hmark
        cases hstart
        rw [← hafter, readMarks_mark]
        have hlength : (nextMark inside).length = 0 + 2 := by cases inside <;> rfl
        rw [← hlength, List.drop_left]
        rfl
      next hmark =>
        obtain ⟨later, hlater, rfl⟩ := Option.map_eq_some_iff.mp hstart
        rw [readMarks_cons (mt List.isPrefixOf_iff_prefix.mpr hmark), ih hlater]
        rfl

/-! ## Stretches -/

/-- Does one of some stretches cover a place? -/
def Covered (stretches : List Stretch) (place : Nat) : Prop :=
  ∃ stretch ∈ stretches, stretch.start ≤ place ∧ place < stretch.start + stretch.length

theorem covered_cons {first : Stretch} {rest : List Stretch} {place : Nat} :
    Covered (first :: rest) place ↔
      (first.start ≤ place ∧ place < first.start + first.length) ∨ Covered rest place := by
  simp [Covered]

theorem not_covered_nil (place : Nat) : ¬ Covered [] place := by
  simp [Covered]

/-- So much of a comment, and then the rest. -/
theorem getElem?_inside {inside : Nat} {flags : List Bool} {offset : Nat} :
    (List.replicate inside true ++ flags)[offset]? = some true ↔
      offset < inside ∨ (inside ≤ offset ∧ flags[offset - inside]? = some true) := by
  by_cases hinside : offset < inside
  · simp [List.getElem?_append_left, hinside]
  · rw [List.getElem?_append_right (by simpa using hinside), List.length_replicate]
    simp [hinside, Nat.not_lt.mp hinside]

/-- First no comment, then so much of one, and then the rest. -/
theorem getElem?_outside {before inside : Nat} {flags : List Bool} {offset : Nat} :
    (List.replicate before false ++ (List.replicate inside true ++ flags))[offset]? = some true ↔
      (before ≤ offset ∧ offset < before + inside) ∨
        (before + inside ≤ offset ∧ flags[offset - (before + inside)]? = some true) := by
  by_cases hbefore : offset < before
  · rw [List.getElem?_append_left (by simpa using hbefore), List.getElem?_replicate, if_pos hbefore]
    simp only [Option.some.injEq, Bool.false_eq_true, false_iff]
    omega
  · rw [List.getElem?_append_right (by simpa using hbefore), List.length_replicate,
      getElem?_inside, Nat.sub_sub]
    have hleft : offset - before < inside ↔ before ≤ offset ∧ offset < before + inside := by omega
    have hright : inside ≤ offset - before ↔ before + inside ≤ offset := by omega
    rw [hleft, hright]

theorem readMarks_opened {rest : Text} {start : Nat}
    (hstart : indexOf? openMark rest = some start) :
    readMarks false rest =
      (List.replicate start false ++ (List.replicate 2 true ++
          (readMarks true (rest.drop (start + 2))).1),
        (readMarks true (rest.drop (start + 2))).2) :=
  readMarks_of_some hstart

/-- A comment that is left open goes on to the end. -/
theorem readMarks_unclosed {body : Text} (hnone : indexOf? closeMark body = none) :
    readMarks true body = (List.replicate body.length true ++ [], true) := by
  rw [List.append_nil]
  exact readMarks_of_none hnone

/-- A comment that is closed goes on up to its mark and with it. -/
theorem readMarks_closed {body : Text} {inner : Nat}
    (hinner : indexOf? closeMark body = some inner) :
    readMarks true body =
      (List.replicate (inner + 2) true ++ (readMarks false (body.drop (inner + 2))).1,
        (readMarks false (body.drop (inner + 2))).2) := by
  rw [← List.replicate_append_replicate, List.append_assoc]
  exact readMarks_of_some hinner

/-- Outside up to the opening mark, and inside from there to the end. -/
theorem readMarks_unclosed_from {rest : Text} {start : Nat}
    (hstart : indexOf? openMark rest = some start)
    (hopen : indexOf? closeMark (rest.drop (start + openMark.length)) = none) :
    readMarks false rest =
      (List.replicate start false ++ (List.replicate (rest.length - start) true ++ []), true) := by
  have hfits : start + 2 ≤ rest.length := add_length_le_of_indexOf? hstart
  have hlength : 2 + (rest.drop (start + 2)).length = rest.length - start := by
    rw [List.length_drop]
    omega
  have hbody : readMarks true (rest.drop (start + 2)) = _ := readMarks_unclosed hopen
  rw [readMarks_opened hstart, hbody, ← List.append_assoc (List.replicate 2 _),
    List.replicate_append_replicate, hlength]

/-- Outside up to the opening mark, inside to the closing one, and outside again. -/
theorem readMarks_closed_from {rest : Text} {start inner : Nat}
    (hstart : indexOf? openMark rest = some start)
    (hinner : indexOf? closeMark (rest.drop (start + openMark.length)) = some inner) :
    readMarks false rest =
      (List.replicate start false ++ (List.replicate (2 + inner + 2) true ++
          (readMarks false (rest.drop (start + (2 + inner + 2)))).1),
        (readMarks false (rest.drop (start + (2 + inner + 2)))).2) := by
  have hdrop : (rest.drop (start + 2)).drop (inner + 2) = rest.drop (start + (2 + inner + 2)) := by
    rw [List.drop_drop]
    congr 1
    omega
  have hbody : readMarks true (rest.drop (start + 2)) = _ := readMarks_closed hinner
  rw [readMarks_opened hstart, hbody, hdrop, ← List.append_assoc (List.replicate 2 _),
    List.replicate_append_replicate, Nat.add_assoc 2 inner 2]

/-- What is found from a place outside every comment is what the scanner reads there. -/
theorem commentsOutside_scanned (offset : Nat) (rest : Text) :
    (commentsOutside offset rest).2 = (readMarks false rest).2 ∧
      ∀ place, Covered (commentsOutside offset rest).1 place ↔
        offset ≤ place ∧ InComment false rest (place - offset) := by
  fun_induction commentsOutside offset rest with
  | case1 offset rest hnone =>
    have hread : readMarks false rest = (List.replicate rest.length false, false) :=
      readMarks_of_none hnone
    refine ⟨by rw [hread], fun place => ?_⟩
    simp [not_covered_nil, InComment, hread, List.getElem?_replicate]
  | case2 offset rest start hstart body hopen =>
    have hread := readMarks_unclosed_from hstart hopen
    refine ⟨by rw [hread], fun place => ?_⟩
    rw [covered_cons, InComment, hread, getElem?_outside]
    simp only [not_covered_nil, List.getElem?_nil, reduceCtorEq, and_false, or_false]
    omega
  | case3 offset rest start hstart body inner hinner length later isOpen hlater ih =>
    have hread : readMarks false rest =
        (List.replicate start false ++ (List.replicate length true ++
            (readMarks false (rest.drop (start + length))).1),
          (readMarks false (rest.drop (start + length))).2) := readMarks_closed_from hstart hinner
    rw [hlater] at ih
    refine ⟨by rw [hread]; exact ih.1, fun place => ?_⟩
    have hrest := ih.2 place
    have hplace : place - (offset + start + length) = place - offset - (start + length) := by omega
    dsimp only at hrest
    rw [InComment, hplace] at hrest
    rw [covered_cons, InComment, hread, getElem?_outside, hrest]
    constructor
    · rintro (hinside | ⟨hbehind, hflag⟩)
      · dsimp only at hinside
        exact ⟨by omega, .inl (by omega)⟩
      · exact ⟨by omega, .inr ⟨by omega, hflag⟩⟩
    · rintro ⟨hoffset, hinside | ⟨hbehind, hflag⟩⟩
      · refine .inl ?_
        dsimp only
        omega
      · exact .inr ⟨by omega, hflag⟩

/-- What is coloured as a block comment is what the scanner reads as one. -/
theorem blockComments_scanned (inside : Bool) (line : Text) :
    (blockComments inside line).2 = (readMarks inside line).2 ∧
      ∀ place, Covered (blockComments inside line).1 place ↔ InComment inside line place := by
  cases inside with
  | false =>
      obtain ⟨hopen, hcovered⟩ := commentsOutside_scanned 0 line
      simp only [Nat.zero_le, true_and, Nat.sub_zero] at hcovered
      exact ⟨hopen, hcovered⟩
  | true =>
      unfold blockComments
      rw [if_pos rfl]
      split
      next hopen =>
        have hread := readMarks_unclosed hopen
        refine ⟨by rw [hread], fun place => ?_⟩
        rw [covered_cons, InComment, hread, getElem?_inside]
        simp [not_covered_nil]
      next inner hinner =>
        -- Behind the comment that came over from the line before, the scanner is outside.
        have hread := readMarks_closed hinner
        obtain ⟨hopen, hcovered⟩ := commentsOutside_scanned (inner + 2) (line.drop (inner + 2))
        refine ⟨by rw [hread]; exact hopen, fun place => ?_⟩
        have hrest := hcovered place
        rw [covered_cons, InComment, hread, getElem?_inside]
        refine Iff.trans (or_congr ?_ hrest) Iff.rfl
        simp [closeMark]

/-! ## Bounds -/

theorem within_commentsOutside {offset : Nat} {rest : Text} {comment : Stretch}
    (hmem : comment ∈ (commentsOutside offset rest).1) :
    comment.start + comment.length ≤ offset + rest.length := by
  fun_induction commentsOutside offset rest with
  | case1 => cases hmem
  | case2 offset rest start hstart body hopen =>
    have hfits := add_length_le_of_indexOf? hstart
    rw [List.mem_singleton.mp hmem]
    dsimp only
    omega
  | case3 offset rest start hstart body inner hinner length later isOpen hlater ih =>
    have hfits := add_length_le_of_indexOf? hstart
    have hbody : inner + closeMark.length ≤ rest.length - (start + openMark.length) := by
      rw [← List.length_drop]
      exact add_length_le_of_indexOf? hinner
    have hlength : length = openMark.length + inner + closeMark.length := rfl
    rw [hlater] at ih
    rcases List.mem_cons.mp hmem with rfl | hlaterMem
    · dsimp only
      omega
    · have hbound := ih hlaterMem
      rw [List.length_drop] at hbound
      omega

theorem within_blockComments {inside : Bool} {line : Text} {comment : Stretch}
    (hmem : comment ∈ (blockComments inside line).1) :
    comment.start + comment.length ≤ line.length := by
  unfold blockComments at hmem
  split at hmem
  · split at hmem
    · rw [List.mem_singleton.mp hmem]
      exact Nat.le_of_eq (Nat.zero_add _)
    next inner hinner =>
      have hfits := add_length_le_of_indexOf? hinner
      rcases List.mem_cons.mp hmem with rfl | hlater
      · dsimp only
        omega
      · have hbound := within_commentsOutside hlater
        rw [List.length_drop] at hbound
        omega
  · have hbound := within_commentsOutside hmem
    omega

theorem within_colour {inside : Bool} {line : Text} {span : Span}
    (hmem : span ∈ (colour inside line).spans) : span.Within line := by
  rcases List.mem_append.mp hmem with hearlier | hcomment
  · rcases List.mem_append.mp hearlier with htoken | hline
    · obtain ⟨⟨rule, format⟩, hrule, hspan⟩ := List.mem_flatMap.mp htoken
      exact within_ruleSpans (fits_of_mem_rules hrule) hspan
    · exact within_lineCommentSpans hline
  · obtain ⟨comment, hcomments, rfl⟩ := List.mem_map.mp hcomment
    exact within_blockComments hcomments

/-! ## Main result -/

/-- Where spans overlap, a block comment is what is seen. -/
theorem formatAt?_of_covered (spans : List Span) {comments : List Stretch} {place : Nat}
    (hcovered : Covered comments place) :
    formatAt? (spans ++ comments.map commentSpan) place = some .comment := by
  obtain ⟨comment, hcomment, hstart, hstop⟩ := hcovered
  have hfound : ((comments.map commentSpan).reverse.find? fun span =>
      span.start ≤ place && place < span.start + span.length).isSome := by
    rw [List.find?_isSome]
    refine ⟨commentSpan comment, List.mem_reverse.mpr (List.mem_map_of_mem hcomment), ?_⟩
    simp [commentSpan, hstart, hstop]
  obtain ⟨seen, hseen⟩ := Option.isSome_iff_exists.mp hfound
  obtain ⟨stretch, -, rfl⟩ :=
    List.mem_map.mp (List.mem_reverse.mp (List.mem_of_find?_eq_some hseen))
  rw [formatAt?, List.reverse_append, List.find?_append, hseen]
  rfl

theorem getElem?_colourFrom (inside : Bool) (before : List Text) (line : Text)
    (after : List Text) :
    (colourFrom inside (before ++ line :: after))[before.length]? =
      some (colour (before.foldl (fun inside line => (readMarks inside line).2) inside) line) := by
  induction before generalizing inside with
  | nil => rfl
  | cons first rest ih =>
      have hopen : (colour inside first).insideComment = (readMarks inside first).2 :=
        (blockComments_scanned inside first).1
      rw [List.foldl_cons, ← ih, ← hopen]
      rfl

/-- Take any line of a document. The scanner reads it from where the lines before have left
it. The line ends inside a comment exactly where the scanner does; every character that the
scanner reads as part of a comment is seen as one; the block comments that are coloured
cover these characters and no other ones; and no span reaches beyond the line. -/
theorem comments_as_scanned (before : List Text) (line : Text) (after : List Text) :
    ∃ coloured, (colourAll (before ++ line :: after))[before.length]? = some coloured ∧
      coloured = colour (insideAfter before) line ∧
      coloured.insideComment = insideAfter (before ++ [line]) ∧
      (∀ place, InComment (insideAfter before) line place →
        formatAt? coloured.spans place = some .comment) ∧
      (∀ place, Covered (blockComments (insideAfter before) line).1 place ↔
        InComment (insideAfter before) line place) ∧
      ∀ span ∈ coloured.spans, span.start + span.length ≤ line.length := by
  obtain ⟨hopen, hcovered⟩ := blockComments_scanned (insideAfter before) line
  refine ⟨_, getElem?_colourFrom false before line after, rfl, ?_, ?_, hcovered, ?_⟩
  · rw [insideAfter, List.foldl_append]
    exact hopen
  · intro place hplace
    exact formatAt?_of_covered _ ((hcovered place).mpr hplace)
  · exact fun span hspan => within_colour hspan

/-- The star and slash of one mark do not belong to the other one. -/
example : readMarks false "a /*/ b */ c".toList =
    ([false, false, true, true, true, true, true, true, true, true, false, false], false) := by
  decide

end SchemaDesk.Highlight

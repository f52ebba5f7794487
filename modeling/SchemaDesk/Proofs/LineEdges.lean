import SchemaDesk.Proofs.TextForms
import SchemaDesk.Suggestion.Request

/-!
# White space at the edges of lines

Which blocks a line opens or closes and which type it declares is read from what stands
between the white space at its edges. So the blocks around a line and the types that a
document declares are the same for lines as for the same lines trimmed.
-/

namespace SchemaDesk

namespace Text

/-! ## White space and words -/

/-- The code points of white space. -/
def blankCodes : List Nat :=
  List.range' 9 5 ++ List.range' 28 5 ++ List.range' 0x2000 11 ++
    [0x85, 0xA0, 0x1680, 0x2028, 0x2029, 0x202F, 0x205F, 0x3000]

theorem toNat_mem_blankCodes {c : Char} (hc : isBlank c = true) : c.toNat ∈ blankCodes := by
  simp only [isBlank, Bool.or_eq_true, Bool.and_eq_true, decide_eq_true_eq, beq_iff_eq] at hc
  simp only [blankCodes, List.mem_append, List.mem_range'_1, List.mem_cons, List.not_mem_nil]
  omega

/-- What is false of every code point of white space is false of white space. -/
theorem eq_false_of_isBlank {p : Char → Bool}
    (hcodes : ∀ n ∈ blankCodes, p (Char.ofNat n) = false) {c : Char} (hc : isBlank c = true) :
    p c = false := by
  have hcode := hcodes c.toNat (toNat_mem_blankCodes hc)
  rwa [Char.ofNat_toNat] at hcode

theorem isWordChar_of_isBlank {c : Char} (hc : isBlank c = true) : isWordChar c = false :=
  eq_false_of_isBlank (by decide +kernel) hc

theorem startsIdentifier_of_isBlank {c : Char} (hc : isBlank c = true) :
    startsIdentifier c = false :=
  eq_false_of_isBlank (by decide +kernel) hc

section Blanks

variable {blanks : Text} (hblanks : ∀ c ∈ blanks, isBlank c = true)

include hblanks

theorem stripLeft_blank_append (t : Text) : stripLeft (blanks ++ t) = stripLeft t :=
  List.dropWhile_append_of_pos hblanks

/-- White space behind a text of white space is gone with it, and behind any other it stays. -/
theorem stripLeft_append_blank (t : Text) :
    stripLeft (t ++ blanks) = if stripLeft t = [] then [] else stripLeft t ++ blanks := by
  rw [stripLeft, stripLeft, List.dropWhile_append, List.dropWhile_eq_nil_iff.mpr hblanks]
  simp only [List.isEmpty_iff]

theorem strip_append_blank (t : Text) : strip (t ++ blanks) = strip t := by
  rw [strip, strip, stripLeft_append_blank hblanks]
  split
  next hempty => rw [hempty]
  next => exact rdropWhile_append_of_pos hblanks

theorem leadingWord_append_blank (t : Text) : leadingWord (t ++ blanks) = leadingWord t := by
  induction t with
  | nil =>
      cases blanks with
      | nil => rfl
      | cons c rest =>
          have hc := isWordChar_of_isBlank (hblanks c List.mem_cons_self)
          simp [leadingWord, hc]
  | cons c t ih =>
      rw [leadingWord, leadingWord] at ih ⊢
      rw [List.cons_append, List.takeWhile_cons, List.takeWhile_cons, ih]

/-- A word without white space does not reach into the white space behind a text. -/
theorem isPrefixOf_append_blank {word : Text} (hword : ∀ c ∈ word, isBlank c = false)
    (t : Text) : word.isPrefixOf (t ++ blanks) = word.isPrefixOf t := by
  rw [Bool.eq_iff_iff, List.isPrefixOf_iff_prefix, List.isPrefixOf_iff_prefix]
  constructor
  · intro hfront
    rcases List.prefix_or_prefix_of_prefix hfront (List.prefix_append t blanks) with h | h
    · exact h
    · obtain ⟨extra, rfl⟩ := h
      cases extra with
      | nil => simp
      | cons c extra =>
          -- The word would go on with white space.
          have hc : c ∈ blanks := ((List.prefix_append_right_inj t).mp hfront).subset (by simp)
          have hblank := hblanks c hc
          rw [hword c (by simp)] at hblank
          cases hblank
  · intro hfront
    exact hfront.trans (List.prefix_append t blanks)

end Blanks

/-! ## Trimming -/

/-- Trimming takes off white space and nothing else. -/
theorem exists_eq_append_strip (t : Text) :
    ∃ front back, t = front ++ (strip t ++ back) ∧ (∀ c ∈ front, isBlank c = true) ∧
      ∀ c ∈ back, isBlank c = true := by
  refine ⟨t.takeWhile isBlank, (stripLeft t).rtakeWhile isBlank, ?_, ?_, ?_⟩
  · have hright : strip t ++ (stripLeft t).rtakeWhile isBlank = stripLeft t :=
      List.rdropWhile_append_rtakeWhile
    rw [hright]
    exact List.takeWhile_append_dropWhile.symm
  · intro c hc
    exact List.mem_takeWhile_imp hc
  · intro c hc
    exact List.mem_rtakeWhile_imp hc

theorem strip_subset (t : Text) : strip t ⊆ t := by
  obtain ⟨front, back, hsplit, -, -⟩ := exists_eq_append_strip t
  intro c hc
  rw [hsplit]
  simp [hc]

theorem strip_stripRight (t : Text) : strip (stripRight t) = strip t := by
  have hsplit : stripRight t ++ t.rtakeWhile isBlank = t := List.rdropWhile_append_rtakeWhile
  have hstrip : strip (stripRight t ++ t.rtakeWhile isBlank) = strip (stripRight t) := by
    apply strip_append_blank
    intro c hc
    exact List.mem_rtakeWhile_imp hc
  rw [← hstrip, hsplit]

theorem count_strip {c : Char} (hc : isBlank c = false) (t : Text) :
    (strip t).count c = t.count c := by
  obtain ⟨front, back, hsplit, hfront, hback⟩ := exists_eq_append_strip t
  have hnone {blanks : Text} (hblanks : ∀ c ∈ blanks, isBlank c = true) :
      blanks.count c = 0 := by
    rw [List.count_eq_zero]
    intro hmem
    rw [hblanks c hmem] at hc
    cases hc
  calc
    (strip t).count c = (front ++ (strip t ++ back)).count c := by
      simp [List.count_append, hnone hfront, hnone hback]
    _ = t.count c := by rw [← hsplit]

end Text

open Text

/-! ## Blocks -/

namespace Block

theorem opens_strip (keyword line : Text) : opens keyword (strip line) = opens keyword line := by
  rw [opens, opens, strip_strip]

theorem balance_strip (line : Text) : balance (strip line) = balance line := by
  rw [balance, balance, count_strip (by decide), count_strip (by decide)]

theorem track_strip (keyword : Text) (depth : Option Int) (line : Text) :
    track keyword depth (strip line) = track keyword depth line := by
  simp only [track, opens_strip, balance_strip]

theorem contains_strip (keyword : Text) (before : List Text) (line : Text) :
    contains keyword (before.map strip) (strip line) = contains keyword before line := by
  have htrack : (fun depth line => track keyword depth (strip line)) = track keyword := by
    funext depth line
    exact track_strip keyword depth line
  rw [contains, contains, List.foldl_map, htrack, balance_strip]

end Block

theorem BlockScope.around_strip (before : List Text) (line : Text) :
    around (before.map strip) (strip line) = around before line := by
  simp only [around, Block.contains_strip]

/-- Lines that are the same once trimmed stand in the same blocks. -/
theorem BlockScope.around_congr {lines others : List Text}
    (hlines : lines.map strip = others.map strip) (i : Nat) (hi : i < lines.length)
    (hi' : i < others.length) :
    around (lines.take i) lines[i] = around (others.take i) others[i] := by
  have hbefore : (lines.take i).map strip = (others.take i).map strip := by
    rw [List.map_take, List.map_take, hlines]
  have hline : strip lines[i] = strip others[i] := by
    simpa [hi, hi'] using congrArg (·[i]?) hlines
  rw [← around_strip, hbefore, hline, around_strip]

/-! ## Declared types -/

namespace Completion

/-- The name that a word declares in a line whose leading white space is gone. -/
def declaredBy? (word body : Text) : Option Text :=
  if word.isPrefixOf body then
    match body.drop word.length with
    | [] => none
    | gap :: rest => if isBlank gap then leadingIdentifier? (stripLeft rest) else none
  else none

theorem declaredName?_eq (line : Text) :
    declaredName? line = declarationWords.findSome? (declaredBy? · (stripLeft line)) := rfl

theorem not_isBlank_of_mem_declarationWords {word : Text} (hword : word ∈ declarationWords) :
    ∀ c ∈ word, isBlank c = false := by
  have hwords : ∀ word ∈ declarationWords, word.any isBlank = false := by decide +kernel
  simpa using hwords word hword

section Blanks

variable {blanks : Text} (hblanks : ∀ c ∈ blanks, isBlank c = true)

include hblanks

theorem leadingIdentifier?_append_blank (t : Text) :
    leadingIdentifier? (t ++ blanks) = leadingIdentifier? t := by
  cases t with
  | nil =>
      cases blanks with
      | nil => rfl
      | cons c rest =>
          have hc := startsIdentifier_of_isBlank (hblanks c List.mem_cons_self)
          simp [leadingIdentifier?, hc]
  | cons c t =>
      rw [List.cons_append, leadingIdentifier?, leadingIdentifier?,
        leadingWord_append_blank hblanks]

theorem declaredBy?_append_blank {word : Text} (hword : ∀ c ∈ word, isBlank c = false)
    (body : Text) : declaredBy? word (body ++ blanks) = declaredBy? word body := by
  rw [declaredBy?, declaredBy?, isPrefixOf_append_blank hblanks hword]
  split
  next hfront =>
    have hlength := (List.isPrefixOf_iff_prefix.mp hfront).length_le
    rw [List.drop_append_of_le_length hlength]
    cases body.drop word.length with
    | nil =>
        -- Behind the word is nothing but white space.
        cases blanks with
        | nil => rfl
        | cons gap rest =>
            have hrest : stripLeft rest = [] :=
              List.dropWhile_eq_nil_iff.mpr fun c hc => hblanks c (List.mem_cons_of_mem _ hc)
            simp [hrest, leadingIdentifier?]
    | cons gap rest =>
        have hname : leadingIdentifier? (stripLeft (rest ++ blanks)) =
            leadingIdentifier? (stripLeft rest) := by
          rw [stripLeft_append_blank hblanks]
          split
          next hempty => rw [hempty]
          next => exact leadingIdentifier?_append_blank hblanks _
        rw [List.cons_append]
        simp only [hname]
  next => rfl

theorem declaredName?_append_blank (line : Text) :
    declaredName? (line ++ blanks) = declaredName? line := by
  rw [declaredName?_eq, declaredName?_eq, stripLeft_append_blank hblanks]
  split
  next hempty => rw [hempty]
  next =>
    rw [← List.head?_filterMap, ← List.head?_filterMap]
    congr 1
    apply List.filterMap_congr
    intro word hword
    exact declaredBy?_append_blank hblanks (not_isBlank_of_mem_declarationWords hword) _

end Blanks

/-- White space at the edges of a line does not change what the line declares. -/
theorem declaredName?_strip (line : Text) : declaredName? (strip line) = declaredName? line := by
  obtain ⟨front, back, hsplit, hfront, hback⟩ := exists_eq_append_strip line
  calc
    declaredName? (strip line) = declaredName? (strip line ++ back) :=
      (declaredName?_append_blank hback _).symm
    _ = declaredName? (front ++ (strip line ++ back)) := by
      rw [declaredName?_eq, declaredName?_eq, stripLeft_blank_append hfront]
    _ = declaredName? line := by rw [← hsplit]

/-- Lines that are the same once trimmed declare the same types. -/
theorem declaredNames_congr {lines others : List Text}
    (hlines : lines.map strip = others.map strip) :
    declaredNames lines = declaredNames others := by
  have hname : declaredName? ∘ strip = declaredName? := funext declaredName?_strip
  have hnames (lines : List Text) :
      lines.filterMap declaredName? = (lines.map strip).filterMap declaredName? := by
    rw [List.filterMap_map, hname]
  rw [declaredNames, declaredNames, hnames lines, hnames others, hlines]

end Completion

end SchemaDesk

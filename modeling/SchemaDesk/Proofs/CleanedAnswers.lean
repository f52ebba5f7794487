import Mathlib.Data.Bool.AllAny
import SchemaDesk.Assistant.Answer
import SchemaDesk.Proofs.LineEdges

/-!
# Cleaned answers

What is inserted of an answer is a part of it, in one piece. A fence around the code makes no
difference, whatever its language tag, and of an answer that repeats the line so far exactly
the repetition is taken off.
-/

namespace SchemaDesk.Answer

/-- The character that fences are made of. -/
def backquote : Char := Char.ofNat 0x60

theorem mem_fence_iff {c : Char} : c ∈ fence ↔ c = backquote := by
  simp [fence, backquote]

theorem isTagChar_iff {c : Char} :
    isTagChar c = true ↔ c.isAlphanum = true ∨ c = '_' ∨ c = '-' := by
  have hupper : c.isUpper = decide ('A' ≤ c ∧ c ≤ 'Z') := rfl
  have hlower : c.isLower = ('a' ≤ c && c ≤ 'z') := rfl
  have hdigit : c.isDigit = ('0' ≤ c && c ≤ '9') := rfl
  have halphanum : c.isAlphanum = (c.isUpper || c.isLower || c.isDigit) := rfl
  simp only [isTagChar, halphanum, hupper, hlower, hdigit, Bool.or_eq_true, Bool.and_eq_true,
    decide_eq_true_eq, beq_iff_eq]
  tauto

/-! ## Pieces -/

theorem fenced?_isInfix {t inside : Text} (hinside : fenced? t = some inside) :
    inside <:+: t := by
  simp only [fenced?] at hinside
  split_ifs at hinside with hfence
  split at hinside
  · next part hpart =>
    simp only [Option.ite_none_right_eq_some, Option.some.injEq] at hinside
    obtain ⟨-, rfl⟩ := hinside
    have hfront : Text.stripRight part <+: part := List.rdropWhile_prefix Text.isBlank part
    have hrest : '\n' :: part <:+ t := by
      rw [← hpart]
      exact ((List.dropWhile_suffix _).trans (List.drop_suffix _ _)).trans
        (List.dropWhile_suffix _)
    exact ((List.take_prefix _ _).trans hfront).isInfix.trans
      ((List.suffix_cons _ _).trans hrest).isInfix
  · cases hinside

theorem withoutRepetition_isSuffix (before t : Text) : withoutRepetition before t <:+ t := by
  simp only [withoutRepetition]
  split_ifs
  · exact (List.drop_suffix _ _).trans (List.dropWhile_suffix _)
  · exact List.suffix_rfl

/-- Without carriage returns and not blank, an answer is cleaned in three steps. -/
theorem clean_of_not_allBlank {before t : Text} (hreturn : '\r' ∉ t)
    (hblank : Text.allBlank t = false) :
    clean before t =
      ((withoutRepetition before ((fenced? t).getD t)).dropWhile (· == '\n')).take limit := by
  have hfilter : t.filter (· != '\r') = t := by
    rw [List.filter_eq_self]
    intro c hc
    simpa using fun heq : c = '\r' => hreturn (heq ▸ hc)
  simp [clean, hfilter, hblank]

theorem clean_isInfix (before answer : Text) :
    clean before answer <:+: answer.filter (· != '\r') := by
  generalize hkept : answer.filter (· != '\r') = kept
  simp only [clean, hkept]
  split_ifs
  · exact List.nil_infix
  have hinside : (fenced? kept).getD kept <:+: kept := by
    cases hfenced : fenced? kept with
    | none => exact List.infix_rfl
    | some inside => exact fenced?_isInfix hfenced
  have hrest := (List.dropWhile_suffix (· == '\n')).trans
    (withoutRepetition_isSuffix before ((fenced? kept).getD kept))
  exact ((List.take_prefix limit _).isInfix.trans hrest.isInfix).trans hinside

theorem head?_clean_ne (before answer : Text) : (clean before answer).head? ≠ some '\n' := by
  simp only [clean]
  split_ifs
  · simp
  generalize withoutRepetition before _ = t
  intro hhead
  have hfeed := List.head?_dropWhile_not (· == '\n') t
  rw [List.head?_take, if_neg (by decide)] at hhead
  rw [hhead] at hfeed
  cases hfeed

theorem length_clean_le (before answer : Text) : (clean before answer).length ≤ limit := by
  simp only [clean]
  split_ifs
  · simp
  · exact List.length_take_le _ _

/-- What may be inserted of an answer: a piece of it, without carriage returns, that begins on
its first line and is not too long. -/
structure IsPiece (answer piece : Text) : Prop where
  no_return : '\r' ∉ piece
  no_feed : piece.head? ≠ some '\n'
  short : piece.length ≤ 2400
  isInfix : piece <:+: answer.filter (· != '\r')

theorem isPiece_clean (before answer : Text) : IsPiece answer (clean before answer) where
  no_return hmem := by simpa using (clean_isInfix before answer).subset hmem
  no_feed := head?_clean_ne before answer
  short := length_clean_le before answer
  isInfix := clean_isInfix before answer

/-! ## Fences -/

/-- A text between two fences, of which the first has a language tag. -/
def inFence (tag body : Text) : Text :=
  fence ++ (tag ++ '\n' :: (body ++ '\n' :: fence))

theorem fenced?_eq_none {t : Text} (hquote : backquote ∉ t) : fenced? t = none := by
  unfold fenced?
  rw [if_neg]
  intro hprefix
  have hmem : backquote ∈ Text.stripLeft t :=
    (List.isPrefixOf_iff_prefix.mp hprefix).subset (mem_fence_iff.mpr rfl)
  exact hquote (List.dropWhile_subset _ hmem)

theorem fenced?_inFence {tag : Text} (htag : ∀ c ∈ tag, isTagChar c = true) (body : Text) :
    fenced? (inFence tag body) = some body := by
  have hleft : Text.stripLeft (inFence tag body) = inFence tag body := rfl
  have hopens : fence.isPrefixOf (inFence tag body) = true :=
    List.isPrefixOf_iff_prefix.mpr (List.prefix_append _ _)
  have htagged : ((inFence tag body).drop fence.length).dropWhile isTagChar =
      '\n' :: (body ++ '\n' :: fence) := by
    rw [inFence, List.drop_left, List.dropWhile_append_of_pos htag]
    rfl
  -- The closing fence is no white space, so nothing is trimmed behind it.
  have hright : Text.stripRight (body ++ '\n' :: fence) = body ++ '\n' :: fence := by
    rw [Text.stripRight, List.reverse_append]
    change (('\n' :: fence).reverse ++ body.reverse).reverse = _
    rw [← List.reverse_append, List.reverse_reverse]
  have hcloses : ('\n' :: fence).isSuffixOf (body ++ '\n' :: fence) = true :=
    List.isSuffixOf_iff_suffix.mpr (List.suffix_append _ _)
  simp only [fenced?, hleft, hopens, htagged, hright, hcloses, if_true, List.length_append,
    Nat.add_sub_cancel, List.take_left]

/-- Code is inserted in the same way with a fence around it and without. -/
theorem clean_inFence (before : Text) {tag body : Text} (htag : ∀ c ∈ tag, isTagChar c = true)
    (hblank : Text.allBlank body = false) (hquote : backquote ∉ body) (hreturn : '\r' ∉ body) :
    clean before (inFence tag body) = clean before body := by
  have hfenced : Text.allBlank (inFence tag body) = false := rfl
  have hreturns : '\r' ∉ inFence tag body := by
    have htagged : '\r' ∉ tag := fun hmem => absurd (htag _ hmem) (by decide)
    simp [inFence, mem_fence_iff, htagged, hreturn, backquote]
  rw [clean_of_not_allBlank hreturns hfenced, clean_of_not_allBlank hreturn hblank,
    fenced?_inFence htag, fenced?_eq_none hquote]
  rfl

/-! ## Repetitions -/

theorem withoutRepetition_append {before : Text} (hbefore : Text.strip before ≠ [])
    (rest : Text) : withoutRepetition before (Text.strip before ++ rest) = rest := by
  obtain ⟨c, line, hstrip⟩ := List.exists_cons_of_ne_nil hbefore
  have hleft : Text.stripLeft (c :: line ++ rest) = c :: line ++ rest :=
    List.dropWhile_cons_of_neg (by simp [Text.isBlank_eq_false_of_strip hstrip])
  simp only [withoutRepetition, hstrip, hleft]
  simp

/-- Behind a repetition of the line so far, everything is inserted. -/
theorem clean_repetition {before rest : Text} (hbefore : Text.strip before ≠ [])
    (hquote : backquote ∉ Text.strip before ++ rest)
    (hreturn : '\r' ∉ Text.strip before ++ rest) :
    clean before (Text.strip before ++ rest) = (rest.dropWhile (· == '\n')).take limit := by
  have hblank : Text.allBlank (Text.strip before ++ rest) = false := by
    obtain ⟨c, line, hstrip⟩ := List.exists_cons_of_ne_nil hbefore
    simp [hstrip, Text.allBlank, Text.isBlank_eq_false_of_strip hstrip]
  rw [clean_of_not_allBlank hreturn hblank, fenced?_eq_none hquote, Option.getD_none,
    withoutRepetition_append hbefore]

/-- Of every answer a piece is inserted. A fence around it, with any language tag, makes no
difference, and neither does a repetition of the line so far. -/
theorem clean_is_transparent (before : Text) :
    (∀ answer, IsPiece answer (clean before answer)) ∧
    (∀ tag body, (∀ c ∈ tag, c.isAlphanum = true ∨ c = '_' ∨ c = '-') →
      Text.allBlank body = false → backquote ∉ body → '\r' ∉ body →
      clean before (inFence tag body) = clean before body) ∧
    (∀ rest, Text.strip before ≠ [] → backquote ∉ Text.strip before ++ rest →
      '\r' ∉ Text.strip before ++ rest →
      clean before (Text.strip before ++ rest) =
        (rest.dropWhile (· == '\n')).take 2400) := by
  refine ⟨isPiece_clean before, ?_, ?_⟩
  · intro tag body htag hblank hquote hreturn
    exact clean_inFence before (fun c hc => isTagChar_iff.mpr (htag c hc)) hblank hquote hreturn
  · intro rest hbefore hquote hreturn
    exact clean_repetition hbefore hquote hreturn

theorem clean_model_line :
    clean "  model A ".toList (inFence "sql-2".toList "id Int".toList) = "id Int".toList ∧
      clean "  model A ".toList "model A\n\n\x7b\n".toList = "\x7b\n".toList := by
  obtain ⟨-, hfence, hrepeat⟩ := clean_is_transparent "  model A ".toList
  refine ⟨?_, ?_⟩
  · have htag : ∀ c ∈ "sql-2".toList, c.isAlphanum = true ∨ c = '_' ∨ c = '-' :=
      List.all_iff_forall_prop.mp (by decide +kernel)
    have hbody := hfence "sql-2".toList "id Int".toList htag (by decide +kernel)
      (by decide +kernel) (by decide +kernel)
    exact hbody.trans (by decide +kernel)
  · have hline := hrepeat "\n\n\x7b\n".toList (by decide +kernel) (by decide +kernel)
      (by decide +kernel)
    exact hline.trans (by decide +kernel)

end SchemaDesk.Answer

import SchemaDesk.Proofs.CompletionOffers
import SchemaDesk.Proofs.CursorSigns
import SchemaDesk.Proofs.OfferedTypes

/-!
# Signs that exclude each other

Before a cursor there is no more than one sign of what is typed next: the first word of a line,
the type of a field, an attribute or a value. The first two leave no room for a mark, and of the
other two the mark that was typed last tells which it is. So the rules that look for them can be
tried in any order. On a line that ends in a line feed the first two signs can meet.
-/

namespace SchemaDesk

namespace Cues

open Text

/-! ## The last mark -/

theorem getLast?_stripRight_append {c : Char} (hc : isBlank c = false) {blanks : Text}
    (hblanks : ∀ d ∈ blanks, isBlank d = true) (front : Text) :
    (stripRight (front ++ c :: blanks)).getLast? = some c := by
  have hsplit : front ++ c :: blanks = (front ++ [c]) ++ blanks := by simp
  have hright : stripRight ((front ++ [c]) ++ blanks) = (front ++ [c]).rdropWhile isBlank :=
    rdropWhile_append_of_pos hblanks
  rw [hsplit, hright, List.rdropWhile_concat_neg _ _ _ (by simp [hc]), List.getLast?_concat]

theorem eq_append_of_suffix_strip {t : Text} {c : Char} (hsuffix : [c] <:+ strip t) :
    ∃ front blanks, t = front ++ c :: blanks ∧ ∀ d ∈ blanks, isBlank d = true := by
  obtain ⟨indent, blanks, hsplit, -, hblanks⟩ := exists_eq_append_strip t
  obtain ⟨front, hfront⟩ := hsuffix
  refine ⟨indent ++ front, blanks, ?_, hblanks⟩
  rw [← hfront] at hsplit
  simpa using hsplit

theorem exists_eq_dropFinalFeed_append (t : Text) :
    ∃ feed, t = dropFinalFeed t ++ feed ∧ ∀ c ∈ feed, isBlank c = true := by
  unfold dropFinalFeed
  split
  next hlast =>
    refine ⟨['\n'], (List.dropLast_append_getLast? _ hlast).symm, ?_⟩
    simp only [List.forall_mem_singleton]
    decide
  next => exact ⟨[], by simp, by simp⟩

/-- Behind the equals sign that ends a text there is white space alone. -/
theorem eq_append_of_beforeEquals? {t head : Text} (hhead : beforeEquals? t = some head) :
    ∃ blanks, t = head ++ '=' :: blanks ∧ ∀ c ∈ blanks, isBlank c = true := by
  obtain ⟨feed, hsplit, hfeed⟩ := exists_eq_dropFinalFeed_append t
  unfold beforeEquals? at hhead
  split at hhead
  next rest hdrop =>
    obtain rfl := Option.some.inj hhead
    set spaces := (dropFinalFeed t).reverse.takeWhile (· == ' ')
    have hreverse : spaces ++ '=' :: rest = (dropFinalFeed t).reverse := by
      rw [← hdrop]
      exact List.takeWhile_append_dropWhile
    have hbody : dropFinalFeed t = rest.reverse ++ '=' :: spaces.reverse := by
      rw [← List.reverse_reverse (dropFinalFeed t), ← hreverse]
      simp
    refine ⟨spaces.reverse ++ feed, ?_, ?_⟩
    · rw [hsplit, hbody]
      simp
    · intro c hc
      rcases List.mem_append.mp hc with hc | hc
      · have hspace := List.mem_takeWhile_imp (List.mem_reverse.mp hc)
        rw [beq_iff_eq.mp hspace]
        decide
      · exact hfeed c hc
  next => cases hhead

theorem valueText_cases (before : Text) (trigger : Option Text) :
    valueText before trigger = before ∨ before = valueText before trigger ++ ['"'] := by
  unfold valueText
  split
  next hquote => exact .inr (List.dropLast_append_getLast? _ hquote.2).symm
  next => exact .inl rfl

section

variable {before : Text} {trigger : Option Text}

/-- The last mark before a cursor behind an at sign is that sign. -/
theorem getLast?_of_afterAtSign (hat : (read before trigger).afterAtSign = true) :
    '@' ∈ before ∧ (stripRight before).getLast? = some '@' := by
  have hsuffix : ['@'] <:+ strip before := List.isSuffixOf_iff_suffix.mp hat
  obtain ⟨front, blanks, rfl, hblanks⟩ := eq_append_of_suffix_strip hsuffix
  exact ⟨by simp, getLast?_stripRight_append (by decide) hblanks front⟩

/-- The last mark before a cursor behind an equals sign is that sign, or a quote that was typed
behind it. -/
theorem getLast?_of_afterEquals (hequals : (read before trigger).afterEquals = true) :
    '=' ∈ before ∧
      ((stripRight before).getLast? = some '=' ∨ (stripRight before).getLast? = some '"') := by
  obtain ⟨head, hhead⟩ := Option.isSome_iff_exists.mp hequals
  obtain ⟨blanks, hvalue, hblanks⟩ := eq_append_of_beforeEquals? hhead
  rcases valueText_cases before trigger with hsame | hquote
  · rw [hsame] at hvalue
    rw [hvalue]
    exact ⟨by simp, .inl (getLast?_stripRight_append (by decide) hblanks head)⟩
  · rw [hquote]
    exact ⟨by simp [hvalue], .inr (getLast?_stripRight_append (by decide) (by simp) _)⟩

theorem not_afterEquals_of_afterAtSign (hat : (read before trigger).afterAtSign = true) :
    (read before trigger).afterEquals = false := by
  apply Bool.eq_false_iff.mpr
  intro hequals
  have hlast := (getLast?_of_afterEquals hequals).2
  rw [(getLast?_of_afterAtSign hat).2] at hlast
  exact absurd hlast (by decide)

/-! ## Lines without a mark -/

/-- No first word of a line and no type of a field is typed behind a mark. -/
theorem shapes_of_mark {c : Char} (hmark : IsMark c) (hmem : c ∈ before) :
    (read before trigger).atLineStart = false ∧ (read before trigger).inTypePosition = false :=
  ⟨isLineStart_of_mark hmark hmem, isTypePosition_of_mark hmark hmem⟩

theorem shapes_of_afterAtSign (hat : (read before trigger).afterAtSign = true) :
    (read before trigger).atLineStart = false ∧ (read before trigger).inTypePosition = false :=
  shapes_of_mark (by decide) (getLast?_of_afterAtSign hat).1

theorem shapes_of_afterEquals (hequals : (read before trigger).afterEquals = true) :
    (read before trigger).atLineStart = false ∧ (read before trigger).inTypePosition = false :=
  shapes_of_mark (by decide) (getLast?_of_afterEquals hequals).1

theorem shapes_of_insideDefault (hinside : (read before trigger).insideDefault = true) :
    (read before trigger).atLineStart = false ∧ (read before trigger).inTypePosition = false := by
  by_cases hat : '@' ∈ before
  · exact shapes_of_mark (by decide) hat
  · rw [insideDefault_read hat] at hinside
    cases hinside

theorem not_inTypePosition_of_atLineStart (hfeed : '\n' ∉ before)
    (hstart : (read before trigger).atLineStart = true) :
    (read before trigger).inTypePosition = false := by
  apply Bool.eq_false_iff.mpr
  intro htype
  obtain ⟨indent, name, rfl, -, -⟩ :=
    (isLineStart_and_isTypePosition_iff before).mp ⟨hstart, htype⟩
  exact hfeed (by simp)

theorem afterAtSign_of_afterDoubleAtSign
    (hdouble : (read before trigger).afterDoubleAtSign = true) :
    (read before trigger).afterAtSign = true := by
  have hsuffix : ['@', '@'] <:+ strip before := List.isSuffixOf_iff_suffix.mp hdouble
  exact List.isSuffixOf_iff_suffix.mpr ((List.suffix_cons '@' ['@']).trans hsuffix)

theorem afterEquals_of_property_ne_nil (hproperty : (read before trigger).property ≠ []) :
    (read before trigger).afterEquals = true := by
  cases hhead : beforeEquals? (valueText before trigger) with
  | none => simp [read, hhead] at hproperty
  | some head => simp [read, hhead]

end

theorem count_true_le_one {signs : List Bool}
    (hexclusive : signs.Pairwise fun sign other => sign = true → other = false) :
    signs.count true ≤ 1 := by
  induction signs with
  | nil => decide
  | cons sign signs ih =>
      obtain ⟨hsign, hsigns⟩ := List.pairwise_cons.mp hexclusive
      cases sign with
      | false => simpa using ih hsigns
      | true =>
          have hnone : signs.count true = 0 := by
            rw [List.count_eq_zero]
            intro hmem
            exact absurd (hsign true hmem rfl) (by decide)
          simp [hnone]

/-- The signs of a text without line feeds exclude each other. -/
theorem pairwise_exclusive {before : Text} (hfeed : '\n' ∉ before) (trigger : Option Text) :
    [(read before trigger).atLineStart, (read before trigger).inTypePosition,
      (read before trigger).afterAtSign, (read before trigger).afterEquals].Pairwise
        fun sign other => sign = true → other = false := by
  have hshapes {sign : Bool} (h : sign = true → (read before trigger).atLineStart = false ∧
      (read before trigger).inTypePosition = false) :
      ((read before trigger).atLineStart = true → sign = false) ∧
        ((read before trigger).inTypePosition = true → sign = false) := by
    cases sign <;> simp_all
  have hat := hshapes fun h : (read before trigger).afterAtSign = true => shapes_of_afterAtSign h
  have hequals := hshapes fun h : (read before trigger).afterEquals = true =>
    shapes_of_afterEquals h
  simp only [List.pairwise_cons, List.forall_mem_cons]
  exact ⟨⟨not_inTypePosition_of_atLineStart hfeed, hat.1, hequals.1, by simp⟩,
    ⟨hat.2, hequals.2, by simp⟩, ⟨not_afterEquals_of_afterAtSign, by simp⟩, by simp⟩

end Cues

namespace Completion

/-! ## The order of the rules -/

/-- Of tests that exclude each other the first one to succeed is the same in any order. -/
theorem findSome?_eq_of_perm {α β : Type} {f : α → Option β} {order other : List α}
    (hperm : order.Perm other)
    (hexclusive : order.Pairwise fun a b => f a = none ∨ f b = none) :
    order.findSome? f = other.findSome? f := by
  induction hperm with
  | nil => rfl
  | cons a _ ih =>
      rw [List.findSome?_cons, List.findSome?_cons, ih (List.pairwise_cons.mp hexclusive).2]
  | swap a b rest =>
      rcases (List.pairwise_cons.mp hexclusive).1 a List.mem_cons_self with h | h <;>
        simp only [List.findSome?_cons, h]
  | trans hfirst _ ih₁ ih₂ =>
      have hmiddle := (hfirst.pairwise_iff fun h => Or.symm h).mp hexclusive
      exact (ih₁ hexclusive).trans (ih₂ hmiddle)

theorem chooseBy_congr {context : CompletionContext} {lines : List Text} {order other : List Rule}
    (hsame : order.findSome? (Rule.part? context lines) =
      other.findSome? (Rule.part? context lines)) (first last : List Rule) :
    chooseBy (first ++ order ++ last) context lines =
      chooseBy (first ++ other ++ last) context lines := by
  simp only [chooseBy, List.findSome?_append, hsame]

/-- Of the rules for fields, types and attributes one applies at most. -/
theorem pairwise_part? {before : Text} (hfeed : '\n' ∉ before) {trigger : Option Text}
    {context : CompletionContext} (hcues : context.cues = Cues.read before trigger)
    (lines : List Text) :
    [Rule.fields, .types, .attributes].Pairwise fun rule other =>
      rule.part? context lines = none ∨ other.part? context lines = none := by
  have hfields (h : context.cues.atLineStart = false) :
      Rule.fields.part? context lines = none := by
    simp [Rule.part?, h]
  have htypes (h : context.cues.inTypePosition = false) :
      Rule.types.part? context lines = none := by
    simp [Rule.part?, h]
  have hattributes (h : context.cues.afterAtSign = false) :
      Rule.attributes.part? context lines = none := by
    simp [Rule.part?, h]
  have hexclusive := Cues.pairwise_exclusive hfeed trigger
  rw [← hcues] at hexclusive
  simp only [List.pairwise_cons, List.forall_mem_cons] at hexclusive ⊢
  obtain ⟨⟨hstartType, hstartAt, -⟩, ⟨htypeAt, -⟩, -⟩ := hexclusive
  have hpair {sign other : Bool} {first second : Option CatalogPart}
      (hsigns : sign = true → other = false) (hfirst : sign = false → first = none)
      (hsecond : other = false → second = none) : first = none ∨ second = none := by
    cases sign with
    | false => exact .inl (hfirst rfl)
    | true => exact .inr (hsecond (hsigns rfl))
  exact ⟨⟨hpair hstartType hfields htypes, hpair hstartAt hfields hattributes, by simp⟩,
    ⟨hpair htypeAt htypes hattributes, by simp⟩, by simp⟩

/-- Behind a text without line feeds there is at most one of the signs for the start of a line,
the type of a field, an attribute and a value. Inside a default value neither of the first two
is there, two at signs are also one, and a property is named only where a value is typed. So the
rules for fields, types and attributes offer the same in any order. -/
theorem signs_exclusive {before : Text} (hfeed : '\n' ∉ before) (trigger : Option Text) :
    let cues := Cues.read before trigger
    [cues.atLineStart, cues.inTypePosition, cues.afterAtSign, cues.afterEquals].count true ≤ 1 ∧
      (cues.insideDefault = true → cues.atLineStart = false ∧ cues.inTypePosition = false) ∧
      (cues.afterDoubleAtSign = true → cues.afterAtSign = true) ∧
      (cues.property ≠ [] → cues.afterEquals = true) ∧
      ∀ (context : CompletionContext) (lines : List Text) (order : List Rule),
        context.cues = cues → order.Perm [.fields, .types, .attributes] →
          chooseBy (.blocks :: order ++ [.defaults, .properties]) context lines =
            choose context lines := by
  intro cues
  refine ⟨Cues.count_true_le_one (Cues.pairwise_exclusive hfeed trigger),
    Cues.shapes_of_insideDefault, Cues.afterAtSign_of_afterDoubleAtSign,
    Cues.afterEquals_of_property_ne_nil, ?_⟩
  intro context lines order hcues hperm
  have hexclusive := pairwise_part? hfeed hcues lines
  have hsame := findSome?_eq_of_perm hperm.symm hexclusive
  rw [choose_eq_chooseBy]
  exact chooseBy_congr hsame.symm [.blocks] [.defaults, .properties]

/-- A model with a field whose type is being typed behind an ideographic space. -/
def typedLines : List Text :=
  ["model Post \x7b".toList, "\tauthor\u3000Us".toList]

theorem signs_exclusive_typed :
    '\n' ∉ Position.before typedLines ⟨2, 11⟩ ∧
      chooseBy [.blocks, .attributes, .types, .fields, .defaults, .properties]
          (.atPlace typedLines ⟨2, 11⟩ none) typedLines =
        (Catalog.typesWith ["Post".toList], .word) := by
  have hfeed : '\n' ∉ Position.before typedLines ⟨2, 11⟩ := by decide
  obtain ⟨-, -, -, -, horder⟩ := signs_exclusive hfeed none
  have hreversed := horder (.atPlace typedLines ⟨2, 11⟩ none) typedLines
    [.attributes, .types, .fields] rfl (by decide)
  have hnames : declaredNames typedLines = ["Post".toList] := by decide +kernel
  refine ⟨hfeed, hreversed.trans ?_⟩
  rw [← hnames]
  exact choose_types (by decide +kernel) (by decide +kernel) (by decide +kernel)

end Completion

end SchemaDesk

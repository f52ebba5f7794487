import SchemaDesk.Proofs.DefaultValues
import SchemaDesk.Proofs.LineShapes

/-!
# Signs before the cursor

Attributes and default values start with an at sign, so without one before the cursor nothing
points to them. Neither the type of a field nor the value of a property is typed behind one.
Before a value stands the name of its property, and that is the name that is read there,
whatever white space surrounds it and whether or not a quote was typed already.
-/

namespace SchemaDesk.Cues

open Text

/-! ## At signs -/

theorem afterAtSign_read {before : Text} (hat : '@' ∉ before) (trigger : Option Text) :
    (read before trigger).afterAtSign = false := by
  apply Bool.eq_false_iff.mpr
  intro hafter
  have hsuffix : ['@'] <:+ strip before := List.isSuffixOf_iff_suffix.mp hafter
  exact hat (strip_subset before (hsuffix.subset (List.mem_singleton_self _)))

theorem insideDefault_read {before : Text} (hat : '@' ∉ before) (trigger : Option Text) :
    (read before trigger).insideDefault = false := by
  have hnone : lastIndexOf? defaultOpening before = none := by
    rw [lastIndexOf?_eq_none_iff]
    intro hopening
    exact hat (hopening.subset (by decide))
  change insideDefaultParens before = false
  rw [insideDefaultParens, hnone]

/-- Before the type of a field stand words and white space alone. -/
theorem at_not_mem_of_isTypePosition {before : Text} (htype : isTypePosition before = true) :
    '@' ∉ before := by
  intro hat
  rw [isTypePosition_of_mark (by decide) hat] at htype
  cases htype

/-! ## Values -/

/-- The text ends in the name of a property, an equals sign and spaces, and perhaps a quote
that has just been typed; nothing but white space stands before the name. -/
def AwaitsValue (before property : Text) (trigger : Option Text) : Prop :=
  ∃ indent gap spaces quote, before = indent ++ (property ++ (gap ++ '=' :: (spaces ++ quote))) ∧
    (∀ c ∈ indent, isBlank c = true) ∧ IsIdentifier property ∧ (∀ c ∈ gap, isBlank c = true) ∧
    (∀ c ∈ spaces, c = ' ') ∧ (quote = [] ∨ quote = ['"'] ∧ trigger = some ['"'])

section

variable {indent property gap spaces : Text}

theorem getLast?_spaces (front : Text) (hspaces : ∀ c ∈ spaces, c = ' ') {c : Char}
    (hlast : (front ++ '=' :: spaces).getLast? = some c) : c = '=' ∨ c = ' ' := by
  rw [List.getLast?_append_of_ne_nil _ (List.cons_ne_nil _ _)] at hlast
  rcases List.mem_cons.mp (List.mem_of_getLast? hlast) with rfl | hmem
  · exact .inl rfl
  · exact .inr (hspaces c hmem)

theorem valueText_append (front : Text) (hspaces : ∀ c ∈ spaces, c = ' ') {quote : Text}
    {trigger : Option Text} (hquote : quote = [] ∨ quote = ['"'] ∧ trigger = some ['"']) :
    valueText (front ++ '=' :: (spaces ++ quote)) trigger = front ++ '=' :: spaces := by
  rcases hquote with rfl | ⟨rfl, rfl⟩
  · rw [List.append_nil, valueText, if_neg]
    rintro ⟨-, hlast⟩
    rcases getLast?_spaces front hspaces hlast with h | h <;> exact absurd h (by decide)
  · have hsplit : front ++ '=' :: (spaces ++ ['"']) = (front ++ '=' :: spaces) ++ ['"'] := by simp
    rw [hsplit, valueText, if_pos ⟨rfl, List.getLast?_concat⟩, List.dropLast_concat]

theorem beforeEquals?_append (front : Text) (hspaces : ∀ c ∈ spaces, c = ' ') :
    beforeEquals? (front ++ '=' :: spaces) = some front := by
  have hfeed : dropFinalFeed (front ++ '=' :: spaces) = front ++ '=' :: spaces := by
    apply if_neg
    intro hlast
    rcases getLast?_spaces front hspaces hlast with h | h <;> exact absurd h (by decide)
  have hdrop : (front ++ '=' :: spaces).reverse.dropWhile (· == ' ') = '=' :: front.reverse := by
    rw [List.reverse_append, List.reverse_cons, List.append_assoc, List.dropWhile_append_of_pos]
    · rfl
    · simpa using hspaces
  rw [beforeEquals?, hfeed, hdrop]
  simp

theorem stripRight_append_word (front : Text) {word : Text} (hne : word ≠ [])
    (hword : ∀ c ∈ word, isWordChar c = true) (hgap : ∀ c ∈ gap, isBlank c = true) :
    stripRight (front ++ (word ++ gap)) = front ++ word := by
  have hself : (front ++ word).rdropWhile isBlank = front ++ word := by
    rw [List.rdropWhile_eq_self_iff]
    intro hnil hblank
    have hlast : (front ++ word).getLast hnil ∈ word := by
      rw [List.getLast_append_of_ne_nil _ hne]
      exact List.getLast_mem hne
    have hnot := isWordChar_of_isBlank hblank
    rw [hword _ hlast] at hnot
    cases hnot
  rw [← List.append_assoc]
  exact (rdropWhile_append_of_pos hgap).trans hself

theorem trailingIdentifier_append (hindent : ∀ c ∈ indent, isBlank c = true)
    (hproperty : IsIdentifier property) (hgap : ∀ c ∈ gap, isBlank c = true) :
    trailingIdentifier (indent ++ (property ++ gap)) = property := by
  have hrun : EndsInRun isWordChar (indent ++ property) indent property :=
    ⟨rfl, hproperty.isWordChar, fun c hlast =>
      isWordChar_of_isBlank (hindent c (List.mem_of_getLast? hlast))⟩
  rw [trailingIdentifier,
    stripRight_append_word indent hproperty.ne_nil hproperty.isWordChar hgap, trailingWord,
    hrun.takeWhileRight_eq]
  obtain ⟨c, rest, rfl, hc, -⟩ := hproperty
  simp [hc]

end

namespace AwaitsValue

variable {before property : Text} {trigger : Option Text}

theorem at_not_mem (h : AwaitsValue before property trigger) : '@' ∉ before := by
  obtain ⟨indent, gap, spaces, quote, rfl, hindent, hproperty, hgap, hspaces, hquote⟩ := h
  have hblank {t : Text} (ht : ∀ c ∈ t, isBlank c = true) : '@' ∉ t := by
    intro hat
    exact absurd (ht _ hat) (by decide)
  have hname : '@' ∉ property := by
    intro hat
    exact absurd (hproperty.isWordChar _ hat) (by decide)
  have hspace : '@' ∉ spaces := by
    intro hat
    exact absurd (hspaces _ hat) (by decide)
  have hquoted : '@' ∉ quote := by
    rcases hquote with rfl | ⟨rfl, -⟩ <;> decide
  simp [hblank hindent, hblank hgap, hname, hspace, hquoted]

theorem beforeEquals?_eq (h : AwaitsValue before property trigger) :
    ∃ front, beforeEquals? (valueText before trigger) = some front ∧
      trailingIdentifier front = property := by
  obtain ⟨indent, gap, spaces, quote, rfl, hindent, hproperty, hgap, hspaces, hquote⟩ := h
  have hsplit : indent ++ (property ++ (gap ++ '=' :: (spaces ++ quote))) =
      indent ++ (property ++ gap) ++ '=' :: (spaces ++ quote) := by simp
  refine ⟨indent ++ (property ++ gap), ?_, trailingIdentifier_append hindent hproperty hgap⟩
  rw [hsplit, valueText_append _ hspaces hquote, beforeEquals?_append _ hspaces]

theorem afterEquals_read (h : AwaitsValue before property trigger) :
    (read before trigger).afterEquals = true := by
  obtain ⟨front, hfront, -⟩ := h.beforeEquals?_eq
  change (beforeEquals? (valueText before trigger)).isSome = true
  rw [hfront]
  rfl

theorem property_read (h : AwaitsValue before property trigger) :
    (read before trigger).property = property := by
  obtain ⟨front, hfront, hname⟩ := h.beforeEquals?_eq
  change ((beforeEquals? (valueText before trigger)).map trailingIdentifier).getD [] = property
  rw [hfront, Option.map_some, hname]
  rfl

end AwaitsValue

end SchemaDesk.Cues

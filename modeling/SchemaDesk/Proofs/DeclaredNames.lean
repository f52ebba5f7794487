import Mathlib.Data.List.Induction
import Mathlib.Data.List.Nodup
import SchemaDesk.Proofs.LineEdges
import SchemaDesk.Proofs.TextRuns

/-!
# Declared names

A line declares a type if it starts, white space aside, with one of the declaring words, then
white space and an identifier. The names that a document declares are listed once each, in the
order of the lines that declare them first.
-/

namespace SchemaDesk

open Text

namespace Completion

theorem leadingIdentifier?_eq_some_iff {t name : Text} :
    leadingIdentifier? t = some name ↔
      IsIdentifier name ∧ ∃ rest, t = name ++ rest ∧ StopsWord rest := by
  constructor
  · intro hname
    unfold leadingIdentifier? at hname
    split at hname
    next => cases hname
    next c rest =>
      split at hname
      next hc =>
        cases hname
        refine ⟨⟨c, _, rfl, hc, fun d hd => List.mem_takeWhile_imp hd⟩,
          rest.dropWhile isWordChar, ?_, stopsWord_dropWhile rest⟩
        rw [List.cons_append, leadingWord, List.takeWhile_append_dropWhile]
      next => cases hname
  · rintro ⟨⟨c, word, rfl, hc, hword⟩, rest, rfl, hrest⟩
    rw [List.cons_append, leadingIdentifier?, if_pos hc, leadingWord_append hword hrest]

/-- The line declares a type of the name. -/
def Declares (line name : Text) : Prop :=
  ∃ indent word gap rest, line = indent ++ (word ++ (gap ++ (name ++ rest))) ∧
    (∀ c ∈ indent, isBlank c = true) ∧ word ∈ declarationWords ∧
    gap ≠ [] ∧ (∀ c ∈ gap, isBlank c = true) ∧ IsIdentifier name ∧ StopsWord rest

theorem Declares.isIdentifier {line name : Text} (h : Declares line name) : IsIdentifier name := by
  obtain ⟨indent, word, gap, rest, -, -, -, -, -, hidentifier, -⟩ := h
  exact hidentifier

theorem declaredBy?_eq_some_iff {word body name : Text} :
    declaredBy? word body = some name ↔
      ∃ gap rest, body = word ++ (gap ++ (name ++ rest)) ∧ gap ≠ [] ∧
        (∀ c ∈ gap, isBlank c = true) ∧ IsIdentifier name ∧ StopsWord rest := by
  constructor
  · intro hname
    unfold declaredBy? at hname
    split at hname
    next hfront =>
      obtain ⟨behind, rfl⟩ := List.isPrefixOf_iff_prefix.mp hfront
      rw [List.drop_left] at hname
      split at hname
      next => cases hname
      next first more =>
        split at hname
        next hfirst =>
          obtain ⟨hidentifier, rest, hrest, hstops⟩ := leadingIdentifier?_eq_some_iff.mp hname
          refine ⟨first :: more.takeWhile isBlank, rest, ?_, List.cons_ne_nil _ _, ?_,
            hidentifier, hstops⟩
          · rw [← hrest, stripLeft, List.cons_append, List.takeWhile_append_dropWhile]
          · intro c hc
            rcases List.mem_cons.mp hc with rfl | hc
            · exact hfirst
            · exact List.mem_takeWhile_imp hc
        next => cases hname
    next => cases hname
  · rintro ⟨gap, rest, rfl, hne, hgap, hidentifier, hstops⟩
    obtain ⟨first, more, rfl⟩ := List.exists_cons_of_ne_nil hne
    have hstrip : stripLeft (more ++ (name ++ rest)) = name ++ rest := by
      obtain ⟨c, word, rfl, hc, -⟩ := hidentifier
      have hblank : isBlank c = false := by
        cases hblank : isBlank c with
        | false => rfl
        | true =>
            rw [startsIdentifier_of_isBlank hblank] at hc
            cases hc
      rw [stripLeft_blank_append fun d hd => hgap d (List.mem_cons_of_mem _ hd)]
      simp [stripLeft, hblank]
    have hfront : word.isPrefixOf (word ++ (first :: more ++ (name ++ rest))) = true :=
      List.isPrefixOf_iff_prefix.mpr (List.prefix_append _ _)
    rw [declaredBy?, if_pos hfront, List.drop_left, List.cons_append]
    dsimp only
    rw [if_pos (hgap first List.mem_cons_self), hstrip]
    exact leadingIdentifier?_eq_some_iff.mpr ⟨hidentifier, rest, rfl, hstops⟩

/-- A text starts with one declaring word at most. -/
theorem declarationWords_unique {word other body : Text} (hword : word ∈ declarationWords)
    (hother : other ∈ declarationWords) (hfront : word <+: body) (hfront' : other <+: body) :
    word = other := by
  have hwords : ∀ word ∈ declarationWords, ∀ other ∈ declarationWords,
      word.isPrefixOf other = true → word = other := by
    decide
  rcases List.prefix_or_prefix_of_prefix hfront hfront' with h | h
  · exact hwords word hword other hother (List.isPrefixOf_iff_prefix.mpr h)
  · exact (hwords other hother word hword (List.isPrefixOf_iff_prefix.mpr h)).symm

theorem declaredName?_eq_some_iff {line name : Text} :
    declaredName? line = some name ↔ Declares line name := by
  rw [declaredName?_eq]
  constructor
  · intro hname
    obtain ⟨word, hword, hdeclared⟩ := List.exists_of_findSome?_eq_some hname
    obtain ⟨gap, rest, hbody, hne, hgap, hidentifier, hstops⟩ :=
      declaredBy?_eq_some_iff.mp hdeclared
    refine ⟨line.takeWhile isBlank, word, gap, rest, ?_, fun c hc => List.mem_takeWhile_imp hc,
      hword, hne, hgap, hidentifier, hstops⟩
    rw [← hbody, stripLeft, List.takeWhile_append_dropWhile]
  · rintro ⟨indent, word, gap, rest, rfl, hindent, hword, hne, hgap, hidentifier, hstops⟩
    have hdeclared : declaredBy? word (word ++ (gap ++ (name ++ rest))) = some name :=
      declaredBy?_eq_some_iff.mpr ⟨gap, rest, rfl, hne, hgap, hidentifier, hstops⟩
    have hstrip : stripLeft (indent ++ (word ++ (gap ++ (name ++ rest)))) =
        word ++ (gap ++ (name ++ rest)) := by
      have hwords : ∀ word ∈ declarationWords, word.head?.any (fun c => !isBlank c) = true := by
        decide +kernel
      have hhead := hwords word hword
      rw [stripLeft_blank_append hindent]
      cases word with
      | nil => cases hhead
      | cons c word =>
          have hblank : isBlank c = false := by simpa using hhead
          simp [stripLeft, hblank]
    rw [hstrip]
    cases hfound : declarationWords.findSome?
        (declaredBy? · (word ++ (gap ++ (name ++ rest)))) with
    | none =>
        have hnone := List.findSome?_eq_none_iff.mp hfound word hword
        rw [hdeclared] at hnone
        cases hnone
    | some found =>
        -- Only the word that the line starts with declares anything.
        obtain ⟨other, hother, hby⟩ := List.exists_of_findSome?_eq_some hfound
        obtain ⟨gap', rest', hbody, -⟩ := declaredBy?_eq_some_iff.mp hby
        obtain rfl : word = other := declarationWords_unique hword hother (List.prefix_append _ _)
          ⟨_, hbody.symm⟩
        exact hby.symm.trans hdeclared

theorem Declares.unique {line name other : Text} (h : Declares line name)
    (h' : Declares line other) : name = other := by
  rw [← declaredName?_eq_some_iff] at h h'
  exact Option.some.inj (h.symm.trans h')

/-! ## The list of names -/

/-- The names are those that the lines declare, once each, and of two names the first one is
the one that is declared first: before a line that declares the second stands one that
declares the first. -/
structure DeclaredInOrder (lines names : List Text) : Prop where
  nodup : names.Nodup
  mem_iff : ∀ name, name ∈ names ↔ ∃ line ∈ lines, Declares line name
  ordered : names.Pairwise fun name later => ∀ before line after,
    lines = before ++ line :: after → Declares line later → ∃ earlier ∈ before, Declares earlier name

theorem declaredNames_concat_of_none {lines : List Text} {line : Text}
    (hline : declaredName? line = none) :
    declaredNames (lines ++ [line]) = declaredNames lines := by
  simp [declaredNames, hline]

theorem declaredNames_concat_of_some {lines : List Text} {line name : Text}
    (hline : declaredName? line = some name) :
    declaredNames (lines ++ [line]) =
      if name ∈ declaredNames lines then declaredNames lines
      else declaredNames lines ++ [name] := by
  have hlast : [line].filterMap declaredName? = [name] := by simp [hline]
  rw [declaredNames, List.filterMap_append, hlast, List.foldl_append, ← declaredNames]
  rfl

/-- A line with others behind it is the last one, or has others behind it before the last. -/
theorem eq_last_or_exists_of_append {lines before after : List Text} {last line : Text}
    (hsplit : lines ++ [last] = before ++ line :: after) :
    before = lines ∧ line = last ∨ ∃ more, lines = before ++ line :: more := by
  rcases List.eq_nil_or_concat after with rfl | ⟨more, final, rfl⟩
  · obtain ⟨rfl, hlast⟩ := List.append_inj' hsplit rfl
    exact .inl ⟨rfl, (List.cons.inj hlast).1.symm⟩
  · rw [List.concat_eq_append, ← List.cons_append, ← List.append_assoc] at hsplit
    exact .inr ⟨more, (List.append_inj' hsplit rfl).1⟩

namespace DeclaredInOrder

variable {lines names : List Text} (h : DeclaredInOrder lines names) {last : Text}

include h

/-- The order of the names stays, whatever the lines go on with. -/
theorem ordered_concat :
    names.Pairwise fun name later => ∀ before line after,
      lines ++ [last] = before ++ line :: after → Declares line later →
        ∃ earlier ∈ before, Declares earlier name := by
  refine h.ordered.imp_of_mem ?_
  intro name later hname _ horder before line after hsplit hdeclares
  rcases eq_last_or_exists_of_append hsplit with ⟨rfl, -⟩ | ⟨more, hlines⟩
  · exact (h.mem_iff name).mp hname
  · exact horder before line more hlines hdeclares

theorem exists_declares_concat_iff (name : Text) :
    (∃ line ∈ lines ++ [last], Declares line name) ↔ name ∈ names ∨ Declares last name := by
  rw [h.mem_iff]
  simp [or_and_right, exists_or]

/-- A line that declares nothing, or only what is known, adds nothing. -/
theorem concat_known (hlast : ∀ name, Declares last name → name ∈ names) :
    DeclaredInOrder (lines ++ [last]) names := by
  refine ⟨h.nodup, ?_, h.ordered_concat⟩
  intro name
  rw [h.exists_declares_concat_iff, or_iff_left_of_imp (hlast name)]

/-- A line that declares a new name adds it behind the others. -/
theorem concat_new {new : Text} (hlast : Declares last new) (hnew : new ∉ names) :
    DeclaredInOrder (lines ++ [last]) (names ++ [new]) := by
  refine ⟨?_, ?_, ?_⟩
  · rw [← List.concat_eq_append]
    exact List.Nodup.concat hnew h.nodup
  · intro name
    rw [h.exists_declares_concat_iff, List.mem_append, List.mem_singleton]
    refine or_congr_right ⟨?_, fun hname => hname.unique hlast⟩
    rintro rfl
    exact hlast
  · rw [List.pairwise_append]
    refine ⟨h.ordered_concat, List.pairwise_singleton _ _, ?_⟩
    intro name hname later hlater before line after hsplit hdeclares
    rw [List.mem_singleton.mp hlater] at hdeclares
    rcases eq_last_or_exists_of_append hsplit with ⟨rfl, -⟩ | ⟨more, rfl⟩
    · exact (h.mem_iff name).mp hname
    · exact absurd ((h.mem_iff new).mpr ⟨line, by simp, hdeclares⟩) hnew

omit h in
/-- Of two names only one is declared first. -/
theorem not_declares_of_both {name other : Text}
    (hname : ∀ before line after, lines = before ++ line :: after → Declares line other →
      ∃ earlier ∈ before, Declares earlier name)
    (hother : ∀ before line after, lines = before ++ line :: after → Declares line name →
      ∃ earlier ∈ before, Declares earlier other) {line : Text} (hline : line ∈ lines) :
    ¬Declares line name := by
  obtain ⟨before, after, hsplit⟩ := List.append_of_mem hline
  -- Before each line that declares the name stands another one, and there is a first line.
  induction hlength : before.length using Nat.strong_induction_on
    generalizing before line after with
  | _ count ih =>
      intro hdeclares
      obtain ⟨second, hsecond, hdeclares'⟩ := hother before line after hsplit hdeclares
      obtain ⟨front, back, rfl⟩ := List.append_of_mem hsecond
      rw [List.append_assoc, List.cons_append] at hsplit
      obtain ⟨first, hfirst, hdeclares''⟩ := hname front second _ hsplit hdeclares'
      obtain ⟨begin', rest, rfl⟩ := List.append_of_mem hfirst
      rw [List.append_assoc, List.cons_append] at hsplit
      refine ih begin'.length ?_ (hsplit ▸ by simp) begin' _ hsplit rfl hdeclares''
      simp only [← hlength, List.length_append, List.length_cons]
      omega

/-- The names and their order are settled by the lines. -/
theorem unique {others : List Text} (h' : DeclaredInOrder lines others) : names = others := by
  refine List.Perm.eq_of_pairwise ?_ h.ordered h'.ordered
    ((List.perm_ext_iff_of_nodup h.nodup h'.nodup).mpr fun name => ?_)
  · intro name other hname _ hbefore hafter
    obtain ⟨line, hline, hdeclares⟩ := (h.mem_iff name).mp hname
    exact absurd hdeclares (not_declares_of_both hbefore hafter hline)
  · rw [h.mem_iff, h'.mem_iff]

end DeclaredInOrder

theorem declaredInOrder_declaredNames (lines : List Text) :
    DeclaredInOrder lines (declaredNames lines) := by
  induction lines using List.reverseRecOn with
  | nil => exact ⟨List.nodup_nil, by simp [declaredNames], List.Pairwise.nil⟩
  | append_singleton lines last ih =>
      cases hlast : declaredName? last with
      | none =>
          rw [declaredNames_concat_of_none hlast]
          refine ih.concat_known fun name hname => ?_
          rw [← declaredName?_eq_some_iff, hlast] at hname
          cases hname
      | some new =>
          have hnew : Declares last new := declaredName?_eq_some_iff.mp hlast
          rw [declaredNames_concat_of_some hlast]
          split
          next hknown => exact ih.concat_known fun name hname => hname.unique hnew ▸ hknown
          next hunknown => exact ih.concat_new hnew hunknown

end Completion

end SchemaDesk

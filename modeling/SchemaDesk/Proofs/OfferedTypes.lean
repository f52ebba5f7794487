import SchemaDesk.Proofs.CursorSigns
import SchemaDesk.Proofs.KeyOrder
import SchemaDesk.Proofs.DeclaredNames
import SchemaDesk.Proofs.RequestedPlaces

/-!
# Types that are offered

Where the type of a field is typed, every primitive type is offered plain, optional and as a
list, and every type that the document declares is offered once behind them. The entries are
numbered through. As long as their numbers have three digits they are offered in the order of
their numbers; with more, those of four digits come too early.
-/

namespace SchemaDesk

namespace Suggestion

theorem labels_table (tier : Tier) (kind : SuggestionKind)
    (rows : List (String × String × String)) :
    (table tier kind rows).map (·.label) = rows.map (·.1) := by
  apply List.ext_getElem
  · simp [table]
  · intro i hi hi'
    simp [table]

end Suggestion

namespace Catalog

open Suggestion

/-- How the primitive types are written: plain, optional and as a list. -/
def typeVariants : List String :=
  primitiveTypes ++ primitiveTypes.map (· ++ "?") ++ primitiveTypes.map (· ++ "[]")

theorem length_types : types.length = 27 := rfl

/-- The types of a place: the primitive ones, and behind them the named ones. -/
def typesWith (names : List Text) : List Suggestion :=
  types ++ declaredTypes (names.map String.ofList)

theorem length_typesWith (names : List Text) : (typesWith names).length = 27 + names.length := by
  simp [typesWith, length_types, declaredTypes]

theorem labels_typesWith (names : List Text) :
    (typesWith names).map (·.label) = typeVariants ++ names.map String.ofList := by
  have hdeclared : (declaredTypes (names.map String.ofList)).map (·.label) =
      names.map String.ofList := by
    apply List.ext_getElem
    · simp [declaredTypes]
    · intro i hi hi'
      simp [declaredTypes]
  have htypes : types.map (·.label) = typeVariants := by
    rw [types, labels_table]
    simp [typeVariants, Function.comp_def]
  rw [typesWith, List.map_append, htypes, hdeclared]

/-- The keys of the named types go on counting behind the primitive ones. -/
theorem numbered_typesWith (names : List Text) : Numbered .type (typesWith names) := by
  intro i hi
  by_cases htype : i < types.length
  · simp only [typesWith, List.getElem_append_left htype]
    exact numbered_table _ _ _ i htype
  · have hindex : types.length + (i - types.length) = i := by omega
    simp [typesWith, List.getElem_append_right (Nat.le_of_not_lt htype), declaredTypes, hindex]

end Catalog

namespace Completion

open Suggestion Catalog

/-- In a model, behind the first word of a line, the types are offered. -/
theorem choose_types {lines : List Text} {position : Position} {trigger : Option Text}
    (hmodel : (CompletionContext.atPlace lines position trigger).scope.model = true)
    (htype : (CompletionContext.atPlace lines position trigger).cues.inTypePosition = true)
    (hstart : (CompletionContext.atPlace lines position trigger).cues.atLineStart = false) :
    choose (.atPlace lines position trigger) lines =
      (typesWith (declaredNames lines), .word) := by
  have hat : (CompletionContext.atPlace lines position trigger).cues.afterAtSign = false :=
    Cues.afterAtSign_read (Cues.at_not_mem_of_isTypePosition htype) trigger
  simp [choose, BlockScope.isTopLevel, hmodel, htype, hstart, hat, typesWith]

/-- Placed at a range, the types are in the order of their keys exactly if there are no more
than a thousand. -/
theorem ranked_typesWith (names : List Text) (range : TextRange) :
    let listed := (typesWith names).map (·.placedAt range)
    (ranked listed = listed ↔ names.length ≤ 973) ∧
      (973 < names.length → ∃ late early, listed[1000]? = some late ∧
        listed[101]? = some early ∧ [late, early].Sublist (ranked listed)) := by
  intro listed
  have hlength : listed.length = 27 + names.length := by simp [listed, length_typesWith]
  have hnumbered : Numbered .type listed := (numbered_typesWith names).placedAt range
  have hearly (hmany : 973 < names.length) : ∃ late early, listed[1000]? = some late ∧
      listed[101]? = some early ∧ late.sortKey < early.sortKey := by
    have hthousand : 1000 < listed.length := by omega
    have hhundred : 101 < listed.length := by omega
    refine ⟨listed[1000], listed[101], List.getElem?_eq_getElem hthousand,
      List.getElem?_eq_getElem hhundred, ?_⟩
    rw [hnumbered 1000 hthousand, hnumbered 101 hhundred]
    exact key_thousand_lt .type _ _
  refine ⟨⟨?_, ?_⟩, ?_⟩
  · intro hself
    by_contra hmany
    obtain ⟨late, early, hlate, hearly, hlt⟩ := hearly (by omega)
    obtain ⟨hthousand, rfl⟩ := List.getElem?_eq_some_iff.mp hlate
    obtain ⟨hhundred, rfl⟩ := List.getElem?_eq_some_iff.mp hearly
    have hpairwise := pairwise_ranked listed
    rw [hself, List.pairwise_iff_getElem] at hpairwise
    exact String.not_le.mpr hlt (hpairwise 101 1000 hhundred hthousand (by decide))
  · intro hfew
    exact ranked_of_pairwise (hnumbered.pairwise_le (by omega))
  · intro hmany
    obtain ⟨late, early, hlate, hearly, hlt⟩ := hearly hmany
    exact ⟨late, early, hlate, hearly, sublist_ranked (List.mem_of_getElem? hlate)
      (List.mem_of_getElem? hearly) hlt⟩

/-- Where the type of a field is typed, the answer holds one entry for each variant of a
primitive type and one for each type that the document declares, and no other. They are in the
order of the catalog and of the first declarations exactly if no more than 973 names are
declared; with more, the entry of number 1000 stands before that of number 101. -/
theorem types_offered_once {document : Document} {requested : RequestedPosition}
    {trigger : Option Text} {context : CompletionContext}
    (hcontext : CompletionContext.ofRequest document.toLines requested trigger = .ok context)
    (hmodel : context.scope.model = true) (htype : context.cues.inTypePosition = true)
    (hstart : context.cues.atLineStart = false) :
    ∃ items names range, suggest document requested trigger = .ok items ∧
      DeclaredInOrder document.toLines names ∧
        let listed := (typesWith names).map (·.placedAt range)
        listed.map (·.label) = typeVariants ++ names.map String.ofList ∧ items.Perm listed ∧
          (items = listed ↔ names.length ≤ 973) ∧
            (973 < names.length → ∃ late early, listed[1000]? = some late ∧
              listed[101]? = some early ∧ [late, early].Sublist items) := by
  obtain ⟨position, hclamp, rfl⟩ := CompletionContext.ofRequest_eq_ok hcontext
  have hlabels (range : TextRange) : ((typesWith (declaredNames document.toLines)).map
      (·.placedAt range)).map (·.label) = typeVariants ++
        (declaredNames document.toLines).map String.ofList := by
    rw [← labels_typesWith, List.map_map]
    rfl
  refine ⟨_, declaredNames document.toLines,
    tokenRange (.atPlace document.toLines position trigger) .word,
    suggest_of_clamp hclamp trigger, declaredInOrder_declaredNames _, ?_⟩
  rw [answer, choose_types hmodel htype hstart]
  exact ⟨hlabels _, ranked_perm _, ranked_typesWith _ _⟩

/-- A document that declares two types, one of them twice and one named like a primitive type. -/
def declaringDocument : Document :=
  .text "model Json \x7b\n  posts St\n\x7d\n\tview  Café_2(\ntype Json".toList

/-- The end of its second line. -/
def fieldRequest : RequestedPosition :=
  .place (.int 2) (.int 99)

theorem types_offered_declared_twice :
    ∃ context, CompletionContext.ofRequest declaringDocument.toLines fieldRequest none =
        .ok context ∧ context.scope.model = true ∧ context.cues.inTypePosition = true ∧
      context.cues.atLineStart = false ∧
        ∃ items, suggest declaringDocument fieldRequest none = .ok items ∧
          items.map (·.label) = typeVariants ++ ["Json", "Café_2"] := by
  have hclamp : Position.clamp declaringDocument.toLines fieldRequest = .ok ⟨2, 11⟩ := by
    decide +kernel
  have hcontext := CompletionContext.ofRequest_of_clamp hclamp none
  refine ⟨_, hcontext, by decide +kernel, by decide +kernel, by decide +kernel, ?_⟩
  obtain ⟨items, names, range, hitems, hnames, hlabels, -, horder, -⟩ :=
    types_offered_once hcontext (by decide +kernel) (by decide +kernel) (by decide +kernel)
  obtain rfl : names = ["Json".toList, "Café_2".toList] :=
    (hnames.unique (declaredInOrder_declaredNames _)).trans (by decide +kernel)
  refine ⟨items, hitems, ?_⟩
  rw [horder.mpr (by decide), hlabels]
  rfl

end Completion

end SchemaDesk

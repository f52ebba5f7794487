import Mathlib.Data.List.DropRight
import SchemaDesk.Editor.Completion
import SchemaDesk.Proofs.DeclaredNames
import SchemaDesk.Proofs.KeyOrder

/-!
# What is offered

Every offer of an answered request inserts some text, one that a buffer keeps as it is,
and names the token before the cursor as the part of the document that it replaces. All offers
come from the part of the catalog that the first rule has which applies to the place.
-/

namespace SchemaDesk

namespace Suggestion

/-- The template is some text, and a buffer keeps all of it. -/
def Insertable (s : Suggestion) : Prop :=
  s.template.toList ≠ [] ∧ '\r' ∉ s.template.toList

instance (s : Suggestion) : Decidable s.Insertable :=
  inferInstanceAs (Decidable (_ ∧ _))

end Suggestion

/-! ## The catalog -/

namespace Catalog

theorem insertable_of_mem_blockTemplates : ∀ s ∈ blockTemplates, s.Insertable := by
  -- Cut into its lines a template is read much faster than as one text.
  simp only [blockTemplates, List.forall_mem_cons, Suggestion.Insertable, template,
    String.toList_intercalate]
  decide +kernel

/-- The other parts of the catalog that belong to no kind of block. -/
def commonParts : List (List Suggestion) :=
  [fieldSnippets, types, fieldAttributes, blockAttributes, defaultFunctions]

theorem insertable_of_mem_commonParts :
    ∀ part ∈ commonParts, ∀ s ∈ part, s.Insertable := by
  decide +kernel

theorem insertable_of_mem_properties (kind : BlockKind) :
    ∀ s ∈ properties kind, s.Insertable := by
  cases kind <;> decide +kernel

theorem insertable_of_mem_values {kind : BlockKind} {property : String} {s : Suggestion}
    (hs : s ∈ values kind property) : s.Insertable := by
  have hknown : ∀ entry ∈ knownValues kind, ∀ s ∈ entry.2, s.Insertable := by
    cases kind <;> decide +kernel
  unfold values at hs
  split at hs
  next hfind => exact hknown _ (List.mem_of_find?_eq_some hfind) s hs
  next => cases hs

theorem insertable_of_mem_declaredTypes {names : List Text}
    (hnames : ∀ name ∈ names, name ≠ [] ∧ '\r' ∉ name) {s : Suggestion}
    (hs : s ∈ declaredTypes (names.map String.ofList)) : s.Insertable := by
  obtain ⟨index, hindex, rfl⟩ := List.mem_mapIdx.mp hs
  have hmem := List.getElem_mem hindex
  obtain ⟨name, hname, heq⟩ := List.mem_map.mp hmem
  simpa only [Suggestion.Insertable, ← heq, String.toList_ofList] using hnames name hname

end Catalog

namespace Completion

theorem name_of_mem_declaredNames {lines : List Text} {name : Text}
    (hname : name ∈ declaredNames lines) : name ≠ [] ∧ '\r' ∉ name := by
  obtain ⟨line, -, hdeclares⟩ := ((declaredInOrder_declaredNames lines).mem_iff name).mp hname
  have hidentifier := hdeclares.isIdentifier
  refine ⟨hidentifier.ne_nil, ?_⟩
  intro hreturn
  exact absurd (hidentifier.isWordChar _ hreturn) (by decide)

/-! ## Parts of the catalog -/

/-- The parts of the catalog that answers are taken from. -/
inductive CatalogPart where
  | blockTemplates
  | fieldSnippets
  /-- The primitive types, and those that the lines declare. -/
  | types (lines : List Text)
  | fieldAttributes
  | blockAttributes
  | defaultFunctions
  | properties (kind : BlockKind)
  | values (kind : BlockKind) (property : Text)

namespace CatalogPart

/-- The suggestions of the part. -/
def entries : CatalogPart → List Suggestion
  | .blockTemplates => Catalog.blockTemplates
  | .fieldSnippets => Catalog.fieldSnippets
  | .types lines =>
    Catalog.types ++ Catalog.declaredTypes ((declaredNames lines).map String.ofList)
  | .fieldAttributes => Catalog.fieldAttributes
  | .blockAttributes => Catalog.blockAttributes
  | .defaultFunctions => Catalog.defaultFunctions
  | .properties kind => Catalog.properties kind
  | .values kind property => Catalog.values kind (String.ofList property)

/-- The shape of what the suggestions of the part replace. -/
def shape : CatalogPart → TokenShape
  | .fieldAttributes | .blockAttributes => .attribute
  | .values _ _ => .value
  | _ => .word

theorem insertable_of_mem_entries {part : CatalogPart} {s : Suggestion} (hs : s ∈ part.entries) :
    s.Insertable := by
  have hcommon := Catalog.insertable_of_mem_commonParts
  cases part with
  | blockTemplates => exact Catalog.insertable_of_mem_blockTemplates s hs
  | fieldSnippets => exact hcommon _ (by simp [Catalog.commonParts, entries]) s hs
  | types lines =>
      rcases List.mem_append.mp hs with htype | hdeclared
      · exact hcommon Catalog.types (by simp [Catalog.commonParts]) s htype
      · refine Catalog.insertable_of_mem_declaredTypes ?_ hdeclared
        exact fun name hname => name_of_mem_declaredNames hname
  | fieldAttributes => exact hcommon _ (by simp [Catalog.commonParts, entries]) s hs
  | blockAttributes => exact hcommon _ (by simp [Catalog.commonParts, entries]) s hs
  | defaultFunctions => exact hcommon _ (by simp [Catalog.commonParts, entries]) s hs
  | properties kind => exact Catalog.insertable_of_mem_properties kind s hs
  | values kind property => exact Catalog.insertable_of_mem_values hs

end CatalogPart

/-! ## Rules -/

/-- The rules by which a part of the catalog is chosen. -/
inductive Rule where
  | blocks
  | fields
  | types
  | attributes
  | defaults
  | properties
  deriving DecidableEq, Repr

/-- The part of the catalog that a rule has for a place, if the rule applies there. -/
def Rule.part? (context : CompletionContext) (lines : List Text) : Rule → Option CatalogPart
  | .blocks =>
    if context.scope.isTopLevel && startsLikeBlock context.currentLine then some .blockTemplates
    else none
  | .fields =>
    if context.scope.model && context.cues.atLineStart then some .fieldSnippets else none
  | .types =>
    if context.scope.model && !context.cues.afterAtSign && context.cues.inTypePosition then
      some (.types lines)
    else none
  | .attributes =>
    if context.cues.afterAtSign then
      some (if context.cues.afterDoubleAtSign then .blockAttributes else .fieldAttributes)
    else none
  | .defaults => if context.cues.insideDefault then some .defaultFunctions else none
  | .properties =>
    (propertyBlock? context.scope).map fun kind =>
      if context.cues.afterEquals then .values kind context.cues.property else .properties kind

/-- What the first of some rules that applies offers; without any it is nothing. -/
def chooseBy (rules : List Rule) (context : CompletionContext) (lines : List Text) :
    List Suggestion × TokenShape :=
  match rules.findSome? (Rule.part? context lines) with
  | some part => (part.entries, part.shape)
  | none => ([], .word)

/-- The rules are tried one after the other, as they are listed. -/
theorem choose_eq_chooseBy (context : CompletionContext) (lines : List Text) :
    choose context lines =
      chooseBy [.blocks, .fields, .types, .attributes, .defaults, .properties] context lines := by
  unfold choose chooseBy
  simp only [List.findSome?_cons, List.findSome?_nil]
  simp only [Rule.part?]
  split
  next => rfl
  split
  next => rfl
  split
  next => rfl
  split
  next => split <;> rfl
  split
  next => rfl
  cases propertyBlock? context.scope with
  | none => rfl
  | some kind => cases context.cues.afterEquals <;> rfl

/-- Either nothing is offered, or the entries of one part of the catalog, for what has the
shape of that part. -/
theorem choose_cases (context : CompletionContext) (lines : List Text) :
    choose context lines = ([], .word) ∨
      ∃ part : CatalogPart, choose context lines = (part.entries, part.shape) := by
  rw [choose_eq_chooseBy, chooseBy]
  split
  next part _ => exact .inr ⟨part, rfl⟩
  next => exact .inl rfl

/-- Whatever part of the catalog is chosen, all of its suggestions can be inserted. -/
theorem insertable_of_mem_choose {context : CompletionContext} {lines : List Text}
    {s : Suggestion} (hs : s ∈ (choose context lines).1) : s.Insertable := by
  rcases choose_cases context lines with hnone | ⟨part, hpart⟩
  · rw [hnone] at hs
    cases hs
  · rw [hpart] at hs
    exact part.insertable_of_mem_entries hs

/-! ## The token before the cursor -/

theorem length_takeWhileRight_le (p : Char → Bool) (t : Text) :
    (Text.takeWhileRight p t).length ≤ t.length :=
  (List.rtakeWhile_suffix p t).length_le

theorem length_dropFinalFeed_le (t : Text) : (Text.dropFinalFeed t).length ≤ t.length := by
  unfold Text.dropFinalFeed
  split
  · exact (List.dropLast_sublist t).length_le
  · exact Nat.le_refl _

/-- A token is a part of the text that it ends. -/
theorem lengthAtEnd_le (shape : TokenShape) (before : Text) :
    shape.lengthAtEnd before ≤ before.length := by
  refine Nat.le_trans ?_ (length_dropFinalFeed_le before)
  unfold TokenShape.lengthAtEnd
  generalize Text.dropFinalFeed before = t
  cases shape with
  | word => exact length_takeWhileRight_le _ t
  | «attribute» =>
      dsimp only
      have hword := length_takeWhileRight_le Text.isWordChar t
      have hsigns := length_takeWhileRight_le (· == '@')
        (t.take (t.length - (Text.trailingWord t).length))
      rw [List.length_take] at hsigns
      unfold TokenShape.atSigns
      rw [List.length_take]
      unfold Text.trailingWord at hsigns ⊢
      split <;> omega
  | value =>
      dsimp only
      have hbody := length_takeWhileRight_le TokenShape.isValueChar t
      split
      next hquote =>
        have hne :
            t.take (t.length - (Text.takeWhileRight TokenShape.isValueChar t).length) ≠ [] := by
          intro hnil
          rw [hnil] at hquote
          cases hquote
        have hpos := List.length_pos_iff.mpr hne
        rw [List.length_take] at hpos
        omega
      next => exact hbody

theorem one_le_column (lines : List Text) (line column : Int) :
    1 ≤ (Position.clampTo lines line column).column := by
  simp only [Position.clampTo, Position.nearest]
  omega

/-- The token that a request replaces starts at a column of its line. -/
theorem one_le_startColumn {lines : List Text} {position : Position}
    (hcolumn : 1 ≤ position.column) (trigger : Option Text) (shape : TokenShape) :
    1 ≤ (tokenRange (.atPlace lines position trigger) shape).startColumn := by
  have hlength := lengthAtEnd_le shape (position.before lines)
  have hbefore : (position.before lines).length ≤ (position.column - 1).toNat := by
    rw [Position.before, List.length_take]
    exact Nat.min_le_left ..
  simp only [tokenRange, CompletionContext.atPlace]
  omega

/-! ## The answer -/

/-- What an answer consists of. -/
theorem mem_answer {lines : List Text} {position : Position} (hcolumn : 1 ≤ position.column)
    {trigger : Option Text} {s : Suggestion}
    (hs : s ∈ answer (.atPlace lines position trigger) lines) :
    s.Insertable ∧ ∃ range, s.range = some range ∧ 1 ≤ range.startColumn := by
  unfold answer at hs
  dsimp only at hs
  obtain ⟨item, hitem, rfl⟩ := List.mem_map.mp ((ranked_perm _).mem_iff.mp hs)
  have hinsertable : item.Insertable := insertable_of_mem_choose hitem
  exact ⟨hinsertable, _, rfl, one_le_startColumn hcolumn trigger _⟩

end Completion

namespace Offer

/-- An offer for a part of a line, with a template that can be inserted. -/
structure Placed (offer : Offer) (range : TextRange) : Prop where
  range_eq : offer.range = .arr [.int range.line, .int range.startColumn, .int range.endColumn]
  one_le_start : 1 ≤ range.startColumn
  template_ne_nil : offer.template ≠ []
  no_return : '\r' ∉ offer.template
  /-- An offer that is no snippet has no tabstops. -/
  isSnippet_eq : offer.isSnippet = offer.template.contains '$'

theorem placed_ofFields {s : Suggestion} (hs : s.Insertable) {range : TextRange}
    (hrange : s.range = some range) (hstart : 1 ≤ range.startColumn) :
    (ofFields s.toFields).Placed range := by
  have htemplate : (ofFields s.toFields).template = s.template.toList := by
    change ((Json.str s.template.toList).orElse (.str s.label.toList)).lenientText = _
    simp [Json.orElse, Json.lenientText, Json.truthy, hs.1]
  have hsnippet : (ofFields s.toFields).isSnippet = s.template.toList.contains '$' := rfl
  refine ⟨?_, hstart, ?_, ?_, ?_⟩
  · change s.toFields.get "range" = _
    rw [Suggestion.toFields, hrange]
    rfl
  · rw [htemplate]
    exact hs.1
  · rw [htemplate]
    exact hs.2
  · rw [hsnippet, htemplate]

end Offer

end SchemaDesk

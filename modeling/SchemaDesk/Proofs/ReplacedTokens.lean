import SchemaDesk.Proofs.CompletionOffers
import SchemaDesk.Proofs.RequestedPlaces
import SchemaDesk.Proofs.TextRuns

/-!
# The token that suggestions replace

All suggestions of an answer come from one part of the catalog and replace the same piece of
text: what stands directly before the cursor and has the shape of that part's entries, as much
of it as there is. Where no text before the cursor has that shape, they replace nothing.
-/

namespace SchemaDesk

open Text

namespace TokenShape

/-! ## Shapes -/

/-- The texts of the shape. -/
def Matches : TokenShape → Text → Prop
  | .word, t => ∀ c ∈ t, isWordChar c = true
  | .attribute, t =>
    ∃ signs word, (signs = ['@'] ∨ signs = ['@', '@']) ∧ t = signs ++ word ∧
      ∀ c ∈ word, isWordChar c = true
  | .value, t =>
    ∃ quote body, (quote = [] ∨ quote = ['"']) ∧ t = quote ++ body ∧
      ∀ c ∈ body, isWordChar c = true ∨ c = '.' ∨ c = '-'

/-- The token is the longest ending of the text that has the shape, or nothing if no ending
has it. -/
structure IsToken (shape : TokenShape) (before token : Text) : Prop where
  suffix : token <:+ before
  shaped : shape.Matches token ∨ token = [] ∧ ∀ other, other <:+ before → ¬shape.Matches other
  longest : ∀ other, other <:+ before → shape.Matches other → other.length ≤ token.length

theorem isValueChar_iff (c : Char) :
    isValueChar c = true ↔ isWordChar c = true ∨ c = '.' ∨ c = '-' := by
  simp [isValueChar, or_assoc]

theorem isToken_word (t : Text) : IsToken .word t (trailingWord t) := by
  obtain ⟨front, hrun⟩ := exists_endsInRun isWordChar t
  refine ⟨⟨front, hrun.split.symm⟩, .inl hrun.run_all, ?_⟩
  intro other hother hmatches
  exact (hrun.suffix_run hother hmatches).length_le

/-- The signs that an attribute starts with are among the at signs before its word. -/
theorem suffix_of_matches_attribute {t front word signs ending : Text}
    (hword : EndsInRun isWordChar t front word)
    (hsigns : ∃ before, EndsInRun (· == '@') front before signs) (hending : ending <:+ t)
    (hmatches : Matches .attribute ending) :
    ∃ own, (own = ['@'] ∨ own = ['@', '@']) ∧ ending = own ++ word ∧ own <:+ signs := by
  obtain ⟨own, rest, hown, rfl, hrest⟩ := hmatches
  have hat : ∀ c ∈ own, c = '@' := by
    rcases hown with rfl | rfl <;> simp
  have hne : own ≠ [] := by
    rcases hown with rfl | rfl <;> simp
  obtain ⟨rfl, hfront⟩ := hword.of_suffix hending hrest hne fun c hc => by
    rw [hat c hc]
    decide +kernel
  obtain ⟨before, hrun⟩ := hsigns
  exact ⟨own, hown, rfl, hrun.suffix_run hfront fun c hc => by simp [hat c hc]⟩

theorem isToken_attribute {t front word signs : Text} (hword : EndsInRun isWordChar t front word)
    (hsigns : ∃ before, EndsInRun (· == '@') front before signs) :
    IsToken .attribute t (if signs = [] then [] else signs.take 2 ++ word) := by
  have hother {other : Text} (hother : other <:+ t) (hmatches : Matches .attribute other) :=
    suffix_of_matches_attribute hword hsigns hother hmatches
  obtain ⟨before, hrun⟩ := hsigns
  split
  next hnone =>
    have hnot : ∀ other, other <:+ t → ¬Matches .attribute other := by
      intro other hending hmatches
      obtain ⟨own, hown, -, hwithin⟩ := hother hending hmatches
      rw [hnone] at hwithin
      obtain rfl := List.suffix_nil.mp hwithin
      rcases hown with hown | hown <;> cases hown
    exact ⟨List.nil_suffix, .inr ⟨rfl, hnot⟩, fun other hending hmatches =>
      absurd hmatches (hnot other hending)⟩
  next hsome =>
    have hall : signs = List.replicate signs.length '@' := by
      rw [List.eq_replicate_iff]
      exact ⟨rfl, fun c hc => by simpa using hrun.run_all c hc⟩
    have htwo : signs.take 2 = ['@'] ∨ signs.take 2 = ['@', '@'] := by
      have hpos := List.length_pos_iff.mpr hsome
      rw [hall, List.take_replicate]
      rcases Nat.lt_or_ge signs.length 2 with hone | hmore
      · left
        rw [Nat.min_eq_right (by omega), show signs.length = 1 by omega]
        rfl
      · right
        rw [Nat.min_eq_left hmore]
        rfl
    refine ⟨?_, .inl ⟨_, word, htwo, rfl, hword.run_all⟩, ?_⟩
    · -- Of at signs alone the first two are as good as the last two.
      have hlast : signs.take 2 <:+ signs := by
        refine ⟨List.replicate (signs.length - 2) '@', ?_⟩
        conv_lhs => rw [hall]
        conv_rhs => rw [hall]
        rw [List.take_replicate, List.length_replicate, List.replicate_append_replicate]
        congr 1
        omega
      rw [hword.split]
      exact List.suffix_append_self_iff.mpr (hlast.trans ⟨before, hrun.split.symm⟩)
    · intro other hending hmatches
      obtain ⟨own, hown, rfl, hwithin⟩ := hother hending hmatches
      have hlength := hwithin.length_le
      rw [List.length_append, List.length_append, List.length_take]
      rcases hown with rfl | rfl <;> simp at hlength ⊢ <;> omega

theorem isToken_value {t front body : Text} (hbody : EndsInRun isValueChar t front body) :
    IsToken .value t (if front.getLast? = some '"' then '"' :: body else body) := by
  have hall : ∀ c ∈ body, isWordChar c = true ∨ c = '.' ∨ c = '-' :=
    fun c hc => (isValueChar_iff c).mp (hbody.run_all c hc)
  have hother {quote rest : Text} (hending : quote ++ rest <:+ t)
      (hquote : quote = [] ∨ quote = ['"'])
      (hrest : ∀ c ∈ rest, isWordChar c = true ∨ c = '.' ∨ c = '-') :
      quote = [] ∧ rest <:+ body ∨ quote = ['"'] ∧ rest = body ∧ ['"'] <:+ front := by
    have hvalue : ∀ c ∈ rest, isValueChar c = true :=
      fun c hc => (isValueChar_iff c).mpr (hrest c hc)
    rcases hquote with rfl | rfl
    · exact .inl ⟨rfl, hbody.suffix_run hending hvalue⟩
    · obtain ⟨hwhole, hfront⟩ := hbody.of_suffix hending hvalue (by simp) fun c hc => by
        rw [List.mem_singleton.mp hc]
        decide +kernel
      exact .inr ⟨rfl, hwhole, hfront⟩
  split
  next hquote =>
    obtain ⟨before, rfl⟩ := List.getLast?_eq_some_iff.mp hquote
    refine ⟨⟨before, by simp [hbody.split]⟩, .inl ⟨['"'], body, .inr rfl, rfl, hall⟩, ?_⟩
    rintro other hending ⟨quote, rest, hquotes, rfl, hrest⟩
    rcases hother hending hquotes hrest with ⟨rfl, hwithin⟩ | ⟨rfl, rfl, -⟩
    · exact Nat.le_succ_of_le hwithin.length_le
    · exact Nat.le_refl _
  next hquote =>
    refine ⟨⟨front, hbody.split.symm⟩, .inl ⟨[], body, .inl rfl, rfl, hall⟩, ?_⟩
    rintro other hending ⟨quote, rest, hquotes, rfl, hrest⟩
    rcases hother hending hquotes hrest with ⟨rfl, hwithin⟩ | ⟨-, -, before, hfront⟩
    · exact hwithin.length_le
    · exact absurd (by simp [← hfront]) hquote

/-- In a text without line feeds the token that is measured is the longest of its shape. -/
theorem exists_isToken (shape : TokenShape) {before : Text} (hfeed : '\n' ∉ before) :
    ∃ token, shape.IsToken before token ∧ token.length = shape.lengthAtEnd before := by
  unfold lengthAtEnd
  rw [dropFinalFeed_of_not_mem hfeed]
  cases shape with
  | word => exact ⟨_, isToken_word before, rfl⟩
  | «attribute» =>
      obtain ⟨front, hword⟩ := exists_endsInRun isWordChar before
      refine ⟨_, isToken_attribute hword (exists_endsInRun _ front), ?_⟩
      simp only [trailingWord, hword.take_eq, atSigns, List.length_eq_zero_iff,
        List.take_eq_nil_iff]
      split
      next hnone => simp [hnone]
      next hsome => simp [hsome]
  | value =>
      obtain ⟨front, hbody⟩ := exists_endsInRun isValueChar before
      refine ⟨_, isToken_value hbody, ?_⟩
      simp only [hbody.take_eq]
      split <;> rfl

end TokenShape

/-- What stands in the range. -/
def TextRange.textIn (range : TextRange) (lines : List Text) : Text :=
  ((Position.lineText lines range.line).take (range.endColumn - 1).toNat).drop
    (range.startColumn - 1).toNat

namespace Completion

/-! ## The range of an answer -/

theorem feed_not_mem_before {lines : List Text} (hlines : ∀ line ∈ lines, '\n' ∉ line)
    (position : Position) : '\n' ∉ position.before lines := by
  intro hfeed
  have hline := List.mem_of_mem_take hfeed
  rw [Position.lineText, List.getD_eq_getElem?_getD] at hline
  cases hget : lines[(position.line - 1).toNat]? with
  | none =>
      rw [hget] at hline
      cases hline
  | some line =>
      rw [hget] at hline
      exact hlines line (List.mem_of_getElem? hget) hline

/-- In the range of a shape stands the token of that shape. -/
theorem isToken_textIn_tokenRange {document : Document}
    (hlines : ∀ line ∈ document.toLines, '\n' ∉ line) {requested : RequestedPosition}
    {position : Position} (hclamp : Position.clamp document.toLines requested = .ok position)
    (trigger : Option Text) (shape : TokenShape) :
    shape.IsToken (position.before document.toLines)
      ((tokenRange (.atPlace document.toLines position trigger) shape).textIn
        document.toLines) := by
  obtain ⟨token, htoken, hlength⟩ := shape.exists_isToken (feed_not_mem_before hlines position)
  have hbefore := Position.length_before hclamp
  have hstart : (position.column - (token.length : Int) - 1).toNat =
      (position.before document.toLines).length - token.length := by
    omega
  have htext : (tokenRange (.atPlace document.toLines position trigger) shape).textIn
      document.toLines = token := by
    rw [List.suffix_iff_eq_drop.mp htoken.suffix, ← hstart, hlength]
    rfl
  rw [htext]
  exact htoken

/-- An answer that offers anything is a part of the catalog, placed at one range. The range ends
at the cursor, and in it stands the token of the part's shape. -/
theorem replaces_longest_token {document : Document} {requested : RequestedPosition}
    {trigger : Option Text} {items : List Suggestion}
    (hlines : ∀ line ∈ document.toLines, '\n' ∉ line)
    (hitems : suggest document requested trigger = .ok items) (hsome : items ≠ []) :
    ∃ (position : Position) (part : CatalogPart) (range : TextRange),
      Position.clamp document.toLines requested = .ok position ∧
        choose (.atPlace document.toLines position trigger) document.toLines =
          (part.entries, part.shape) ∧
        items.Perm (part.entries.map (·.placedAt range)) ∧
        (∀ item ∈ items, item.range = some range) ∧
        range.line = position.line ∧ range.endColumn = position.column ∧
        1 ≤ range.startColumn ∧ range.startColumn ≤ range.endColumn ∧
        part.shape.IsToken (position.before document.toLines) (range.textIn document.toLines) := by
  obtain ⟨position, hclamp⟩ := exists_clamp_of_suggest hitems
  rw [suggest_of_clamp hclamp] at hitems
  obtain rfl := Except.ok.inj hitems
  rcases choose_cases (.atPlace document.toLines position trigger) document.toLines with
    hnone | ⟨part, hpart⟩
  · rw [answer, hnone] at hsome
    exact absurd rfl hsome
  · have hcolumn := (Position.standsFor_of_clamp hclamp).2.one_le
    have hanswer : (answer (.atPlace document.toLines position trigger) document.toLines).Perm
        (part.entries.map (·.placedAt
          (tokenRange (.atPlace document.toLines position trigger) part.shape))) := by
      rw [answer, hpart]
      exact ranked_perm _
    refine ⟨position, part, _, hclamp, hpart, hanswer, ?_, rfl, rfl,
      one_le_startColumn hcolumn trigger part.shape, Int.sub_le_self _ (Int.natCast_nonneg _),
      isToken_textIn_tokenRange hlines hclamp trigger part.shape⟩
    intro item hitem
    obtain ⟨entry, -, rfl⟩ := List.mem_map.mp (hanswer.mem_iff.mp hitem)
    rfl

/-- A field with three at signs behind it. -/
def signsDocument : Document :=
  .lines ["model A \x7b\n".toList, "  id Int @@@".toList]

/-- The end of its second line. -/
def signsRequest : RequestedPosition :=
  .place (.int 2) (.int 13)

theorem replaces_longest_token_signs :
    (∀ line ∈ signsDocument.toLines, '\n' ∉ line) ∧
      ∃ items, suggest signsDocument signsRequest none = .ok items ∧ items ≠ [] ∧
        ∃ range : TextRange, (∀ item ∈ items, item.range = some range) ∧ range.endColumn = 13 ∧
          TokenShape.IsToken .attribute "  id Int @@@".toList
            (range.textIn signsDocument.toLines) := by
  have hlines : ∀ line ∈ signsDocument.toLines, '\n' ∉ line := by decide
  have hclamp : Position.clamp signsDocument.toLines signsRequest = .ok ⟨2, 13⟩ := by decide
  have hitems := suggest_of_clamp hclamp none
  have hsome : answer (.atPlace signsDocument.toLines ⟨2, 13⟩ none) signsDocument.toLines ≠ [] := by
    decide +kernel
  have hchosen : (choose (.atPlace signsDocument.toLines ⟨2, 13⟩ none) signsDocument.toLines).2 =
      .attribute := by
    decide +kernel
  obtain ⟨position, part, range, hplace, hpart, -, hrange, -, hcolumn, -, -, htoken⟩ :=
    replaces_longest_token hlines hitems hsome
  obtain rfl : position = ⟨2, 13⟩ := Except.ok.inj (hplace.symm.trans hclamp)
  have hshape : part.shape = .attribute := by
    rw [hpart] at hchosen
    exact hchosen
  rw [hshape] at htoken
  exact ⟨hlines, _, hitems, hsome, range, hrange, hcolumn, htoken⟩

end Completion

end SchemaDesk

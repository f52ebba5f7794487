import SchemaDesk.Highlight.Line

/-!
# Where spans lie

Whatever a rule recognises stands in the text that it looks at, so every span that a line
is coloured with lies inside the line.
-/

namespace SchemaDesk

namespace Text

/-- A rule recognises no more than there is. -/
def TokenRule.Fits (rule : TokenRule) : Prop :=
  ∀ before t length, rule before t = some length → length ≤ t.length

theorem within_scanFrom {rule : TokenRule} (hfits : rule.Fits) {t : Text} {offset skip : Nat}
    {before : Option Char} {stretch : Stretch}
    (hmem : stretch ∈ scanFrom rule offset skip before t) :
    stretch.start + stretch.length ≤ offset + t.length := by
  induction t generalizing offset skip before with
  | nil => cases hmem
  | cons c rest ih =>
      have hrest {skip : Nat} {before : Option Char}
          (hlater : stretch ∈ scanFrom rule (offset + 1) skip before rest) :
          stretch.start + stretch.length ≤ offset + (c :: rest).length := by
        have hbound := ih hlater
        rw [List.length_cons]
        omega
      unfold scanFrom at hmem
      split at hmem
      · exact hrest hmem
      · split at hmem
        next length hrule =>
          rcases List.mem_cons.mp hmem with rfl | hlater
          · have hlength := hfits _ _ _ hrule
            dsimp only
            omega
          · exact hrest hlater
        next => exact hrest hmem

theorem within_scan {rule : TokenRule} (hfits : rule.Fits) {t : Text} {stretch : Stretch}
    (hmem : stretch ∈ scan rule t) : stretch.start + stretch.length ≤ t.length := by
  have hbound := within_scanFrom hfits hmem
  rwa [Nat.zero_add] at hbound

end Text

namespace Highlight

open Text

theorem fits_modelRule : modelRule.Fits := by
  intro before t length hrule
  unfold modelRule at hrule
  split at hrule
  · cases hrule
  next c rest =>
    have hword : (rest.takeWhile isPlainWordChar).length ≤ rest.length :=
      (List.takeWhile_prefix _).length_le
    dsimp only at hrule
    split at hrule
    · cases hrule
      exact Nat.succ_le_succ hword
    · cases hrule

theorem fits_wordRule (words : List Text) : (wordRule words).Fits := by
  intro before t length hrule
  unfold wordRule at hrule
  split at hrule
  · cases hrule
  · obtain ⟨word, hword, rfl⟩ := Option.map_eq_some_iff.mp hrule
    have hfound := List.find?_some hword
    simp only [Bool.and_eq_true] at hfound
    exact (List.isPrefixOf_iff_prefix.mp hfound.1).length_le

theorem identifierLength?_le {t : Text} {length : Nat} (h : identifierLength? t = some length) :
    length ≤ t.length := by
  unfold identifierLength? at h
  split at h
  · cases h
  next c rest =>
    split at h
    · cases h
      have hword : (leadingWord rest).length ≤ rest.length :=
        (List.takeWhile_prefix _).length_le
      rw [List.length_cons]
      omega
    · cases h

theorem fits_attributeRule : attributeRule.Fits := by
  intro before t length hrule
  unfold attributeRule at hrule
  split at hrule
  next rest =>
    obtain ⟨name, hname, rfl⟩ := Option.map_eq_some_iff.mp hrule
    have hlength := identifierLength?_le hname
    have hsecond : (if rest.head? = some '@' then 1 else 0) ≤ rest.length := by
      split
      next hhead => exact List.length_pos_iff.mpr (by rintro rfl; cases hhead)
      next => exact Nat.zero_le _
    generalize (if rest.head? = some '@' then 1 else 0) = second at hlength hsecond ⊢
    rw [List.length_drop] at hlength
    have htaken : 1 + second + name ≤ rest.length + 1 := by omega
    dsimp only
    split
    next rest' hpoint =>
      have hafter := congrArg List.length hpoint
      simp only [List.length_drop, List.length_cons] at hafter
      cases hsecondName : identifierLength? rest' with
      | none => exact htaken
      | some part =>
          have hpart := identifierLength?_le hsecondName
          simp only [Option.map_some, Option.getD_some, List.length_cons]
          omega
    next => exact htaken
  · cases hrule

theorem digitCount_le (t : Text) : digitCount t ≤ t.length :=
  (List.takeWhile_prefix _).length_le

theorem exponentLength_le (t : Text) : exponentLength t ≤ t.length := by
  unfold exponentLength
  split
  · exact Nat.zero_le _
  next mark rest =>
    dsimp only
    split
    · generalize (if rest.head? = some '-' || rest.head? = some '+' then 1 else 0) = sign
      have hdigits := digitCount_le (rest.drop sign)
      rw [List.length_drop] at hdigits
      split
      · exact Nat.zero_le _
      · rw [List.length_cons]
        omega
    · exact Nat.zero_le _

theorem fractionLength?_le {before : Option Char} {t : Text} {length : Nat}
    (h : fractionLength? before t = some length) : length ≤ t.length := by
  unfold fractionLength? at h
  dsimp only at h
  split at h
  · cases h
  · split at h
    next rest hpoint =>
      split at h
      · cases h
        have hafter := congrArg List.length hpoint
        have hfraction := digitCount_le rest
        have hexponent := exponentLength_le (rest.drop (digitCount rest))
        simp only [List.length_drop, List.length_cons] at hafter hexponent
        omega
      · cases h
    next => cases h

theorem fits_numberRule : numberRule.Fits := by
  intro before t length hrule
  unfold numberRule at hrule
  split at hrule
  next fraction hfraction =>
    cases hrule
    exact fractionLength?_le hfraction
  next =>
    dsimp only at hrule
    split at hrule
    · cases hrule
      exact digitCount_le t
    · cases hrule

theorem stringLength_le (t : Text) : stringLength t ≤ t.length := by
  fun_induction stringLength t <;> simp only [List.length_cons, List.length_nil] <;> omega

theorem fits_stringRule : stringRule.Fits := by
  intro before t length hrule
  unfold stringRule at hrule
  split at hrule
  next rest =>
    cases hrule
    have hlength := stringLength_le rest
    rw [List.length_cons]
    omega
  next => cases hrule

theorem fits_escapeRule : escapeRule.Fits := by
  intro before t length hrule
  unfold escapeRule at hrule
  split at hrule
  · split at hrule
    · cases hrule
    · cases hrule
      simp
  · cases hrule

theorem fits_environmentRule : environmentRule.Fits := by
  intro before t length hrule
  unfold environmentRule at hrule
  split at hrule
  · simp only [Option.bind_eq_bind, Option.bind_eq_some_iff, Option.some.injEq] at hrule
    obtain ⟨-, -, -, -, rest, -, rfl⟩ := hrule
    exact Nat.sub_le _ _
  · cases hrule

theorem fits_of_mem_rules {rule : TokenRule} {format : Format} (hrule : (rule, format) ∈ rules) :
    rule.Fits := by
  simp only [rules, List.mem_cons, List.not_mem_nil, or_false, Prod.mk.injEq] at hrule
  rcases hrule with ⟨rfl, -⟩ | ⟨rfl, -⟩ | ⟨rfl, -⟩ | ⟨rfl, -⟩ | ⟨rfl, -⟩ | ⟨rfl, -⟩ | ⟨rfl, -⟩ |
    ⟨rfl, -⟩ | ⟨rfl, -⟩
  · exact fits_modelRule
  · exact fits_wordRule _
  · exact fits_wordRule _
  · exact fits_wordRule _
  · exact fits_attributeRule
  · exact fits_numberRule
  · exact fits_stringRule
  · exact fits_escapeRule
  · exact fits_environmentRule

/-- A span lies inside a line. -/
def Span.Within (span : Span) (line : Text) : Prop :=
  span.start + span.length ≤ line.length

theorem within_ruleSpans {rule : TokenRule} (hfits : rule.Fits) {format : Format} {line : Text}
    {span : Span} (hmem : span ∈ ruleSpans rule format line) : span.Within line := by
  obtain ⟨stretch, hstretch, rfl⟩ := List.mem_map.mp hmem
  exact within_scan hfits hstretch

theorem slashesAt?_le {offset start : Nat} {t : Text} (h : slashesAt? offset t = some start) :
    start ≤ offset + t.length := by
  induction t generalizing offset with
  | nil => cases h
  | cons c rest ih =>
      unfold slashesAt? at h
      split at h
      · cases h
        exact Nat.le_add_right _ _
      · have hlater := ih h
        rw [List.length_cons]
        omega

theorem within_lineCommentSpans {line : Text} {span : Span} (hmem : span ∈ lineCommentSpans line) :
    span.Within line := by
  unfold lineCommentSpans at hmem
  split at hmem
  next start hstart =>
    have hslashes := slashesAt?_le (Option.filter_eq_some_iff.mp hstart).1
    rw [List.mem_singleton.mp hmem]
    unfold Span.Within
    dsimp only
    omega
  next => cases hmem

end Highlight

end SchemaDesk

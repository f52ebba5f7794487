import SchemaDesk.Proofs.WrittenLines

/-!
# Line feeds between lines

A text cut at its line feeds gives parts that hold none, and parts that hold none, joined by
line feeds, are cut into the same parts again. What stands before any one of the lines is the
lines before it, with a line feed behind each.
-/

namespace SchemaDesk.Text

theorem separates_eq_false_of_mem {separates : Char → Bool} {t part : Text}
    (hpart : part ∈ splitWhere separates t) : ∀ c ∈ part, separates c = false := by
  induction t generalizing part with
  | nil => simp_all [splitWhere]
  | cons first rest ih =>
      rw [splitWhere] at hpart
      split at hpart
      next =>
        rcases List.mem_cons.mp hpart with rfl | hlater
        · simp
        · exact ih hlater
      next hfirst =>
        cases hparts : splitWhere separates rest with
        | nil => exact absurd hparts (splitWhere_ne_nil _ rest)
        | cons next parts =>
            rw [hparts] at hpart ih
            rcases List.mem_cons.mp hpart with rfl | hlater
            · -- The first part goes on with the first part of the rest.
              intro c hc
              rcases List.mem_cons.mp hc with rfl | hc
              · simpa using hfirst
              · exact ih List.mem_cons_self c hc
            · exact ih (List.mem_cons_of_mem _ hlater)

theorem feed_not_mem_of_mem_splitLines {t line : Text} (hline : line ∈ splitLines t) :
    '\n' ∉ line := by
  intro hfeed
  have hcut := separates_eq_false_of_mem hline '\n' hfeed
  simp at hcut

theorem splitLines_joinLines {lines : List Text} (hfeeds : ∀ line ∈ lines, '\n' ∉ line)
    (hne : lines ≠ []) : splitLines (joinLines lines) = lines := by
  rw [splitLines, splitWhere_eq_splitOnP, ← List.splitOn_eq_splitOnP, joinLines]
  exact List.splitOn_intercalate '\n' hfeeds hne

/-- Lines with a line feed behind each of them. -/
def withFeeds (lines : List Text) : Text :=
  lines.flatMap (· ++ ['\n'])

theorem withFeeds_cons (line : Text) (lines : List Text) :
    withFeeds (line :: lines) = line ++ '\n' :: withFeeds lines := by
  simp [withFeeds]

theorem joinLines_append (front : List Text) {rest : List Text} (hne : rest ≠ []) :
    joinLines (front ++ rest) = withFeeds front ++ joinLines rest := by
  induction front with
  | nil => rfl
  | cons line front ih =>
      cases hrest : front ++ rest with
      | nil => exact absurd (List.append_eq_nil_iff.mp hrest).2 hne
      | cons next parts =>
          rw [List.cons_append, hrest, joinLines_cons_cons, ← hrest, ih, withFeeds_cons]
          simp

theorem prefix_joinLines (line : Text) (below : List Text) :
    line <+: joinLines (line :: below) := by
  cases below with
  | nil => simp [joinLines, List.intercalate]
  | cons next below =>
      rw [joinLines_cons_cons]
      exact List.prefix_append _ _

theorem joinLines_eq_nil_iff {lines : List Text} :
    joinLines lines = [] ↔ lines = [] ∨ lines = [[]] := by
  match lines with
  | [] => simp [joinLines, List.intercalate]
  | [line] => simp [joinLines, List.intercalate]
  | line :: next :: below => simp [joinLines_cons_cons]

/-- Of joined lines only the last one has no line feed behind it. -/
theorem withFeeds_eq {lines : List Text} (hne : lines ≠ []) :
    withFeeds lines = joinLines lines ++ ['\n'] := by
  rcases List.eq_nil_or_concat lines with rfl | ⟨front, last, rfl⟩
  · exact absurd rfl hne
  · rw [List.concat_eq_append, joinLines_append front (by simp)]
    simp [withFeeds, joinLines, List.intercalate]

theorem count_feed_withFeeds {lines : List Text} (hfeeds : ∀ line ∈ lines, '\n' ∉ line) :
    (withFeeds lines).count '\n' = lines.length := by
  induction lines with
  | nil => rfl
  | cons line lines ih =>
      obtain ⟨hline, hlines⟩ := List.forall_mem_cons.mp hfeeds
      rw [withFeeds_cons, List.count_append, List.count_cons_self, ih hlines,
        List.count_eq_zero_of_not_mem hline, Nat.zero_add, List.length_cons]

theorem getLast?_withFeeds {lines : List Text} (hne : lines ≠ []) :
    (withFeeds lines).getLast? = some '\n' := by
  rw [withFeeds_eq hne, List.getLast?_concat]

end SchemaDesk.Text

import SchemaDesk.Highlight.Line

/-!
# Line comments

A line comment starts at the first two slashes that stand outside every string. What is coloured
is found by another rule: the first two slashes are taken, and they start no comment if they
stand in a string, whatever comes behind them. The two rules agree exactly where no slashes in
a string come before the comment.
-/

namespace SchemaDesk.Highlight

open Text

/-! ## Where a comment starts -/

/-- Two slashes stand at a place of a line. -/
def SlashesAt (line : Text) (place : Nat) : Prop :=
  ['/', '/'] <+: line.drop place

/-- Two slashes stand at a place of a line, outside every string. -/
def SlashesOutside (line : Text) (place : Nat) : Prop :=
  SlashesAt line place ∧ endsInsideString (line.take place) = false

instance (line : Text) (place : Nat) : Decidable (SlashesOutside line place) :=
  inferInstanceAs (Decidable (['/', '/'] <+: line.drop place ∧ _ = false))

/-- The first slashes outside every string. -/
structure StartsComment (line : Text) (start : Nat) : Prop where
  outside : SlashesOutside line start
  first : ∀ place < start, ¬SlashesOutside line place

/-- The spans of a line comment as it should be: from where it starts to the end of the line,
and none if every two slashes stand in a string. -/
structure ColouredFromStart (line : Text) (spans : List Span) : Prop where
  comment : ∀ start, StartsComment line start →
    spans = [{ start, length := line.length - start, format := .comment }]
  none : (∀ place, ¬SlashesOutside line place) → spans = []

/-! ## Where it is looked for -/

/-- Two slashes from which the line goes on to its end, without a line feed but for a
final one. -/
def ReachesEnd (line : Text) (place : Nat) : Prop :=
  SlashesAt line place ∧ '\n' ∉ dropFinalFeed (line.drop place)

theorem reachesEnd_zero_iff {line : Text} :
    ReachesEnd line 0 ↔
      (['/', '/'].isPrefixOf line && !(dropFinalFeed line).contains '\n') = true := by
  simp [ReachesEnd, SlashesAt]

/-- The first slashes from which a line goes on to its end are found, if there are any. -/
theorem slashesAt?_cases (offset : Nat) (line : Text) :
    (slashesAt? offset line = none ∧ ∀ place, ¬ReachesEnd line place) ∨
      ∃ start, slashesAt? offset line = some (offset + start) ∧ ReachesEnd line start ∧
        ∀ place < start, ¬ReachesEnd line place := by
  induction line generalizing offset with
  | nil =>
      refine .inl ⟨rfl, ?_⟩
      rintro place ⟨hslashes, -⟩
      simp [SlashesAt] at hslashes
  | cons c rest ih =>
      unfold slashesAt?
      split
      next hhere =>
        exact .inr ⟨0, rfl, reachesEnd_zero_iff.mpr hhere, nofun⟩
      next hhere =>
        -- Behind the first character the places of the line are those of the rest.
        have hbefore (place : Nat) (hrest : ∀ later, place = later + 1 → ¬ReachesEnd rest later) :
            ¬ReachesEnd (c :: rest) place := by
          cases place with
          | zero => exact mt reachesEnd_zero_iff.mp hhere
          | succ later => exact hrest later rfl
        rcases ih (offset + 1) with ⟨hnone, hno⟩ | ⟨start, hsome, hstart, hfirst⟩
        · exact .inl ⟨hnone, fun place => hbefore place fun later _ => hno later⟩
        · refine .inr ⟨start + 1, ?_, hstart, ?_⟩
          · rw [hsome]
            congr 1
            omega
          · intro place hplace
            exact hbefore place fun later hlater => hfirst later (by omega)

theorem slashesAt?_eq_some_iff {line : Text} {start : Nat} :
    slashesAt? 0 line = some start ↔
      ReachesEnd line start ∧ ∀ place < start, ¬ReachesEnd line place := by
  rcases slashesAt?_cases 0 line with ⟨hnone, hno⟩ | ⟨found, hsome, hfound, hfirst⟩
  · rw [hnone]
    exact iff_of_false nofun fun hstart => hno start hstart.1
  · rw [hsome, Nat.zero_add, Option.some.injEq]
    constructor
    · rintro rfl
      exact ⟨hfound, hfirst⟩
    · rintro ⟨hstart, hbefore⟩
      rcases Nat.lt_trichotomy found start with hlt | heq | hgt
      · exact absurd hfound (hbefore found hlt)
      · exact heq
      · exact absurd hstart (hfirst start hgt)

theorem lineCommentStart?_eq_some_iff {line : Text} {start : Nat} :
    lineCommentStart? line = some start ↔
      slashesAt? 0 line = some start ∧ endsInsideString (line.take start) = false := by
  simp [lineCommentStart?, Option.filter_eq_some_iff]

/-- The rule is right about a line exactly if the comment of the line, where it has one, starts
at the first slashes from which the line goes on to its end. -/
theorem colouredFromStart_iff (line : Text) :
    ColouredFromStart line (lineCommentSpans line) ↔
      ∀ start, StartsComment line start →
        ReachesEnd line start ∧ ∀ place < start, ¬ReachesEnd line place := by
  constructor
  · intro hcoloured start hstart
    have hspans := hcoloured.comment start hstart
    rw [← slashesAt?_eq_some_iff]
    unfold lineCommentSpans at hspans
    split at hspans
    next found hfound =>
      obtain rfl : found = start := congrArg Span.start (List.singleton_inj.mp hspans)
      exact (lineCommentStart?_eq_some_iff.mp hfound).1
    next => cases hspans
  · intro hfirst
    constructor
    · intro start hstart
      have hfound := slashesAt?_eq_some_iff.mpr (hfirst start hstart)
      rw [lineCommentSpans,
        lineCommentStart?_eq_some_iff.mpr ⟨hfound, hstart.outside.2⟩]
    · intro hnone
      unfold lineCommentSpans
      split
      next found hfound =>
        obtain ⟨hslashes, houtside⟩ := lineCommentStart?_eq_some_iff.mp hfound
        exact absurd ⟨(slashesAt?_eq_some_iff.mp hslashes).1.1, houtside⟩ (hnone found)
      next => rfl

/-! ## Main result -/

/-- These spans are what a line is coloured with between its tokens and its block comments. -/
def ColouredBetween (inside : Bool) (line : Text) (spans : List Span) : Prop :=
  (colour inside line).spans =
    (rules.flatMap fun (rule, format) => ruleSpans rule format line) ++ spans ++
      (blockComments inside line).1.map commentSpan

theorem colouredBetween_iff {inside : Bool} {line : Text} {spans : List Span} :
    ColouredBetween inside line spans ↔ spans = lineCommentSpans line := by
  unfold ColouredBetween colour
  rw [List.append_left_inj, List.append_right_inj, eq_comm]

/-- Wherever a line starts, inside a block comment or outside, its line comment is coloured from
where it starts, exactly if no slashes from which the line goes on to its end stand before
that place, and the line goes on to its end from there. -/
theorem comment_coloured_from_start_iff (line : Text) :
    (∀ inside, ∃ spans, ColouredBetween inside line spans ∧ ColouredFromStart line spans) ↔
      ∀ start, StartsComment line start →
        ReachesEnd line start ∧ ∀ place < start, ¬ReachesEnd line place := by
  rw [← colouredFromStart_iff]
  simp [colouredBetween_iff]

/-- Behind an address in a string no comment is found. -/
theorem comment_missed_behind_string :
    StartsComment "url = \"a//b\" // c".toList 13 ∧
      ∀ inside, ColouredBetween inside "url = \"a//b\" // c".toList [] := by
  refine ⟨⟨by decide, by decide⟩, fun inside => ?_⟩
  rw [colouredBetween_iff]
  decide

end SchemaDesk.Highlight

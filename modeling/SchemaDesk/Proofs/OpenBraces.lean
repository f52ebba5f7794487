import Mathlib.Data.List.Induction
import SchemaDesk.Proofs.BlockStructure

/-!
# Open braces

A line lies inside a block of a keyword if some line before it starts with the keyword
and the braces since the last such line have not closed the block: of the braces there,
and one more for the opening, some are open behind each of the lines, and behind the line
itself. What stands before the last line of the keyword does not matter.
-/

namespace SchemaDesk.Block

/-- The braces that are open behind some lines of a block, one of which was open before. -/
def openBraces (lines : List Text) : Int :=
  1 + (lines.flatten.count '{' : Int) - (lines.flatten.count '}' : Int)

theorem depthAfter_eq (lines : List Text) : depthAfter lines = openBraces lines := by
  induction lines using List.reverseRecOn with
  | nil => rfl
  | append_singleton lines line ih =>
      rw [depthAfter_concat, ih]
      simp only [openBraces, balance, List.flatten_append, List.flatten_singleton,
        List.count_append]
      omega

/-- Some braces are open behind each of the lines. -/
def StaysOpen (lines : List Text) : Prop :=
  ∀ part, part <+: lines → 0 < depthAfter part

theorem staysOpen_nil : StaysOpen [] := by
  intro part hpart
  rw [List.prefix_nil.mp hpart]
  decide

theorem staysOpen_concat (lines : List Text) (line : Text) :
    StaysOpen (lines ++ [line]) ↔ StaysOpen lines ∧ 0 < depthAfter (lines ++ [line]) := by
  constructor
  · intro h
    refine ⟨?_, h _ List.prefix_rfl⟩
    intro part hpart
    exact h part (hpart.trans (List.prefix_append _ _))
  · rintro ⟨hlines, hlast⟩ part hpart
    rcases List.prefix_concat_iff.mp hpart with rfl | hpart
    · exact hlast
    · exact hlines part hpart

/-! ## The count of one keyword -/

section

variable {keyword : Text}

theorem track_header (depth : Option Int) {line : Text} (hline : opens keyword line = true) :
    track keyword depth line = some 1 := by
  simp [track, hline]

theorem track_of_not_opens (depth : Option Int) {line : Text}
    (hline : opens keyword line = false) :
    track keyword depth line =
      depth.bind fun d => if d + balance line ≤ 0 then none else some (d + balance line) := by
  cases depth <;> simp [track, hline]

/-- Behind a line of the keyword the count is what the lines after that line make of it. -/
theorem foldl_track_header (front : List Text) {header : Text}
    (hheader : opens keyword header = true) (body : List Text) :
    (front ++ header :: body).foldl (track keyword) none = body.foldl (track keyword) (some 1) := by
  rw [List.foldl_append, List.foldl_cons, track_header _ hheader]

/-- The count goes on for as long as braces stay open, and is their number. -/
theorem foldl_track_eq_some_iff {body : List Text}
    (hbody : ∀ line ∈ body, opens keyword line = false) (depth : Int) :
    body.foldl (track keyword) (some 1) = some depth ↔
      StaysOpen body ∧ depth = depthAfter body := by
  induction body using List.reverseRecOn generalizing depth with
  | nil => simp [staysOpen_nil, depthAfter, eq_comm]
  | append_singleton body line ih =>
      have hline : opens keyword line = false := hbody line (by simp)
      have hcount := ih fun other hmem => hbody other (by simp [hmem])
      rw [List.foldl_append, List.foldl_cons, List.foldl_nil, track_of_not_opens _ hline,
        staysOpen_concat, depthAfter_concat]
      by_cases hopen : StaysOpen body
      · rw [(hcount _).mpr ⟨hopen, rfl⟩, Option.bind_some]
        split
        next hclosed =>
          have hnot : ¬ 0 < depthAfter body + balance line := by omega
          simp [hnot]
        next hpositive =>
          have hpos : 0 < depthAfter body + balance line := by omega
          simp [hopen, hpos, eq_comm]
      · -- The block was closed by one of the lines before.
        cases hbefore : body.foldl (track keyword) (some 1) with
        | none => simp [hopen]
        | some before => exact absurd ((hcount before).mp hbefore).1 hopen

/-- Either no line starts with the keyword, or there is a last one that does. -/
theorem plain_or_exists_header (keyword : Text) (lines : List Text) :
    (∀ line ∈ lines, opens keyword line = false) ∨
      ∃ front header body, lines = front ++ header :: body ∧ opens keyword header = true ∧
        ∀ line ∈ body, opens keyword line = false := by
  induction lines using List.reverseRecOn with
  | nil => exact .inl (by simp)
  | append_singleton lines line ih =>
      cases hline : opens keyword line with
      | true => exact .inr ⟨lines, line, [], rfl, hline, by simp⟩
      | false =>
          rcases ih with hplain | ⟨front, header, body, rfl, hheader, hbody⟩
          · left
            intro other hmem
            rcases List.mem_append.mp hmem with hmem | hmem
            · exact hplain other hmem
            · rw [List.mem_singleton.mp hmem, hline]
          · refine .inr ⟨front, header, body ++ [line], by simp, hheader, ?_⟩
            intro other hmem
            rcases List.mem_append.mp hmem with hmem | hmem
            · exact hbody other hmem
            · rw [List.mem_singleton.mp hmem, hline]

theorem contains_of_plain {lines : List Text}
    (hplain : ∀ line ∈ lines, opens keyword line = false) (current : Text) :
    contains keyword lines current = false := by
  rw [contains, foldl_track_none hplain, Bool.and_false]

theorem contains_header_iff (hkeyword : keyword ≠ []) (front : List Text) {header : Text}
    (hheader : opens keyword header = true) {body : List Text}
    (hbody : ∀ line ∈ body, opens keyword line = false) (current : Text) :
    contains keyword (front ++ header :: body) current = true ↔
      StaysOpen body ∧ 0 < depthAfter (body ++ [current]) := by
  have hnonempty : keyword.isEmpty = false := by simpa using hkeyword
  rw [contains, hnonempty, Bool.not_false, Bool.true_and, foldl_track_header front hheader,
    depthAfter_concat]
  cases hcount : body.foldl (track keyword) (some 1) with
  | none =>
      have hclosed : ¬ StaysOpen body := by
        intro hopen
        have hsome := (foldl_track_eq_some_iff hbody _).mpr ⟨hopen, rfl⟩
        rw [hcount] at hsome
        cases hsome
      simp [hclosed]
  | some depth =>
      obtain ⟨hopen, rfl⟩ := (foldl_track_eq_some_iff hbody depth).mp hcount
      simp [hopen]

end

/-- A line is inside a block exactly if there is a last line of the keyword before it and the
braces since that line have left the block open, behind every line and behind itself. The lines
before that one make no difference. -/
theorem contains_iff_stays_open {keyword : Text} (hkeyword : keyword ≠ []) (before : List Text)
    (current : Text) :
    (contains keyword before current = true ↔
      ∃ front header body, before = front ++ header :: body ∧
        keyword <+: Text.strip header ∧ (∀ line ∈ body, ¬ keyword <+: Text.strip line) ∧
          (∀ part, part <+: body → 0 < openBraces part) ∧ 0 < openBraces (body ++ [current])) ∧
      ∀ front other header body, keyword <+: Text.strip header →
        contains keyword (front ++ header :: body) current =
          contains keyword (other ++ header :: body) current := by
  have hopens (line : Text) : keyword <+: Text.strip line ↔ opens keyword line = true :=
    List.isPrefixOf_iff_prefix.symm
  simp only [hopens, Bool.not_eq_true, ← depthAfter_eq]
  refine ⟨⟨?_, ?_⟩, ?_⟩
  · intro hcontains
    rcases plain_or_exists_header keyword before with
      hplain | ⟨front, header, body, rfl, hheader, hbody⟩
    · rw [contains_of_plain hplain] at hcontains
      cases hcontains
    · exact ⟨front, header, body, rfl, hheader, hbody,
        (contains_header_iff hkeyword front hheader hbody current).mp hcontains⟩
  · rintro ⟨front, header, body, rfl, hheader, hbody, hopen⟩
    exact (contains_header_iff hkeyword front hheader hbody current).mpr hopen
  · intro front other header body hheader
    rw [contains, contains, foldl_track_header front hheader, foldl_track_header other hheader]

/-- A block that was closed before another one of its kind was opened, and a line with braces. -/
def reopenedLines : List Text :=
  ["model A \x7b".toList, "\x7d".toList, "  model B \x7b".toList,
    "  data Json @default(\x7b\x7d)".toList]

theorem contains_iff_stays_open_reopened :
    "model".toList ≠ [] ∧
      (∃ front header body, reopenedLines = front ++ header :: body ∧
        "model".toList <+: Text.strip header ∧
          (∀ line ∈ body, ¬ "model".toList <+: Text.strip line) ∧
            (∀ part, part <+: body → 0 < openBraces part) ∧
              0 < openBraces (body ++ ["  id Int".toList])) ∧
      contains "model".toList (["enum C \x7b".toList] ++ "model A \x7b".toList :: []) [] =
        contains "model".toList ([] ++ "model A \x7b".toList :: []) [] := by
  have hmodel : "model".toList ≠ [] := by decide
  obtain ⟨hiff, -⟩ := contains_iff_stays_open hmodel reopenedLines "  id Int".toList
  obtain ⟨-, hfront⟩ := contains_iff_stays_open hmodel [] []
  refine ⟨hmodel, hiff.mp (by decide), hfront _ _ _ _ ?_⟩
  rw [← List.isPrefixOf_iff_prefix]
  decide

end SchemaDesk.Block

import Mathlib.Data.List.DropRight
import Mathlib.Data.List.TakeWhile
import SchemaDesk.Text.Word

/-!
# Runs of characters

The words at the edges of a text are as long as they can be: what stands before or behind such
a run does not belong to it. So a text that is put together from a run and a part that stops it
is taken apart in the same way.
-/

namespace SchemaDesk.Text

/-! ## Words at the start -/

/-- The text is an identifier. -/
def IsIdentifier (t : Text) : Prop :=
  ∃ c rest, t = c :: rest ∧ startsIdentifier c = true ∧ ∀ d ∈ rest, isWordChar d = true

/-- The text does not go on with a word. -/
def StopsWord (t : Text) : Prop :=
  ∀ c, t.head? = some c → isWordChar c = false

theorem IsIdentifier.ne_nil {t : Text} (h : IsIdentifier t) : t ≠ [] := by
  obtain ⟨c, rest, rfl, -, -⟩ := h
  exact List.cons_ne_nil c rest

theorem isWordChar_of_startsIdentifier {c : Char} (hc : startsIdentifier c = true) :
    isWordChar c = true := by
  rcases Bool.or_eq_true_iff.mp hc with hmark | hletter
  · simp [isWordChar, hmark]
  · have hbounds : c.toNat < 128 := by
      simp only [isLatin, Bool.or_eq_true, Bool.and_eq_true, decide_eq_true_eq] at hletter
      rcases hletter with ⟨-, hhigh⟩ | ⟨-, hhigh⟩
      · exact Nat.lt_of_le_of_lt (UInt32.le_iff_toNat_le.mp hhigh) (by decide)
      · exact Nat.lt_of_le_of_lt (UInt32.le_iff_toNat_le.mp hhigh) (by decide)
    simp [isWordChar, isAlphanumeric, hbounds, hletter]

theorem IsIdentifier.isWordChar {t : Text} (h : IsIdentifier t) :
    ∀ c ∈ t, isWordChar c = true := by
  obtain ⟨c, rest, rfl, hc, hrest⟩ := h
  intro d hd
  rcases List.mem_cons.mp hd with rfl | hd
  · exact isWordChar_of_startsIdentifier hc
  · exact hrest d hd

/-- A run of characters that satisfy a test ends before one that does not. -/
theorem takeWhile_append_of_stops {p : Char → Bool} {run rest : Text}
    (hrun : ∀ c ∈ run, p c = true) (hrest : ∀ c, rest.head? = some c → p c = false) :
    (run ++ rest).takeWhile p = run := by
  rw [List.takeWhile_append_of_pos hrun]
  cases rest with
  | nil => simp
  | cons c rest => simp [hrest c rfl]

theorem leadingWord_append {word : Text} (hword : ∀ c ∈ word, isWordChar c = true) {rest : Text}
    (hrest : StopsWord rest) : leadingWord (word ++ rest) = word :=
  takeWhile_append_of_stops hword hrest

theorem stopsWord_dropWhile (t : Text) : StopsWord (t.dropWhile isWordChar) := by
  intro c hhead
  have hnot := List.head?_dropWhile_not isWordChar t
  rw [hhead] at hnot
  simpa using hnot

/-! ## Runs at the end -/

/-- The text ends in a run of characters that satisfy the test, and the run is as long as it
can be: what stands before it does not end in such a character. -/
structure EndsInRun (p : Char → Bool) (t front run : Text) : Prop where
  split : t = front ++ run
  run_all : ∀ c ∈ run, p c = true
  front_stops : ∀ c, front.getLast? = some c → p c = false

variable {p : Char → Bool} {t front run : Text}

theorem EndsInRun.takeWhileRight_eq (h : EndsInRun p t front run) : takeWhileRight p t = run := by
  have hfront : front.reverse.takeWhile p = [] := by
    cases hlast : front.reverse with
    | nil => rfl
    | cons c rest =>
        have hc : p c = false := h.front_stops c (by rw [← List.head?_reverse, hlast]; rfl)
        simp [hc]
  rw [takeWhileRight, h.split, List.reverse_append,
    List.takeWhile_append_of_pos (by simpa using h.run_all), hfront, List.append_nil,
    List.reverse_reverse]

theorem exists_endsInRun (p : Char → Bool) (t : Text) :
    ∃ front, EndsInRun p t front (takeWhileRight p t) := by
  refine ⟨t.rdropWhile p, List.rdropWhile_append_rtakeWhile.symm, ?_, ?_⟩
  · exact fun c hc => List.mem_rtakeWhile_imp hc
  · intro c hlast
    have hne : t.rdropWhile p ≠ [] := by
      intro hnil
      rw [hnil] at hlast
      cases hlast
    have hnot := List.rdropWhile_last_not p t hne
    rw [List.getLast?_eq_some_getLast hne] at hlast
    rw [Option.some.inj hlast] at hnot
    simpa using hnot

theorem EndsInRun.take_eq (h : EndsInRun p t front run) :
    t.take (t.length - run.length) = front := by
  rw [h.split]
  simp

/-- An ending of characters that satisfy the test lies within the run. -/
theorem EndsInRun.suffix_run (h : EndsInRun p t front run) {ending : Text}
    (hending : ending <:+ t) (hall : ∀ c ∈ ending, p c = true) : ending <:+ run := by
  have hrun : run <:+ t := ⟨front, h.split.symm⟩
  rcases List.suffix_or_suffix_of_suffix hending hrun with hwithin | ⟨extra, rfl⟩
  · exact hwithin
  · obtain ⟨before, hbefore⟩ := hending
    rcases List.eq_nil_or_concat extra with rfl | ⟨others, c, rfl⟩
    · exact List.suffix_rfl
    · -- The run would go on to the left with the last character of what is left over.
      have hfront : front = before ++ (others ++ [c]) := by
        refine (List.append_left_inj run).mp ?_
        rw [← h.split, ← hbefore]
        simp
      have hstops := h.front_stops c (by simp [hfront])
      rw [hall c (by simp)] at hstops
      cases hstops

/-- An ending that consists of marks and a run behind them consists of the whole run and of
marks before it. -/
theorem EndsInRun.of_suffix (h : EndsInRun p t front run) {marks word : Text}
    (hending : marks ++ word <:+ t) (hword : ∀ c ∈ word, p c = true) (hne : marks ≠ [])
    (hmarks : ∀ c ∈ marks, p c = false) : word = run ∧ marks <:+ front := by
  obtain ⟨before, hbefore⟩ := hending
  have hruns : EndsInRun p t (before ++ marks) word := by
    refine ⟨by rw [← hbefore, List.append_assoc], hword, ?_⟩
    intro c hlast
    rw [List.getLast?_append_of_ne_nil _ hne] at hlast
    exact hmarks c (List.mem_of_getLast? hlast)
  have hrun : word = run := hruns.takeWhileRight_eq.symm.trans h.takeWhileRight_eq
  subst hrun
  exact ⟨rfl, before, List.append_cancel_right (hruns.split.symm.trans h.split)⟩

theorem dropFinalFeed_of_not_mem (hfeed : '\n' ∉ t) : dropFinalFeed t = t := by
  refine if_neg ?_
  intro hlast
  exact hfeed (List.mem_of_getLast? hlast)

end SchemaDesk.Text

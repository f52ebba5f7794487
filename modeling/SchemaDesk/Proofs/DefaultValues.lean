import Mathlib.Data.List.Induction
import SchemaDesk.Cursor.Cues

/-!
# Open default values

Whether a cursor stands inside a default value is told from the parentheses behind the last
opening of one: it counts as inside if more of them are opened than closed. As long as the
parenthesis of the default value has not been closed, that is so. Once it has been closed,
other parentheses of the line count in its place, and a cursor behind one that is left open
counts as inside the default value too.
-/

namespace SchemaDesk

namespace Text

/-! ## The last place of a part -/

/-- In the text stands the part, `front` before it and `rest` behind it, and no later place
holds the part. -/
structure LastPlace (part t front rest : Text) : Prop where
  split : t = front ++ (part ++ rest)
  last : ∀ front' rest', t = front' ++ (part ++ rest') → front'.length ≤ front.length

theorem LastPlace.unique {part t front rest front' rest' : Text}
    (h : LastPlace part t front rest) (h' : LastPlace part t front' rest') :
    front = front' ∧ rest = rest' := by
  have hlength : front.length = front'.length :=
    Nat.le_antisymm (h'.last _ _ h.split) (h.last _ _ h'.split)
  obtain ⟨hfront, hback⟩ := List.append_inj (h.split.symm.trans h'.split) hlength
  exact ⟨hfront, List.append_cancel_left hback⟩

theorem LastPlace.cons {part t front rest : Text} (h : LastPlace part t front rest) (c : Char) :
    LastPlace part (c :: t) (c :: front) rest := by
  refine ⟨by rw [h.split, List.cons_append], ?_⟩
  intro front' rest' hsplit
  cases front' with
  | nil => exact Nat.zero_le _
  | cons d front' => exact Nat.succ_le_succ (h.last front' rest' (List.cons.inj hsplit).2)

/-- A part that stands at the front of a text and nowhere behind has its last place there. -/
theorem lastPlace_front {part t rest : Text} {c : Char} (hsplit : c :: t = part ++ rest)
    (hlater : ¬ part <:+: t) : LastPlace part (c :: t) [] rest := by
  refine ⟨hsplit, ?_⟩
  intro front' rest' hsplit'
  cases front' with
  | nil => exact Nat.le_refl _
  | cons d front' =>
      have htail : t = front' ++ (part ++ rest') := (List.cons.inj hsplit').2
      exact absurd ⟨front', rest', by rw [htail, List.append_assoc]⟩ hlater

theorem lastIndexOf?_eq_none_iff (part t : Text) : lastIndexOf? part t = none ↔ ¬ part <:+: t := by
  induction t with
  | nil => cases part <;> simp [lastIndexOf?]
  | cons c rest ih =>
      rw [List.infix_cons_iff, not_or, ← ih, lastIndexOf?]
      cases lastIndexOf? part rest <;> simp

theorem exists_lastPlace {part t : Text} {offset : Nat}
    (hoffset : lastIndexOf? part t = some offset) :
    ∃ front rest, LastPlace part t front rest ∧ front.length = offset := by
  induction t generalizing offset with
  | nil =>
      cases part with
      | nil =>
          cases hoffset
          refine ⟨[], [], ⟨rfl, ?_⟩, rfl⟩
          intro front' rest' hsplit
          obtain ⟨rfl, -⟩ := List.append_eq_nil_iff.mp hsplit.symm
          exact Nat.le_refl _
      | cons c part => simp [lastIndexOf?] at hoffset
  | cons c t ih =>
      rw [lastIndexOf?] at hoffset
      cases hlater : lastIndexOf? part t with
      | some later =>
          rw [hlater] at hoffset
          cases hoffset
          obtain ⟨front, rest, hplace, rfl⟩ := ih hlater
          exact ⟨c :: front, rest, hplace.cons c, rfl⟩
      | none =>
          rw [hlater] at hoffset
          obtain ⟨hfront, rfl⟩ : part.isPrefixOf (c :: t) = true ∧ 0 = offset := by
            simpa using hoffset
          obtain ⟨rest, hrest⟩ := List.isPrefixOf_iff_prefix.mp hfront
          have hnone : ¬ part <:+: t := (lastIndexOf?_eq_none_iff part t).mp hlater
          exact ⟨[], rest, lastPlace_front hrest.symm hnone, rfl⟩

theorem LastPlace.lastIndexOf? {part t front rest : Text} (h : LastPlace part t front rest) :
    lastIndexOf? part t = some front.length := by
  cases hoffset : Text.lastIndexOf? part t with
  | none =>
      refine absurd ⟨front, rest, ?_⟩ ((lastIndexOf?_eq_none_iff part t).mp hoffset)
      rw [h.split, List.append_assoc]
  | some offset =>
      obtain ⟨front', rest', h', rfl⟩ := exists_lastPlace hoffset
      rw [(h.unique h').1]

theorem lastPlace_of_lastIndexOf? {part front rest : Text}
    (hoffset : lastIndexOf? part (front ++ (part ++ rest)) = some front.length) :
    LastPlace part (front ++ (part ++ rest)) front rest := by
  obtain ⟨front', rest', hplace, hlength⟩ := exists_lastPlace hoffset
  obtain ⟨rfl, hback⟩ := List.append_inj hplace.split hlength.symm
  obtain rfl : rest' = rest := (List.append_cancel_left hback).symm
  exact hplace

end Text

namespace Cues

open Text

/-! ## Counting parentheses -/

theorem parenthesisDepth_append (first second : Text) :
    parenthesisDepth (first ++ second) = parenthesisDepth first + parenthesisDepth second := by
  simp only [parenthesisDepth, List.count_append]
  omega

theorem neg_one_le_parenthesisDepth_singleton (c : Char) : -1 ≤ parenthesisDepth [c] := by
  have hclosing := List.count_le_length (a := ')') (l := [c])
  rw [List.length_singleton] at hclosing
  rw [parenthesisDepth]
  omega

/-- A count from one that never comes back to zero stays positive. -/
theorem pos_of_never_zero {value : Text}
    (hnever : ∀ part, part <+: value → 1 + parenthesisDepth part ≠ 0) :
    0 < 1 + parenthesisDepth value := by
  induction value using List.reverseRecOn with
  | nil => decide
  | append_singleton value c ih =>
      have hbefore : 0 < 1 + parenthesisDepth value := by
        apply ih
        intro part hpart
        exact hnever part (hpart.trans (List.prefix_append _ _))
      have hnow := hnever _ List.prefix_rfl
      have hstep := neg_one_le_parenthesisDepth_singleton c
      rw [parenthesisDepth_append] at hnow ⊢
      omega

/-! ## The last default value -/

/-- The parenthesis of the last default value has not been closed: no part of what follows it
brings the count back to zero. -/
def DefaultOpen (t : Text) : Prop :=
  ∃ front value, LastPlace defaultOpening t front value ∧
    ∀ part, part <+: value → 1 + parenthesisDepth part ≠ 0

/-- The parenthesis of the last default value has been closed, and of the parentheses since
more were opened than closed. -/
def OpenedSinceDefault (t : Text) : Prop :=
  ∃ front value since, LastPlace defaultOpening t front (value ++ since) ∧
    1 + parenthesisDepth value = 0 ∧ 0 < parenthesisDepth since

theorem insideDefaultParens_of_lastPlace {t front value : Text}
    (hplace : LastPlace defaultOpening t front value) :
    insideDefaultParens t = true ↔ 0 < 1 + parenthesisDepth value := by
  -- The count starts with the parenthesis that ends the opening.
  have hrest : t.drop (front.length + defaultOpening.length - 1) = '(' :: value := by
    have hopening : defaultOpening = "@default".toList ++ ['('] := rfl
    have hoffset : front.length + defaultOpening.length - 1 =
        front.length + "@default".toList.length := rfl
    rw [hplace.split, hoffset, List.drop_length_add_append, hopening, List.append_assoc,
      List.drop_left]
    rfl
  have hdepth : parenthesisDepth ('(' :: value) = 1 + parenthesisDepth value :=
    parenthesisDepth_append ['('] value
  simp only [insideDefaultParens, hplace.lastIndexOf?, hrest, hdepth, decide_eq_true_eq]

/-- A cursor counts as inside a default value while the value is open, and again once it was
closed and other parentheses are open. -/
theorem insideDefaultParens_iff (t : Text) :
    insideDefaultParens t = true ↔ DefaultOpen t ∨ OpenedSinceDefault t := by
  constructor
  · intro hinside
    cases hoffset : lastIndexOf? defaultOpening t with
    | none => simp [insideDefaultParens, hoffset] at hinside
    | some offset =>
        obtain ⟨front, value, hplace, -⟩ := exists_lastPlace hoffset
        rw [insideDefaultParens_of_lastPlace hplace] at hinside
        by_cases hnever : ∀ part, part <+: value → 1 + parenthesisDepth part ≠ 0
        · exact .inl ⟨front, value, hplace, hnever⟩
        · right
          push Not at hnever
          obtain ⟨closed, ⟨since, rfl⟩, hzero⟩ := hnever
          refine ⟨front, closed, since, hplace, hzero, ?_⟩
          rw [parenthesisDepth_append] at hinside
          omega
  · rintro (⟨front, value, hplace, hnever⟩ | ⟨front, closed, since, hplace, hzero, hsince⟩)
    · exact (insideDefaultParens_of_lastPlace hplace).mpr (pos_of_never_zero hnever)
    · rw [insideDefaultParens_of_lastPlace hplace, parenthesisDepth_append]
      omega

theorem not_openedSinceDefault_of_open {t : Text} (hopen : DefaultOpen t) :
    ¬ OpenedSinceDefault t := by
  obtain ⟨front, value, hplace, hnever⟩ := hopen
  rintro ⟨front', closed, since, hplace', hzero, -⟩
  obtain ⟨-, rfl⟩ := hplace.unique hplace'
  exact hnever closed (List.prefix_append _ _) hzero

/-- The sign tells whether the default value is open exactly where no other parenthesis has been
left open since the value was closed. -/
theorem insideDefault_iff_open_iff (before : Text) (trigger : Option Text) :
    ((read before trigger).insideDefault = true ↔ DefaultOpen before) ↔
      ¬ OpenedSinceDefault before := by
  have hinside : (read before trigger).insideDefault = true ↔
      DefaultOpen before ∨ OpenedSinceDefault before := insideDefaultParens_iff before
  have hexclusive : DefaultOpen before → ¬ OpenedSinceDefault before :=
    not_openedSinceDefault_of_open
  rw [hinside]
  constructor
  · intro hiff hsince
    exact hexclusive (hiff.mp (.inr hsince)) hsince
  · intro hnot
    exact or_iff_left hnot

/-- An attribute behind a default value that was closed, its parenthesis still open. -/
def exampleLine : Text :=
  "  id Int ".toList ++ (defaultOpening ++ ("now())".toList ++ " @relation(".toList))

theorem openedSinceDefault_exampleLine : OpenedSinceDefault exampleLine :=
  ⟨_, "now())".toList, " @relation(".toList, lastPlace_of_lastIndexOf? (by decide), by decide,
    by decide⟩

theorem open_attribute_taken_for_default :
    ¬ ((read exampleLine none).insideDefault = true ↔ DefaultOpen exampleLine) := by
  intro hiff
  have hinside : (read exampleLine none).insideDefault = true := by decide +kernel
  exact not_openedSinceDefault_of_open (hiff.mp hinside) openedSinceDefault_exampleLine

end Cues

end SchemaDesk

import Mathlib.Data.List.Infix
import SchemaDesk.Text.Basic

/-!
# First places

A search finds the first place where a part stands: it stands there, and at no place before. What
is found in a text is found in the front of it as well, if the front holds all of the part.
-/

namespace SchemaDesk.Text

/-- Either a part stands nowhere, or the search finds the first place where it does. -/
theorem indexOf?_cases (part t : Text) :
    (indexOf? part t = none ∧ ∀ place, ¬part <+: t.drop place) ∨
      ∃ start, indexOf? part t = some start ∧ part <+: t.drop start ∧
        ∀ place < start, ¬part <+: t.drop place := by
  induction t with
  | nil =>
      cases part with
      | nil => exact .inr ⟨0, rfl, List.nil_prefix, nofun⟩
      | cons c part => exact .inl ⟨rfl, by simp⟩
  | cons c rest ih =>
      by_cases hhead : part.isPrefixOf (c :: rest)
      · refine .inr ⟨0, by rw [indexOf?, if_pos hhead], ?_, nofun⟩
        exact List.isPrefixOf_iff_prefix.mp hhead
      · -- Behind the first character the places of the text are those of the rest.
        have hbefore (place : Nat) (hrest : ∀ later, place = later + 1 → ¬part <+: rest.drop later) :
            ¬part <+: (c :: rest).drop place := by
          cases place with
          | zero => exact mt List.isPrefixOf_iff_prefix.mpr hhead
          | succ later => exact hrest later rfl
        rcases ih with ⟨hnone, hno⟩ | ⟨start, hsome, hstart, hfirst⟩
        · refine .inl ⟨by rw [indexOf?, if_neg hhead, hnone]; rfl, fun place => ?_⟩
          exact hbefore place fun later _ => hno later
        · refine .inr ⟨start + 1, by rw [indexOf?, if_neg hhead, hsome]; rfl, hstart, ?_⟩
          intro place hplace
          exact hbefore place fun later hlater => hfirst later (by omega)

theorem not_prefix_of_indexOf?_eq_none {part t : Text} (h : indexOf? part t = none) (place : Nat) :
    ¬part <+: t.drop place := by
  rcases indexOf?_cases part t with ⟨-, hno⟩ | ⟨start, hsome, -⟩
  · exact hno place
  · rw [h] at hsome
    cases hsome

theorem prefix_of_indexOf?_eq_some {part t : Text} {start : Nat} (h : indexOf? part t = some start) :
    part <+: t.drop start ∧ ∀ place < start, ¬part <+: t.drop place := by
  rcases indexOf?_cases part t with ⟨hnone, -⟩ | ⟨found, hsome, hfound⟩
  · rw [h] at hnone
    cases hnone
  · obtain rfl : found = start := Option.some.inj (hsome.symm.trans h)
    exact hfound

theorem indexOf?_eq_some {part t : Text} {offset : Nat} (hplace : part <+: t.drop offset)
    (hfirst : ∀ k < offset, ¬part <+: t.drop k) : indexOf? part t = some offset := by
  rcases indexOf?_cases part t with ⟨-, hno⟩ | ⟨start, hsome, hstart, hbefore⟩
  · exact absurd hplace (hno offset)
  · rcases Nat.lt_trichotomy start offset with hlt | rfl | hgt
    · exact absurd hstart (hfirst start hlt)
    · exact hsome
    · exact absurd hplace (hbefore offset hgt)

theorem indexFrom?_eq_some {part t : Text} {start offset : Nat} (hstart : start ≤ offset)
    (hoffset : offset ≤ t.length) (hplace : part <+: t.drop offset)
    (hfirst : ∀ k, start ≤ k → k < offset → ¬part <+: t.drop k) :
    indexFrom? part t start = some offset := by
  have hfound : indexOf? part (t.drop start) = some (offset - start) := by
    apply indexOf?_eq_some
    · rw [List.drop_drop, Nat.add_sub_cancel' hstart]
      exact hplace
    · intro k hk
      rw [List.drop_drop]
      exact hfirst (start + k) (Nat.le_add_right _ _) (by omega)
  rw [indexFrom?, if_pos (hstart.trans hoffset), hfound, Option.map_some, Nat.sub_add_cancel hstart]

theorem getElem?_of_prefix_drop {part t : Text} {offset : Nat} (hplace : part <+: t.drop offset)
    {i : Nat} (hi : i < part.length) : t[offset + i]? = part[i]? := by
  obtain ⟨rest, hrest⟩ := hplace
  rw [← List.getElem?_drop, ← hrest, List.getElem?_append_left hi]

/-! ## The front of a text -/

theorem prefix_drop_take_iff {part t : Text} {place count : Nat} :
    part <+: (t.take count).drop place ↔ part <+: t.drop place ∧ part.length ≤ count - place := by
  rw [List.drop_take, List.prefix_take_iff]

theorem indexOf?_take_eq_some {part t : Text} {start count : Nat}
    (h : indexOf? part t = some start) (hcount : start + part.length ≤ count) :
    indexOf? part (t.take count) = some start := by
  obtain ⟨hstart, hfirst⟩ := prefix_of_indexOf?_eq_some h
  apply indexOf?_eq_some
  · exact prefix_drop_take_iff.mpr ⟨hstart, by omega⟩
  · exact fun place hplace hthere => hfirst place hplace (prefix_drop_take_iff.mp hthere).1

theorem indexOf?_take_eq_none {part t : Text} {count : Nat} (hpart : part ≠ [])
    (h : ∀ place, place + part.length ≤ count → ¬part <+: t.drop place) :
    indexOf? part (t.take count) = none := by
  rcases indexOf?_cases part (t.take count) with ⟨hnone, -⟩ | ⟨start, -, hstart, -⟩
  · exact hnone
  · obtain ⟨hthere, hlength⟩ := prefix_drop_take_iff.mp hstart
    have hpos := List.length_pos_iff.mpr hpart
    exact absurd hthere (h start (by omega))

end SchemaDesk.Text

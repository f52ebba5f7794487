import SchemaDesk.Snippet.Template

/-!
# Expanded templates

The cursor of an expanded template and what it selects lie in its text, the text holds
no characters but those of the template, and a template without a dollar sign is its
own text.
-/

namespace SchemaDesk.Snippet

/-- What the pieces of a template leave in the text. -/
def textOf (parts : List Piece) : Text :=
  parts.flatMap Piece.text

@[simp]
theorem textOf_cons (piece : Piece) (rest : List Piece) :
    textOf (piece :: rest) = piece.text ++ textOf rest :=
  List.flatMap_cons

theorem textOf_append (front rest : List Piece) :
    textOf (front ++ rest) = textOf front ++ textOf rest :=
  List.flatMap_append

theorem length_text_tabstop {number default : Text} (hfinal : isFinal number = false) :
    (Piece.tabstop number default).text.length = default.length := by
  simp [Piece.text, hfinal]

/-- The default of the first tabstop lies in the text. -/
theorem firstTabstop?_le {parts : List Piece} {offset first length : Nat}
    (hfirst : firstTabstop? offset parts = some (first, length)) :
    first + length ≤ offset + (textOf parts).length := by
  induction parts generalizing offset with
  | nil => cases hfirst
  | cons piece rest ih =>
      cases piece with
      | literal c =>
          have hrest := ih hfirst
          simp only [textOf_cons, Piece.text, List.length_append, List.length_singleton]
          omega
      | tabstop number default =>
          simp only [firstTabstop?] at hfirst
          rw [textOf_cons, List.length_append]
          split at hfirst
          next =>
            have hrest := ih hfirst
            omega
          next hfinal =>
            cases hfirst
            rw [length_text_tabstop (by simpa using hfinal)]
            omega

/-- Tabstop zero lies in the text. -/
theorem finalTabstop?_le {parts : List Piece} {offset final : Nat}
    (hfound : finalTabstop? offset parts = some final) :
    final ≤ offset + (textOf parts).length := by
  induction parts generalizing offset with
  | nil => cases hfound
  | cons piece rest ih =>
      rw [textOf_cons, List.length_append]
      cases piece with
      | literal c =>
          have hrest := ih hfound
          simp only [Piece.text, List.length_singleton]
          omega
      | tabstop number default =>
          simp only [finalTabstop?] at hfound
          split at hfound
          next =>
            cases hfound
            omega
          next hfinal =>
            have hrest := ih hfound
            rw [length_text_tabstop (by simpa using hfinal)]
            omega

theorem text_expand (template : Text) : (expand template).text = textOf (pieces template) := by
  unfold expand
  dsimp only
  split <;> rfl

theorem expand_of_first {template : Text} {offset length : Nat}
    (hfirst : firstTabstop? 0 (pieces template) = some (offset, length)) :
    (expand template).cursorOffset = offset ∧ (expand template).selectionLength = length := by
  simp [expand, hfirst]

theorem expand_of_no_first {template : Text}
    (hnone : firstTabstop? 0 (pieces template) = none) :
    (expand template).cursorOffset =
        (finalTabstop? 0 (pieces template)).getD (expand template).text.length ∧
      (expand template).selectionLength = 0 := by
  simp [expand, hnone]

/-- The cursor and what it selects lie in the expanded text. -/
theorem cursor_within_expand (template : Text) :
    (expand template).cursorOffset + (expand template).selectionLength ≤
      (expand template).text.length := by
  cases hfirst : firstTabstop? 0 (pieces template) with
  | some found =>
      obtain ⟨hcursor, hlength⟩ := expand_of_first hfirst
      rw [hcursor, hlength, text_expand]
      simpa using firstTabstop?_le hfirst
  | none =>
      obtain ⟨hcursor, hlength⟩ := expand_of_no_first hfirst
      rw [hcursor, hlength, text_expand]
      cases hfinal : finalTabstop? 0 (pieces template) with
      | none => simp
      | some final => simpa using finalTabstop?_le hfinal

/-! ## Characters -/

theorem readBraced?_subset {t : Text} {piece : Piece} {length : Nat}
    (hread : readBraced? t = some (piece, length)) : piece.text ⊆ t := by
  unfold readBraced? at hread
  dsimp only at hread
  split at hread
  · cases hread
  · split at hread
    · cases hread
      simp [Piece.text]
    next rest hrest =>
      split at hread
      · cases hread
        have hdefault : rest.takeWhile (· != '}') ⊆ t := by
          intro c hc
          have hdrop := List.mem_cons_of_mem ':' ((List.takeWhile_subset _) hc)
          rw [← hrest] at hdrop
          exact List.mem_of_mem_drop hdrop
        unfold Piece.text
        dsimp only
        split
        · exact List.nil_subset t
        · exact hdefault
      · cases hread
    · cases hread

theorem readTabstop?_subset {t : Text} {piece : Piece} {length : Nat}
    (hread : readTabstop? t = some (piece, length)) : piece.text ⊆ t := by
  unfold readTabstop? at hread
  split at hread
  next rest =>
    obtain ⟨⟨braced, inside⟩, hbraced, hpiece⟩ := Option.map_eq_some_iff.mp hread
    cases hpiece
    exact List.subset_cons_of_subset _ (List.subset_cons_of_subset _ (readBraced?_subset hbraced))
  next rest _ =>
    dsimp only at hread
    split at hread
    · cases hread
    · cases hread
      simp [Piece.text]
  next => cases hread

theorem textOf_piecesFrom_subset (skip : Nat) (t : Text) : textOf (piecesFrom skip t) ⊆ t := by
  -- A tabstop is read as a whole and then skipped, so the induction is for any skip.
  induction t generalizing skip with
  | nil => exact List.nil_subset _
  | cons c rest ih =>
      cases skip with
      | succ skip => exact List.subset_cons_of_subset c (ih skip)
      | zero =>
          unfold piecesFrom
          dsimp only
          split
          next piece length hread =>
            rw [textOf_cons]
            exact List.append_subset.mpr
              ⟨readTabstop?_subset hread, List.subset_cons_of_subset c (ih _)⟩
          next =>
            rw [textOf_cons]
            exact List.cons_subset_cons c (ih 0)

/-- Expanding a template makes up no characters. -/
theorem text_expand_subset (template : Text) : (expand template).text ⊆ template := by
  rw [text_expand]
  exact textOf_piecesFrom_subset 0 template

/-! ## Templates without tabstops -/

theorem readTabstop?_of_ne {c : Char} (hdollar : c ≠ '$') (rest : Text) :
    readTabstop? (c :: rest) = none := by
  unfold readTabstop?
  split
  next heq => exact absurd (List.cons.inj heq).1 hdollar
  next heq => exact absurd (List.cons.inj heq).1 hdollar
  next => rfl

theorem pieces_append_of_no_dollar {t : Text} (hdollar : '$' ∉ t) (rest : Text) :
    pieces (t ++ rest) = t.map .literal ++ pieces rest := by
  unfold pieces
  induction t with
  | nil => rfl
  | cons c t ih =>
      rw [List.mem_cons, not_or] at hdollar
      have hread := readTabstop?_of_ne (Ne.symm hdollar.1) (t ++ rest)
      simp only [List.cons_append, piecesFrom, hread, List.map_cons, ih hdollar.2]

theorem pieces_of_no_dollar {template : Text} (hdollar : '$' ∉ template) :
    pieces template = template.map .literal := by
  simpa [pieces, piecesFrom] using pieces_append_of_no_dollar hdollar []

@[simp]
theorem textOf_map_literal (t : Text) : textOf (t.map .literal) = t := by
  induction t with
  | nil => rfl
  | cons c t ih => simpa [Piece.text] using ih

theorem firstTabstop?_map_literal (offset : Nat) (t : Text) :
    firstTabstop? offset (t.map .literal) = none := by
  induction t generalizing offset with
  | nil => rfl
  | cons c t ih => exact ih (offset + 1)

theorem finalTabstop?_map_literal (offset : Nat) (t : Text) :
    finalTabstop? offset (t.map .literal) = none := by
  induction t generalizing offset with
  | nil => rfl
  | cons c t ih => exact ih (offset + 1)

/-- A template without a dollar sign is inserted as it is, with the cursor behind it. -/
theorem expand_of_no_dollar {template : Text} (hdollar : '$' ∉ template) :
    expand template =
      { text := template, cursorOffset := template.length, selectionLength := 0 } := by
  have htext : (template.map Piece.literal).flatMap Piece.text = template :=
    textOf_map_literal template
  simp only [expand, pieces_of_no_dollar hdollar, htext, firstTabstop?_map_literal,
    finalTabstop?_map_literal, Option.getD_none]

end SchemaDesk.Snippet

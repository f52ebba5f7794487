import SchemaDesk.Proofs.DocumentPlaces
import SchemaDesk.Proofs.FirstPlaces
import SchemaDesk.Proofs.LineTokens
import SchemaDesk.Proofs.RequestedPlaces

/-!
# Cards lie over their tokens

The word of a card is the first token of the line that the column touches. Where the word stands
is searched for afresh, from a place before the token on. As documented words are letters with at
most two at signs before them, nothing that is found earlier can reach the column, so a card
lies over the very token it was made for.
-/

namespace SchemaDesk

open Text

namespace Text

/-- The offset lies in the stretch or at one of its ends. -/
def Stretch.Touches (stretch : Stretch) (offset : Nat) : Prop :=
  stretch.start ≤ offset ∧ offset ≤ stretch.start + stretch.length

end Text

namespace Hover

/-! ## Documented words -/

/-- Letters with at most two at signs before them. -/
structure IsEntry (word signs name : Text) : Prop where
  split : word = signs ++ name
  two_signs : signs.length ≤ 2
  at_signs : ∀ c ∈ signs, c = '@'
  name_ne_nil : name ≠ []
  letters : ∀ c ∈ name, startsIdentifier c = true

theorem exists_isEntry {word : Text} {markdown : String}
    (hdocs : lookup? (String.ofList word) = some markdown) :
    ∃ signs name, IsEntry word signs name := by
  have hentries : ∀ entry ∈ docs,
      (entry.1.toList.takeWhile (· == '@')).length ≤ 2 ∧
        entry.1.toList.dropWhile (· == '@') ≠ [] ∧
          (entry.1.toList.dropWhile (· == '@')).all startsIdentifier = true := by
    decide +kernel
  obtain ⟨entry, hfound, -⟩ := Option.map_eq_some_iff.mp hdocs
  have hword : entry.1.toList = word := by
    have hkey := List.find?_some hfound
    rw [beq_iff_eq] at hkey
    rw [hkey, String.toList_ofList]
  have hentry := hentries entry (List.mem_of_find?_eq_some hfound)
  rw [hword] at hentry
  obtain ⟨htwo, hne, hletters⟩ := hentry
  refine ⟨_, _, List.takeWhile_append_dropWhile.symm, htwo, ?_, hne, List.all_eq_true.mp hletters⟩
  intro c hc
  simpa using List.mem_takeWhile_imp hc

namespace IsEntry

variable {word signs name : Text} (h : IsEntry word signs name)

include h

theorem length_signs_lt : signs.length < word.length := by
  have hname := List.length_pos_iff.mpr h.name_ne_nil
  rw [h.split, List.length_append]
  omega

theorem getElem?_sign {i : Nat} (hi : i < signs.length) : word[i]? = some '@' := by
  rw [h.split, List.getElem?_append_left hi, List.getElem?_eq_getElem hi,
    h.at_signs _ (List.getElem_mem hi)]

theorem exists_letter {i : Nat} (hsigns : signs.length ≤ i) (hi : i < word.length) :
    ∃ c, word[i]? = some c ∧ startsIdentifier c = true := by
  rw [h.split, List.length_append] at hi
  have hname : i - signs.length < name.length := by omega
  refine ⟨name[i - signs.length], ?_, h.letters _ (List.getElem_mem hname)⟩
  rw [h.split, List.getElem?_append_right hsigns, List.getElem?_eq_getElem hname]

/-- Two places of an entry lie further apart than it has signs: closer ones would have a sign
where there is a letter. -/
theorem length_signs_lt_sub {t : Text} {k offset : Nat} (hearlier : word <+: t.drop k)
    (hlater : word <+: t.drop offset) (hk : k < offset) : signs.length < offset - k := by
  by_contra hclose
  have hlong := h.length_signs_lt
  obtain ⟨c, hget, hc⟩ := h.exists_letter (Nat.le_refl _) hlong
  have hsign := h.getElem?_sign (i := signs.length - (offset - k)) (by omega)
  have hthere := getElem?_of_prefix_drop hearlier hlong
  have hhere := getElem?_of_prefix_drop hlater (i := signs.length - (offset - k)) (by omega)
  rw [show offset + (signs.length - (offset - k)) = k + signs.length by omega,
    hthere, hget, hsign] at hhere
  rw [Option.some.inj hhere] at hc
  exact absurd hc (by decide)

end IsEntry

/-! ## The token under the column -/

/-- The token is the first one of the line that touches the offset. -/
structure IsFirstAt (line : Text) (offset : Nat) (token : Stretch) : Prop where
  touches : token.Touches offset
  first : ∃ before after, tokens line = before ++ token :: after ∧
    ∀ earlier ∈ before, ¬earlier.Touches offset

theorem IsFirstAt.mem {line : Text} {offset : Nat} {token : Stretch}
    (h : IsFirstAt line offset token) : token ∈ tokens line := by
  obtain ⟨before, after, htokens, -⟩ := h.first
  simp [htokens]

theorem tokenAt?_eq_some_iff {line : Text} {offset : Nat} {token : Stretch} :
    tokenAt? line offset = some token ↔ IsFirstAt line offset token := by
  have htouches (stretch : Stretch) :
      (decide (stretch.start ≤ offset) && decide (offset ≤ stretch.start + stretch.length)) = true ↔
        stretch.Touches offset := by
    rw [Bool.and_eq_true, decide_eq_true_iff, decide_eq_true_iff, Stretch.Touches]
  rw [tokenAt?, List.find?_eq_some_iff_append]
  simp only [Bool.not_eq_true', ← Bool.not_eq_true, htouches]
  exact ⟨fun ⟨htouch, hfirst⟩ => ⟨htouch, hfirst⟩, fun h => ⟨h.touches, h.first⟩⟩

theorem tokenAt?_eq_none_iff {line : Text} {offset : Nat} :
    tokenAt? line offset = none ↔ ∀ token ∈ tokens line, ¬token.Touches offset := by
  simp [tokenAt?, Stretch.Touches]

theorem no_token_or_exists_isFirstAt (line : Text) (offset : Nat) :
    (∀ token ∈ tokens line, ¬token.Touches offset) ∨ ∃ token, IsFirstAt line offset token := by
  cases htoken : tokenAt? line offset with
  | none => exact .inl (tokenAt?_eq_none_iff.mp htoken)
  | some token => exact .inr ⟨token, tokenAt?_eq_some_iff.mp htoken⟩

theorem prefix_drop_of_mem_tokens {line : Text} {token : Stretch} (htoken : token ∈ tokens line) :
    slice line token <+: line.drop token.start ∧ (slice line token).length = token.length := by
  obtain ⟨word, rest, hsplit, hlength, -, -⟩ := (scannedFrom_tokens line).tokenAt token htoken
  have hword : slice line token = word := by
    rw [slice, hsplit, ← hlength, List.take_left]
  rw [hword, hsplit]
  exact ⟨List.prefix_append _ _, hlength⟩

/-- Where a documented token stands, and between it and a place from which the word reaches the
column, the word stands nowhere else. -/
theorem not_prefix_drop_before {line : Text} {offset : Nat} {token : Stretch}
    (hfirst : IsFirstAt line offset token) {signs name : Text}
    (hentry : IsEntry (slice line token) signs name) {k : Nat} (hk : k < token.start)
    (hreach : offset ≤ k + (slice line token).length) :
    ¬slice line token <+: line.drop k := by
  intro hearlier
  obtain ⟨before, after, htokens, hbefore⟩ := hfirst.first
  obtain ⟨hplace, -⟩ := prefix_drop_of_mem_tokens hfirst.mem
  have htouches := hfirst.touches.1
  generalize slice line token = word at *
  have hapart := hentry.length_signs_lt_sub hearlier hplace hk
  -- The earlier one has a letter directly before the token, so another token ends there.
  obtain ⟨c, hget, hc⟩ := hentry.exists_letter (i := token.start - k - 1) (by omega) (by omega)
  have hletter := getElem?_of_prefix_drop hearlier (i := token.start - k - 1) (by omega)
  rw [hget, show k + (token.start - k - 1) = token.start - 1 by omega] at hletter
  have hscanned := scannedFrom_tokens line
  rw [htokens] at hscanned
  obtain ⟨earlier, hmem, hends, hstops⟩ := hscanned.exists_ending_at (by omega) hletter hc
  rcases Nat.lt_or_ge (token.start - k) word.length with hoverlap | hdistinct
  · obtain ⟨d, hget', hd⟩ := hentry.exists_letter (i := token.start - k) (by omega) hoverlap
    have hnext := getElem?_of_prefix_drop hearlier hoverlap
    rw [hget', show k + (token.start - k) = token.start by omega] at hnext
    have hnot := hstops d (by rw [List.head?_drop, hnext])
    rw [isWordChar_of_startsIdentifier hd] at hnot
    cases hnot
  · exact hbefore earlier hmem ⟨by omega, by omega⟩

/-! ## Cards -/

/-- The card lies over the token on the line of the place, and shows what is documented for
it. -/
structure Card.Covers (card : Card) (lineText : Text) (place : Position) (token : Stretch) :
    Prop where
  line_eq : card.line = place.line
  word_eq : card.word = slice lineText token
  start_eq : card.startColumn = token.start + 1
  end_eq : card.endColumn = token.start + token.length + 1
  between : (lineText.drop (card.startColumn - 1).toNat).take
    (card.endColumn - card.startColumn).toNat = card.word
  start_le : card.startColumn ≤ place.column
  le_end : place.column ≤ card.endColumn
  documented : lookup? (String.ofList card.word) = some card.markdown

theorem wordAt_of_isFirstAt {line : Text} {column : Int} {token : Stretch}
    (hfirst : IsFirstAt line (column - 1).toNat token) : wordAt line column = slice line token := by
  rw [wordAt, tokenAt?_eq_some_iff.mpr hfirst]

theorem wordAt_of_no_token {line : Text} {column : Int}
    (hnone : ∀ token ∈ tokens line, ¬token.Touches (column - 1).toNat) :
    wordAt line column = [] := by
  rw [wordAt, tokenAt?_eq_none_iff.mpr hnone]

/-- The search for a documented word finds the token that the word was taken from. -/
theorem indexFrom?_of_documented {line : Text} {column : Int} {token : Stretch} {markdown : String}
    (hfirst : IsFirstAt line (column - 1).toNat token)
    (hdocs : lookup? (String.ofList (slice line token)) = some markdown) :
    indexFrom? (slice line token) line (column - 1 - token.length).toNat = some token.start := by
  obtain ⟨hplace, hlength⟩ := prefix_drop_of_mem_tokens hfirst.mem
  obtain ⟨signs, name, hentry⟩ := exists_isEntry hdocs
  have hends := hfirst.touches.2
  apply indexFrom?_eq_some
  · omega
  · have hfits := hplace.length_le
    have hlong := hentry.length_signs_lt
    rw [List.length_drop] at hfits
    omega
  · exact hplace
  · intro k hfrom hk
    exact not_prefix_drop_before hfirst hentry hk (by omega)

theorem exists_covers_of_documented {lines : List Text} {place : Position} {token : Stretch}
    {markdown : String} (hcolumn : 1 ≤ place.column)
    (hfirst : IsFirstAt (Position.lineText lines place.line) (place.column - 1).toNat token)
    (hdocs : lookup? (String.ofList (slice (Position.lineText lines place.line) token)) =
      some markdown) :
    ∃ shown, cardAt lines place = some shown ∧
      shown.Covers (Position.lineText lines place.line) place token := by
  obtain ⟨-, hlength⟩ := prefix_drop_of_mem_tokens hfirst.mem
  obtain ⟨hbelow, habove⟩ := hfirst.touches
  refine ⟨⟨slice (Position.lineText lines place.line) token, markdown, place.line,
    token.start + 1, token.start + 1 + token.length⟩, ?_, ?_⟩
  · rw [cardAt, wordAt_of_isFirstAt hfirst, hdocs, Option.map_some]
    simp only [hlength, indexFrom?_of_documented hfirst hdocs, Option.getD_some]
  · refine ⟨rfl, rfl, rfl, ?_, ?_, ?_, ?_, hdocs⟩ <;> dsimp only
    · exact Int.add_right_comm _ _ _
    · rw [Int.add_sub_cancel, Int.toNat_natCast, add_sub_cancel_left, Int.toNat_natCast, slice]
    · omega
    · omega

theorem cardAt_of_undocumented {lines : List Text} {place : Position} {token : Stretch}
    (hfirst : IsFirstAt (Position.lineText lines place.line) (place.column - 1).toNat token)
    (hdocs : lookup? (String.ofList (slice (Position.lineText lines place.line) token)) = none) :
    cardAt lines place = none := by
  rw [cardAt, wordAt_of_isFirstAt hfirst, hdocs, Option.map_none]

theorem cardAt_of_no_token {lines : List Text} {place : Position}
    (hnone : ∀ token ∈ tokens (Position.lineText lines place.line),
      ¬token.Touches (place.column - 1).toNat) :
    cardAt lines place = none := by
  have hempty : lookup? (String.ofList []) = none := by decide
  rw [cardAt, wordAt_of_no_token hnone, hempty, Option.map_none]

theorem exists_covers_of_cardAt {lines : List Text} {place : Position} {shown : Card}
    (hcolumn : 1 ≤ place.column) (hshown : cardAt lines place = some shown) :
    ∃ token, IsFirstAt (Position.lineText lines place.line) (place.column - 1).toNat token ∧
      shown.Covers (Position.lineText lines place.line) place token := by
  rcases no_token_or_exists_isFirstAt (Position.lineText lines place.line)
    (place.column - 1).toNat with hnone | ⟨token, hfirst⟩
  · rw [cardAt_of_no_token hnone] at hshown
    cases hshown
  cases hdocs : lookup? (String.ofList (slice (Position.lineText lines place.line) token)) with
  | none =>
      rw [cardAt_of_undocumented hfirst hdocs] at hshown
      cases hshown
  | some markdown =>
      obtain ⟨found, hfound, hcovers⟩ := exists_covers_of_documented hcolumn hfirst hdocs
      obtain rfl : found = shown := Option.some.inj (hfound.symm.trans hshown)
      exact ⟨token, hfirst, hcovers⟩

theorem cardAt_eq_none_iff {lines : List Text} {place : Position} (hcolumn : 1 ≤ place.column) :
    cardAt lines place = none ↔
      (∀ token ∈ tokens (Position.lineText lines place.line),
        ¬token.Touches (place.column - 1).toNat) ∨
      ∃ token, IsFirstAt (Position.lineText lines place.line) (place.column - 1).toNat token ∧
        lookup? (String.ofList (slice (Position.lineText lines place.line) token)) = none := by
  constructor
  · intro hcard
    rcases no_token_or_exists_isFirstAt (Position.lineText lines place.line)
      (place.column - 1).toNat with hnone | ⟨token, hfirst⟩
    · exact .inl hnone
    · refine .inr ⟨token, hfirst, Option.eq_none_iff_forall_ne_some.mpr ?_⟩
      intro markdown hdocs
      obtain ⟨found, hfound, -⟩ := exists_covers_of_documented hcolumn hfirst hdocs
      rw [hcard] at hfound
      cases hfound
  · rintro (hnone | ⟨token, hfirst, hdocs⟩)
    · exact cardAt_of_no_token hnone
    · exact cardAt_of_undocumented hfirst hdocs

/-- A card lies over the first token of its line that the column touches, as the line is scanned
from left to right. There is none exactly where no token touches the column or nothing is
documented for the first that does. -/
theorem card_covers_token (text : Text) (line column : Int) :
    let lines := (Document.text text).toLines
    let place := Position.clampTo lines line column
    let lineText := Position.lineText lines place.line
    let offset := (place.column - 1).toNat
    ScannedFrom lineText 0 (tokens lineText) ∧
      ∃ found, card text (.place (.int line) (.int column)) = .ok found ∧
        (∀ shown, found = some shown →
          ∃ token, IsFirstAt lineText offset token ∧ shown.Covers lineText place token) ∧
        (found = none ↔
          (∀ token ∈ tokens lineText, ¬token.Touches offset) ∨
            ∃ token, IsFirstAt lineText offset token ∧
              lookup? (String.ofList (slice lineText token)) = none) := by
  intro lines place lineText offset
  have hcard : card text (.place (.int line) (.int column)) = .ok (cardAt lines place) := by
    rw [card, Position.clamp_of_parts rfl]
    rfl
  have hcolumn : 1 ≤ place.column :=
    (Position.standsFor_clampTo (Document.text text).toLines_ne_nil (Position.part_int line)
      (Position.part_int column)).2.one_le
  refine ⟨scannedFrom_tokens lineText, cardAt lines place, hcard, ?_, cardAt_eq_none_iff hcolumn⟩
  intro shown hshown
  exact exists_covers_of_cardAt hcolumn hshown

/-- Of two equal tokens side by side the card lies over the one that was asked for. -/
example : (cardAt ["@id@id".toList] ⟨1, 5⟩).map (·.startColumn) = some 4 := by
  decide

end Hover

end SchemaDesk

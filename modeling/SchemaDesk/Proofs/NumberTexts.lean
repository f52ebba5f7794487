import Mathlib.Data.Bool.AllAny
import Mathlib.Data.Nat.Digits.Defs
import SchemaDesk.Decimal.Style
import SchemaDesk.Json.Parser
import SchemaDesk.Proofs.ShortestDecimals

/-!
# The texts of numbers

A number that was written is read again as the same number, whatever follows it in the
document. Whole numbers are digits after a sign. The text of a floating-point value has
a whole part, a fraction and an exponent, of which the last two may be missing; where
its digits are cut and how many zeros stand around them does not change its value.
-/

namespace SchemaDesk

namespace Decimal

open Json (isDigit)

/-! ## Digits -/

theorem decimalDigit?_of_isDigit {c : Char} (hdigit : isDigit c = true) :
    Text.decimalDigit? c = some (c.toNat - 48) := by
  have hbounds : '0' ≤ c ∧ c ≤ '9' := by simpa [isDigit] using hdigit
  have hsmall : c.toNat < 128 :=
    Nat.lt_of_le_of_lt (UInt32.le_iff_toNat_le.mp hbounds.2) (by decide)
  simp [Text.decimalDigit?, hsmall, hbounds]

/-- The number that a text of digits stands for. -/
def textValue (t : Text) : Nat :=
  digitsValue (t.map fun c => c.toNat - 48)

theorem textValue_append (t u : Text) :
    textValue (t ++ u) = textValue t * 10 ^ u.length + textValue u := by
  induction u using List.reverseRecOn with
  | nil => simp [textValue, digitsValue]
  | append_singleton u c ih =>
      have hlast (v : Text) : textValue (v ++ [c]) = textValue v * 10 + (c.toNat - 48) := by
        simp [textValue, digitsValue, List.foldl_append]
      rw [← List.append_assoc, hlast, hlast, ih, List.length_append, List.length_singleton,
        Nat.pow_succ]
      ring

theorem textValue_replicate_zero (count : Nat) : textValue (List.replicate count '0') = 0 := by
  induction count with
  | zero => rfl
  | succ count ih =>
      have hzero : textValue ['0'] = 0 := rfl
      rw [List.replicate_succ, ← List.singleton_append, textValue_append, ih, hzero, Nat.zero_mul]

theorem textValue_natText (n : Nat) : textValue (natText n) = n := by
  have hvalue := Nat.ofDigitChars_toDigits (b := 10) (n := n) (by decide) (by decide)
  rw [Nat.ofDigitChars] at hvalue
  rw [textValue, digitsValue, List.foldl_map, natText]
  simpa [Nat.mul_comm] using hvalue

theorem isDigit_eq (c : Char) : isDigit c = c.isDigit := by
  simp only [isDigit, Char.isDigit, ge_iff_le, Char.le_def]

theorem isDigit_natText {n : Nat} {c : Char} (hmem : c ∈ natText n) : isDigit c = true := by
  rw [isDigit_eq]
  exact Nat.isDigit_of_mem_toDigits (by decide) (by decide) hmem

theorem natText_ne_nil (n : Nat) : natText n ≠ [] := by
  rw [natText, Nat.toDigits_eq_if (by decide)]
  split <;> simp

/-- Only zero starts with a zero. -/
theorem head?_natText {n : Nat} (hn : n ≠ 0) : (natText n).head? ≠ some '0' := by
  induction n using Nat.strong_induction_on with
  | _ n ih =>
      rw [natText, Nat.toDigits_eq_if (by decide)]
      split
      next hsmall =>
        have hdigits : ∀ m < 10, m ≠ 0 → m.digitChar ≠ '0' := by decide
        simpa using hdigits n hsmall hn
      next hlarge =>
        change (natText (n / 10) ++ _).head? ≠ _
        rw [List.head?_append_of_ne_nil _ (natText_ne_nil (n / 10))]
        exact ih (n / 10) (by omega) (by omega)

/-! ## Reading digits -/

/-- The text goes on with no digit, and with nothing that joins digits. -/
def Stops (t : Text) : Prop :=
  ∀ c, t.head? = some c → Text.decimalDigit? c = none ∧ c ≠ '_'

theorem stops_nil : Stops [] := by
  intro c hc
  cases hc

theorem stops_cons {c : Char} (hdigit : Text.decimalDigit? c = none) (hjoin : c ≠ '_') (t : Text) :
    Stops (c :: t) := by
  intro d hd
  cases hd
  exact ⟨hdigit, hjoin⟩

theorem digitRun_append {t rest : Text} (ht : ∀ c ∈ t, isDigit c = true) (hrest : Stops rest)
    (inside : Bool) : digitRun inside (t ++ rest) = (t.map fun c => c.toNat - 48, rest) := by
  induction t generalizing inside with
  | nil =>
      cases rest with
      | nil => rfl
      | cons c rest =>
          obtain ⟨hdigit, hjoin⟩ := hrest c rfl
          simp [digitRun, hdigit, hjoin]
  | cons c t ih =>
      have hdigit := decimalDigit?_of_isDigit (ht c List.mem_cons_self)
      have htail := ih (fun d hd => ht d (List.mem_cons_of_mem _ hd)) true
      simp [digitRun, hdigit, htail]

theorem not_isNumberBlank_of_isDigit {c : Char} (hdigit : isDigit c = true) :
    isNumberBlank c = false := by
  have hbounds : '0' ≤ c ∧ c ≤ '9' := by simpa [isDigit] using hdigit
  have hlow : 48 ≤ c.toNat := UInt32.le_iff_toNat_le.mp hbounds.1
  have hhigh : c.toNat ≤ 57 := UInt32.le_iff_toNat_le.mp hbounds.2
  simp only [isNumberBlank, Text.isBlank, Bool.and_eq_false_iff]
  left
  simp
  omega

theorem trimNumber_of_not_blank {t : Text} (ht : ∀ c ∈ t, isNumberBlank c = false) :
    trimNumber t = t := by
  have hself (u : Text) (hu : ∀ c ∈ u, isNumberBlank c = false) :
      u.dropWhile isNumberBlank = u := by
    cases u with
    | nil => rfl
    | cons c u => rw [List.dropWhile_cons_of_neg (by simp [hu c List.mem_cons_self])]
  rw [trimNumber, hself t ht, hself t.reverse (by simpa using ht), List.reverse_reverse]

/-- The sign of a number. -/
def signText (negative : Bool) : Text :=
  if negative then ['-'] else []

theorem signAndRest_signText (negative : Bool) {c : Char} (hc : isDigit c = true) (t : Text) :
    signAndRest (signText negative ++ c :: t) = (negative, c :: t) := by
  cases negative with
  | true => rfl
  | false =>
      change signAndRest (c :: t) = _
      unfold signAndRest
      split
      next heq =>
        cases heq
        cases hc
      next heq =>
        cases heq
        cases hc
      next => rfl

theorem not_isNumberBlank_of_mem_signText {negative : Bool} {c : Char}
    (hmem : c ∈ signText negative) : isNumberBlank c = false := by
  cases negative with
  | false => cases hmem
  | true =>
      cases List.mem_singleton.mp hmem
      decide

/-- Digits after a sign, if they are not too many, are a whole number. -/
theorem readWhole_digits (negative : Bool) {t : Text} (hne : t ≠ [])
    (ht : ∀ c ∈ t, isDigit c = true) (hlength : t.length ≤ digitLimit) :
    readWhole (signText negative ++ t) =
      .ok (if negative then -(textValue t : Int) else textValue t) := by
  have hblank : ∀ c ∈ signText negative ++ t, isNumberBlank c = false := by
    intro c hmem
    rcases List.mem_append.mp hmem with hmem | hmem
    · exact not_isNumberBlank_of_mem_signText hmem
    · exact not_isNumberBlank_of_isDigit (ht c hmem)
  have hsign : signAndRest (signText negative ++ t) = (negative, t) := by
    obtain ⟨c, t, rfl⟩ := List.exists_cons_of_ne_nil hne
    exact signAndRest_signText negative (ht c List.mem_cons_self) t
  have hrun := digitRun_append ht stops_nil false
  rw [List.append_nil] at hrun
  have hempty : (t.map fun c => c.toNat - 48).isEmpty = false := by simpa using hne
  simp only [readWhole, trimNumber_of_not_blank hblank, hsign, hrun, hempty, List.length_map,
    Nat.not_lt.mpr hlength, List.isEmpty_nil, List.head?_nil, textValue]
  simp

/-! ## Texts with a point or an exponent -/

/-- Whole parts have no zero in front that could be left out. -/
def Leads (whole : Text) : Prop :=
  whole = ['0'] ∨ whole.head? ≠ some '0'

/-- The text of a number: digits before the point, digits behind it, and an exponent with
its sign. Where there are no digits behind the point there is no point. -/
structure DecimalText where
  whole : Text
  fraction : Text
  exponent : Option (Bool × Text)
  whole_ne_nil : whole ≠ []
  leads : Leads whole
  isDigit_of_mem_whole : ∀ c ∈ whole, isDigit c = true
  isDigit_of_mem_fraction : ∀ c ∈ fraction, isDigit c = true
  exponent_ne_nil : ∀ part ∈ exponent, part.2 ≠ []
  isDigit_of_mem_exponent : ∀ part ∈ exponent, ∀ c ∈ part.2, isDigit c = true

namespace DecimalText

/-- The point with the digits behind it. -/
def fractionText (d : DecimalText) : Text :=
  if d.fraction.isEmpty then [] else '.' :: d.fraction

/-- The exponent with its mark and sign. -/
def exponentText (d : DecimalText) : Text :=
  match d.exponent with
  | none => []
  | some (negative, t) => 'e' :: (if negative then '-' else '+') :: t

/-- The text itself. -/
def text (d : DecimalText) : Text :=
  d.whole ++ d.fractionText ++ d.exponentText

/-- The power of ten that the exponent names. -/
def namedPower (d : DecimalText) : ℤ :=
  match d.exponent with
  | none => 0
  | some (negative, t) => if negative then -(textValue t : ℤ) else textValue t

/-- The decimal that the text stands for. -/
def scientific (d : DecimalText) : Scientific where
  digits := textValue (d.whole ++ d.fraction)
  exponent := d.namedPower - d.fraction.length

end DecimalText

theorem takeWhile_digits {t rest : Text} (ht : ∀ c ∈ t, isDigit c = true)
    (hrest : ∀ c, rest.head? = some c → isDigit c = false) :
    (t ++ rest).takeWhile isDigit = t ∧ (t ++ rest).dropWhile isDigit = rest := by
  rw [List.takeWhile_append_of_pos ht, List.dropWhile_append_of_pos ht]
  cases rest with
  | nil => simp
  | cons c rest =>
      have hc := hrest c rfl
      rw [List.takeWhile_cons_of_neg (by simp [hc]), List.dropWhile_cons_of_neg (by simp [hc])]
      simp

theorem takeWhole_append {t rest : Text} (hne : t ≠ []) (hleads : Leads t)
    (ht : ∀ c ∈ t, isDigit c = true) (hrest : ∀ c, rest.head? = some c → isDigit c = false) :
    Json.takeWhole (t ++ rest) = (t, rest) := by
  rcases hleads with rfl | hleads
  · rfl
  · obtain ⟨hwhole, hafter⟩ := takeWhile_digits ht hrest
    unfold Json.takeWhole
    split
    next heq =>
      cases t with
      | nil => exact absurd rfl hne
      | cons c t =>
          cases heq
          exact absurd rfl hleads
    next => rw [hwhole, hafter]

theorem takeFraction_append {t rest : Text} (hne : t ≠ []) (ht : ∀ c ∈ t, isDigit c = true)
    (hrest : ∀ c, rest.head? = some c → isDigit c = false) :
    Json.takeFraction ('.' :: t ++ rest) = ('.' :: t, rest) := by
  obtain ⟨htake, hdrop⟩ := takeWhile_digits ht hrest
  simp [Json.takeFraction, htake, hdrop, hne]

theorem takeExponent_append (negative : Bool) {t rest : Text} (hne : t ≠ [])
    (ht : ∀ c ∈ t, isDigit c = true) (hrest : ∀ c, rest.head? = some c → isDigit c = false) :
    Json.takeExponent ('e' :: (if negative then '-' else '+') :: t ++ rest) =
      ('e' :: (if negative then '-' else '+') :: t, rest) := by
  obtain ⟨htake, hdrop⟩ := takeWhile_digits ht hrest
  cases negative <;> simp [Json.takeExponent, htake, hdrop, hne]

theorem takeFraction_of_head {t : Text} (ht : t.head? ≠ some '.') :
    Json.takeFraction t = ([], t) := by
  unfold Json.takeFraction
  split
  next => exact absurd rfl ht
  next => rfl

theorem takeExponent_of_head {t : Text} (ht : ∀ c, t.head? = some c → c ≠ 'e' ∧ c ≠ 'E') :
    Json.takeExponent t = ([], t) := by
  cases t with
  | nil => rfl
  | cons c t =>
      obtain ⟨hlower, hupper⟩ := ht c rfl
      simp [Json.takeExponent, hlower, hupper]

theorem readNumber?_of_parts (negative : Bool) {whole fraction exponent rest : Text}
    (hne : whole ≠ []) (hdigits : ∀ c ∈ whole, isDigit c = true)
    (hwhole : Json.takeWhole (whole ++ (fraction ++ (exponent ++ rest))) =
      (whole, fraction ++ (exponent ++ rest)))
    (hfraction : Json.takeFraction (fraction ++ (exponent ++ rest)) = (fraction, exponent ++ rest))
    (hexponent : Json.takeExponent (exponent ++ rest) = (exponent, rest)) :
    Json.readNumber? (signText negative ++ (whole ++ (fraction ++ (exponent ++ rest)))) =
      if fraction.isEmpty && exponent.isEmpty then
        match readWhole (signText negative ++ whole) with
        | .ok i => some (.int i, rest)
        | .error _ => none
      else (readBinary64? (signText negative ++ whole ++ fraction ++ exponent)).map
        fun x => (.float x, rest) := by
  have hempty : whole.isEmpty = false := by simpa using hne
  cases negative with
  | true =>
      simp only [signText, if_true, List.cons_append, List.nil_append, Json.readNumber?, hwhole,
        hfraction, hexponent, hempty]
      rfl
  | false =>
      unfold Json.readNumber?
      dsimp only
      split
      next body heq =>
        cases whole with
        | nil => exact absurd rfl hne
        | cons c whole =>
            cases heq
            have hsign := hdigits '-' List.mem_cons_self
            cases hsign
      next =>
        have hbody : signText false ++ (whole ++ (fraction ++ (exponent ++ rest))) =
            whole ++ (fraction ++ (exponent ++ rest)) := rfl
        simp only [hbody, hwhole, hfraction, hexponent, hempty, Bool.false_eq_true, if_false]
        rfl

theorem toLower_of_isDigit {c : Char} (hc : isDigit c = true) : c.toLower = c := by
  have hbounds : '0' ≤ c ∧ c ≤ '9' := by simpa [isDigit] using hc
  have hhigh : c.val ≤ 57 := hbounds.2
  unfold Char.toLower
  split
  next hupper => grind
  next => rfl

theorem namedValue?_of_digit (negative : Bool) {c : Char} (hc : isDigit c = true) (t : Text) :
    namedValue? negative (c :: t) = none := by
  have hletters : c ≠ 'i' ∧ c ≠ 'n' := by
    constructor <;> rintro rfl <;> cases hc
  simp [namedValue?, toLower_of_isDigit hc, hletters]

namespace DecimalText

theorem isDigit_head (d : DecimalText) {c : Char} (hc : d.whole.head? = some c) :
    isDigit c = true :=
  d.isDigit_of_mem_whole c (List.mem_of_mem_head? hc)

theorem exponentText_cases (d : DecimalText) :
    d.exponentText = [] ∨ ∃ t, d.exponentText = 'e' :: t := by
  unfold exponentText
  split
  next => exact Or.inl rfl
  next => exact Or.inr ⟨_, rfl⟩

theorem head_exponentText (d : DecimalText) {rest : Text} {c : Char}
    (hc : (d.exponentText ++ rest).head? = some c) : c = 'e' ∨ rest.head? = some c := by
  rcases d.exponentText_cases with hnil | ⟨t, ht⟩
  · rw [hnil] at hc
    exact Or.inr hc
  · rw [ht] at hc
    cases hc
    exact Or.inl rfl

theorem head_fractionText (d : DecimalText) {rest : Text} {c : Char}
    (hc : (d.fractionText ++ (d.exponentText ++ rest)).head? = some c) :
    c = '.' ∨ c = 'e' ∨ rest.head? = some c := by
  unfold fractionText at hc
  split at hc
  next => exact Or.inr (d.head_exponentText hc)
  next =>
    cases hc
    exact Or.inl rfl

theorem isDigit_or_mark_of_mem_text (d : DecimalText) {c : Char} (hmem : c ∈ d.text) :
    isDigit c = true ∨ c ∈ ['.', 'e', '-', '+'] := by
  rcases List.mem_append.mp hmem with hmem | hmem
  · rcases List.mem_append.mp hmem with hmem | hmem
    · exact Or.inl (d.isDigit_of_mem_whole c hmem)
    · unfold fractionText at hmem
      split at hmem
      next => cases hmem
      next =>
        rcases List.mem_cons.mp hmem with rfl | hmem
        · exact Or.inr (by decide)
        · exact Or.inl (d.isDigit_of_mem_fraction c hmem)
  · unfold exponentText at hmem
    split at hmem
    next => cases hmem
    next negative t heq =>
      rcases List.mem_cons.mp hmem with rfl | hmem
      · exact Or.inr (by decide)
      · rcases List.mem_cons.mp hmem with rfl | hmem
        · cases negative <;> exact Or.inr (by decide)
        · exact Or.inl (d.isDigit_of_mem_exponent _ heq c hmem)

theorem exponentAndRest_text (d : DecimalText) :
    exponentAndRest d.exponentText = (d.namedPower, []) := by
  unfold exponentText namedPower
  split
  next => rfl
  next negative t heq =>
    have hrun := digitRun_append (d.isDigit_of_mem_exponent _ heq) stops_nil false
    rw [List.append_nil] at hrun
    have hne : t ≠ [] := d.exponent_ne_nil _ heq
    have hsign : signAndRest ((if negative then '-' else '+') :: t) = (negative, t) := by
      cases negative <;> rfl
    obtain ⟨c, t, rfl⟩ := List.exists_cons_of_ne_nil hne
    simp [exponentAndRest, hsign, hrun, textValue]

theorem readUnsigned?_text (d : DecimalText) (negative : Bool) :
    readUnsigned? negative d.text =
      some (.ofScientific negative d.scientific.digits d.scientific.exponent) := by
  have hexponent : Stops d.exponentText := by
    intro c hc
    rw [← List.append_nil d.exponentText] at hc
    rcases d.head_exponentText hc with rfl | hc
    · exact ⟨by decide, by decide⟩
    · cases hc
  have hwhole : digitRun false (d.whole ++ (d.fractionText ++ d.exponentText)) =
      (d.whole.map fun c => c.toNat - 48, d.fractionText ++ d.exponentText) := by
    refine digitRun_append d.isDigit_of_mem_whole ?_ false
    unfold fractionText
    split
    next => exact hexponent
    next => exact stops_cons (by decide) (by decide) _
  have hvalue := d.exponentAndRest_text
  have hne := d.whole_ne_nil
  rw [text, List.append_assoc]
  unfold readUnsigned?
  rw [hwhole]
  by_cases hfraction : d.fraction = []
  · have hnone : d.fractionText = [] := by simp [fractionText, hfraction]
    rw [hnone, List.nil_append]
    rcases d.exponentText_cases with hnil | ⟨t, ht⟩
    · rw [hnil] at hvalue ⊢
      simp [hvalue, hne, scientific, textValue, hfraction]
    · rw [ht] at hvalue ⊢
      simp [hvalue, hne, scientific, textValue, hfraction]
  · have hpoint : d.fractionText = '.' :: d.fraction := by simp [fractionText, hfraction]
    have hrun := digitRun_append d.isDigit_of_mem_fraction hexponent false
    rw [hpoint, List.cons_append]
    simp [hrun, hvalue, hne, scientific, textValue]

theorem readBinary64?_text (d : DecimalText) (negative : Bool) :
    readBinary64? (signText negative ++ d.text) =
      some (.ofScientific negative d.scientific.digits d.scientific.exponent) := by
  have hblank : ∀ c ∈ signText negative ++ d.text, isNumberBlank c = false := by
    intro c hmem
    rcases List.mem_append.mp hmem with hmem | hmem
    · exact not_isNumberBlank_of_mem_signText hmem
    · rcases d.isDigit_or_mark_of_mem_text hmem with hdigit | hmark
      · exact not_isNumberBlank_of_isDigit hdigit
      · have hmarks : ∀ c ∈ ['.', 'e', '-', '+'], isNumberBlank c = false :=
          List.all_iff_forall_prop.mp (by decide)
        exact hmarks c hmark
  obtain ⟨c, t, htext, hc⟩ : ∃ c t, d.text = c :: t ∧ isDigit c = true := by
    obtain ⟨c, t, hwhole⟩ := List.exists_cons_of_ne_nil d.whole_ne_nil
    exact ⟨c, _, by rw [text, hwhole, List.cons_append, List.cons_append],
      d.isDigit_head (by rw [hwhole, List.head?_cons])⟩
  rw [readBinary64?, trimNumber_of_not_blank hblank, htext, signAndRest_signText negative hc t]
  dsimp only
  rw [namedValue?_of_digit negative hc, ← htext]
  exact d.readUnsigned?_text negative

end DecimalText

theorem leads_natText (n : Nat) : Leads (natText n) := by
  by_cases hn : n = 0
  · exact Or.inl (by rw [hn]; rfl)
  · exact Or.inr (head?_natText hn)

end Decimal

namespace Json

/-- What may stand behind a value in a document that was written. -/
def Ends (rest : Text) : Prop :=
  ∀ c, rest.head? = some c → c = ',' ∨ c = '\n'

theorem ends_comma (rest : Text) : Ends (',' :: rest) := by
  intro c hc
  cases hc
  exact Or.inl rfl

theorem ends_feed (rest : Text) : Ends ('\n' :: rest) := by
  intro c hc
  cases hc
  exact Or.inr rfl

open Decimal

theorem takeWhole_decimal (d : DecimalText) {rest : Text} (hrest : Ends rest) :
    takeWhole (d.whole ++ (d.fractionText ++ (d.exponentText ++ rest))) =
      (d.whole, d.fractionText ++ (d.exponentText ++ rest)) := by
  refine takeWhole_append d.whole_ne_nil d.leads d.isDigit_of_mem_whole ?_
  intro c hc
  rcases d.head_fractionText hc with rfl | rfl | hc
  · decide
  · decide
  · rcases hrest c hc with rfl | rfl <;> decide

theorem takeFraction_decimal (d : DecimalText) {rest : Text} (hrest : Ends rest) :
    takeFraction (d.fractionText ++ (d.exponentText ++ rest)) =
      (d.fractionText, d.exponentText ++ rest) := by
  unfold DecimalText.fractionText
  split
  next hempty =>
    refine takeFraction_of_head ?_
    intro hc
    rcases d.head_exponentText hc with heq | hc
    · cases heq
    · rcases hrest _ hc with heq | heq <;> cases heq
  next hne =>
    refine takeFraction_append (by simpa using hne) d.isDigit_of_mem_fraction ?_
    intro c hc
    rcases d.head_exponentText hc with rfl | hc
    · decide
    · rcases hrest c hc with rfl | rfl <;> decide

theorem takeExponent_decimal (d : DecimalText) {rest : Text} (hrest : Ends rest) :
    takeExponent (d.exponentText ++ rest) = (d.exponentText, rest) := by
  unfold DecimalText.exponentText
  split
  next =>
    refine takeExponent_of_head ?_
    intro c hc
    rcases hrest c hc with rfl | rfl <;> decide
  next negative t heq =>
    refine takeExponent_append negative (d.exponent_ne_nil _ heq)
      (d.isDigit_of_mem_exponent _ heq) ?_
    intro c hc
    rcases hrest c hc with rfl | rfl <;> decide

/-- A number whose text has a point or an exponent is a floating-point value. -/
theorem readNumber?_decimal (negative : Bool) (d : DecimalText) {rest : Text}
    (hparts : d.fraction ≠ [] ∨ d.exponent ≠ none) (hrest : Ends rest) :
    readNumber? (signText negative ++ d.text ++ rest) =
      some (.float (.ofScientific negative d.scientific.digits d.scientific.exponent), rest) := by
  have hnone : (d.fractionText.isEmpty && d.exponentText.isEmpty) = false := by
    unfold DecimalText.fractionText DecimalText.exponentText
    rcases hparts with hfraction | hexponent
    · simp [hfraction]
    · obtain ⟨part, hpart⟩ := Option.ne_none_iff_exists'.mp hexponent
      simp [hpart]
  have hregroup : signText negative ++ d.text ++ rest =
      signText negative ++ (d.whole ++ (d.fractionText ++ (d.exponentText ++ rest))) := by
    simp [DecimalText.text]
  have hvalue : readBinary64? (signText negative ++ d.whole ++ d.fractionText ++ d.exponentText) =
      some (.ofScientific negative d.scientific.digits d.scientific.exponent) := by
    have htext := d.readBinary64?_text negative
    simpa [DecimalText.text] using htext
  rw [hregroup, readNumber?_of_parts negative d.whole_ne_nil d.isDigit_of_mem_whole
    (takeWhole_decimal d hrest) (takeFraction_decimal d hrest) (takeExponent_decimal d hrest),
    hnone, hvalue]
  rfl

/-- Whole numbers are read again, if they do not have too many digits. -/
theorem readNumber?_intText (i : ℤ) {rest : Text} (hlength : (natText i.natAbs).length ≤ digitLimit)
    (hrest : Ends rest) : readNumber? (intText i ++ rest) = some (.int i, rest) := by
  have hdigits : ∀ c ∈ natText i.natAbs, isDigit c = true := fun c hmem => isDigit_natText hmem
  have hhead : ∀ c, rest.head? = some c → c = ',' ∨ c = '\n' := hrest
  have hregroup : intText i ++ rest =
      signText (decide (i < 0)) ++ (natText i.natAbs ++ ([] ++ ([] ++ rest))) := by
    by_cases hneg : i < 0 <;> simp [intText, signText, hneg]
  have hwhole := readWhole_digits (decide (i < 0)) (natText_ne_nil _) hdigits hlength
  have hint : (if decide (i < 0) = true then -(textValue (natText i.natAbs) : ℤ)
      else textValue (natText i.natAbs)) = i := by
    rw [textValue_natText]
    split
    next hneg =>
      have hneg : i < 0 := of_decide_eq_true hneg
      omega
    next hneg =>
      have hneg : ¬i < 0 := by simpa using hneg
      omega
  rw [hregroup, readNumber?_of_parts _ (natText_ne_nil _) hdigits
    (takeWhole_append (natText_ne_nil _) (leads_natText _) hdigits ?_)
    (takeFraction_of_head ?_) (takeExponent_of_head ?_)]
  · rw [hwhole, hint]
    rfl
  · intro c hc
    rcases hhead c hc with rfl | rfl <;> decide
  · intro hc
    rcases hhead _ hc with heq | heq <;> cases heq
  · intro c hc
    rcases hhead c hc with rfl | rfl <;> decide

end Json

end SchemaDesk

import Mathlib.Data.List.TakeWhile
import SchemaDesk.Proofs.NumberTexts

/-!
# Layouts of decimals

A decimal is laid out in one of four ways: behind zeros, before zeros, with the point
between its digits, or with an exponent. Each of them is the text of a number with the
value of the decimal, so a floating-point value is read again from its text, whichever
layout it got.
-/

namespace SchemaDesk.Decimal

open Json (isDigit Ends)

/-! ## Digits and point -/

theorem isDigit_of_mem_replicate {count : Nat} {c : Char} (hmem : c ∈ List.replicate count '0') :
    isDigit c = true := by
  rw [List.eq_of_mem_replicate hmem]
  decide

/-- The digits of a decimal are those that are kept, and zeros. -/
theorem natText_eq_kept {d : Scientific} (hdigits : d.digits ≠ 0) :
    ∃ zeros, natText d.digits = (digitsAndPoint d).1 ++ List.replicate zeros '0' ∧
      (digitsAndPoint d).1 ≠ [] ∧
      (digitsAndPoint d).2 = d.exponent + (natText d.digits).length := by
  generalize hkept : ((natText d.digits).reverse.dropWhile (· == '0')).reverse = kept
  have hsplit : natText d.digits =
      kept ++ ((natText d.digits).reverse.takeWhile (· == '0')).reverse := by
    rw [← hkept, ← List.reverse_append, List.takeWhile_append_dropWhile, List.reverse_reverse]
  have hzeros : ((natText d.digits).reverse.takeWhile (· == '0')).reverse =
      List.replicate ((natText d.digits).reverse.takeWhile (· == '0')).length '0' := by
    rw [List.eq_replicate_iff]
    refine ⟨List.length_reverse, ?_⟩
    intro c hmem
    simpa using List.mem_takeWhile_imp (List.mem_reverse.mp hmem)
  have hne : kept ≠ [] := by
    rintro rfl
    have hvalue := textValue_natText d.digits
    rw [hsplit, List.nil_append, hzeros, textValue_replicate_zero] at hvalue
    exact hdigits hvalue.symm
  have hfirst : (digitsAndPoint d).1 = kept := by
    simp [digitsAndPoint, hkept, hne]
  rw [hzeros] at hsplit
  exact ⟨_, by rw [hfirst]; exact hsplit, by rw [hfirst]; exact hne, rfl⟩

/-- What the layouts start from: digits without a zero in front, and where the point stands
among them. -/
structure Placed (d : Scientific) (digits : Text) (point : ℤ) : Prop where
  ne_nil : digits ≠ []
  isDigit_of_mem : ∀ c ∈ digits, isDigit c = true
  head_ne_zero : digits.head? ≠ some '0'
  le : textValue digits ≤ d.digits
  value : (textValue digits : ℚ) * 10 ^ (point - digits.length) = d.value

theorem placed_digitsAndPoint {d : Scientific} (hdigits : d.digits ≠ 0) :
    Placed d (digitsAndPoint d).1 (digitsAndPoint d).2 := by
  obtain ⟨zeros, hsplit, hne, hpoint⟩ := natText_eq_kept hdigits
  have hvalue := textValue_natText d.digits
  rw [hsplit, textValue_append, textValue_replicate_zero, List.length_replicate,
    Nat.add_zero] at hvalue
  refine ⟨hne, ?_, ?_, ?_, ?_⟩
  · intro c hmem
    refine isDigit_natText (n := d.digits) ?_
    rw [hsplit]
    exact List.mem_append_left _ hmem
  · have hhead := head?_natText hdigits
    rwa [hsplit, List.head?_append_of_ne_nil _ hne] at hhead
  · rw [← hvalue]
    exact Nat.le_mul_of_pos_right _ (Nat.pow_pos (by decide))
  · have hlength : (natText d.digits).length = (digitsAndPoint d).1.length + zeros := by
      rw [hsplit, List.length_append, List.length_replicate]
    have hpower : (digitsAndPoint d).2 - (digitsAndPoint d).1.length = zeros + d.exponent := by
      rw [hpoint, hlength]
      push_cast
      ring
    rw [hpower, Scientific.value, ← hvalue, zpow_add₀ (by norm_num), zpow_natCast]
    push_cast
    ring

/-- A text that a decimal may be written as. -/
structure Renders (d : Scientific) (t : DecimalText) : Prop where
  parts : t.fraction ≠ [] ∨ t.exponent ≠ none
  le : t.scientific.digits ≤ d.digits * 10 ^ 17
  value : t.scientific.value = d.value

section Layouts

variable {d : Scientific} {digits : Text} {point : ℤ}

theorem Placed.mul_le_mul (hplaced : Placed d digits point) {count : Nat} (hcount : count ≤ 17) :
    textValue digits * 10 ^ count ≤ d.digits * 10 ^ 17 :=
  Nat.mul_le_mul hplaced.le (Nat.pow_le_pow_right (by decide) hcount)

theorem Placed.le_mul (hplaced : Placed d digits point) :
    textValue digits ≤ d.digits * 10 ^ 17 := by
  simpa using hplaced.mul_le_mul (Nat.zero_le 17)

/-- Zeros before the digits. -/
theorem exists_behind_zeros (hplaced : Placed d digits point) (hpoint : point ≤ 0) :
    ∃ t : DecimalText, t.text = ['0', '.'] ++ List.replicate point.natAbs '0' ++ digits ∧
      Renders d t := by
  let t : DecimalText :=
    { whole := ['0']
      fraction := List.replicate point.natAbs '0' ++ digits
      exponent := none
      whole_ne_nil := by simp
      leads := Or.inl rfl
      isDigit_of_mem_whole := by simp [isDigit]
      isDigit_of_mem_fraction := by
        intro c hmem
        rcases List.mem_append.mp hmem with hmem | hmem
        · exact isDigit_of_mem_replicate hmem
        · exact hplaced.isDigit_of_mem c hmem
      exponent_ne_nil := by simp
      isDigit_of_mem_exponent := by simp }
  have hdigits : t.scientific.digits = textValue digits := by
    have hzero : textValue ['0'] = 0 := rfl
    simp only [DecimalText.scientific, t, textValue_append, textValue_replicate_zero, hzero]
    omega
  have hexponent : t.scientific.exponent = point - digits.length := by
    simp only [DecimalText.scientific, DecimalText.namedPower, t, List.length_append,
      List.length_replicate]
    omega
  refine ⟨t, ?_, ?_, ?_, ?_⟩
  · simp [t, DecimalText.text, DecimalText.fractionText, DecimalText.exponentText, hplaced.ne_nil]
  · exact Or.inl (by simp [t, hplaced.ne_nil])
  · rw [hdigits]
    exact hplaced.le_mul
  · rw [Scientific.value, hdigits, hexponent]
    exact hplaced.value

/-- Zeros behind the digits. -/
theorem exists_before_zeros (hplaced : Placed d digits point) {zeros : Nat} (hzeros : zeros < 17)
    (hpoint : point = digits.length + zeros) :
    ∃ t : DecimalText, t.text = digits ++ List.replicate zeros '0' ++ ['.', '0'] ∧
      Renders d t := by
  let t : DecimalText :=
    { whole := digits ++ List.replicate zeros '0'
      fraction := ['0']
      exponent := none
      whole_ne_nil := by simp [hplaced.ne_nil]
      leads := by
        refine Or.inr ?_
        rw [List.head?_append_of_ne_nil _ hplaced.ne_nil]
        exact hplaced.head_ne_zero
      isDigit_of_mem_whole := by
        intro c hmem
        rcases List.mem_append.mp hmem with hmem | hmem
        · exact hplaced.isDigit_of_mem c hmem
        · exact isDigit_of_mem_replicate hmem
      isDigit_of_mem_fraction := by simp [isDigit]
      exponent_ne_nil := by simp
      isDigit_of_mem_exponent := by simp }
  have hdigits : t.scientific.digits = textValue digits * 10 ^ (zeros + 1) := by
    have hzero : textValue ['0'] = 0 := rfl
    simp [DecimalText.scientific, t, textValue_append, textValue_replicate_zero, hzero, pow_succ]
  have hexponent : t.scientific.exponent = -1 := by
    simp [DecimalText.scientific, DecimalText.namedPower, t]
  have hpower : point - digits.length = (zeros + 1 : ℕ) + -1 := by
    omega
  refine ⟨t, ?_, ?_, ?_, ?_⟩
  · simp [t, DecimalText.text, DecimalText.fractionText, DecimalText.exponentText]
  · exact Or.inl (by simp [t])
  · rw [hdigits]
    exact hplaced.mul_le_mul (by omega)
  · rw [Scientific.value, hdigits, hexponent, ← hplaced.value, hpower, zpow_add₀ (by norm_num),
      zpow_natCast]
    push_cast
    ring

/-- The point between the digits. -/
theorem exists_around_point (hplaced : Placed d digits point) (hpoint : 0 < point)
    (hlength : point.toNat < digits.length) :
    ∃ t : DecimalText, t.text = digits.take point.toNat ++ '.' :: digits.drop point.toNat ∧
      Renders d t := by
  let t : DecimalText :=
    { whole := digits.take point.toNat
      fraction := digits.drop point.toNat
      exponent := none
      whole_ne_nil := by
        rw [Ne, List.take_eq_nil_iff, not_or]
        exact ⟨by omega, hplaced.ne_nil⟩
      leads := by
        refine Or.inr ?_
        rw [List.head?_take]
        have := hplaced.head_ne_zero
        split <;> simp_all
      isDigit_of_mem_whole := fun c hmem => hplaced.isDigit_of_mem c (List.mem_of_mem_take hmem)
      isDigit_of_mem_fraction := fun c hmem => hplaced.isDigit_of_mem c (List.mem_of_mem_drop hmem)
      exponent_ne_nil := by simp
      isDigit_of_mem_exponent := by simp }
  have hdigits : t.scientific.digits = textValue digits := by
    simp [DecimalText.scientific, t]
  have hexponent : t.scientific.exponent = point - digits.length := by
    simp only [DecimalText.scientific, DecimalText.namedPower, t, List.length_drop]
    omega
  have hne : digits.drop point.toNat ≠ [] := by
    rw [Ne, List.drop_eq_nil_iff]
    omega
  refine ⟨t, ?_, ?_, ?_, ?_⟩
  · simp [t, DecimalText.text, DecimalText.fractionText, DecimalText.exponentText, hne]
  · exact Or.inl hne
  · rw [hdigits]
    exact hplaced.le_mul
  · rw [Scientific.value, hdigits, hexponent]
    exact hplaced.value

theorem textValue_padded (width n : Nat) : textValue (padded width (natText n)) = n := by
  rw [padded, textValue_append, textValue_replicate_zero, Nat.zero_mul, Nat.zero_add,
    textValue_natText]

/-- One digit before the point, and an exponent. -/
theorem exists_with_exponent (hplaced : Placed d digits point) (width : Nat) :
    ∃ t : DecimalText,
      t.text = digits.take 1 ++
          (if (digits.drop 1).isEmpty then [] else '.' :: digits.drop 1) ++
            'e' :: (if point - 1 < 0 then '-' else '+') ::
              padded width (natText (point - 1).natAbs) ∧
        Renders d t := by
  let t : DecimalText :=
    { whole := digits.take 1
      fraction := digits.drop 1
      exponent := some (decide (point - 1 < 0), padded width (natText (point - 1).natAbs))
      whole_ne_nil := by simp [hplaced.ne_nil]
      leads := by
        refine Or.inr ?_
        rw [List.head?_take]
        simpa using hplaced.head_ne_zero
      isDigit_of_mem_whole := fun c hmem => hplaced.isDigit_of_mem c (List.mem_of_mem_take hmem)
      isDigit_of_mem_fraction := fun c hmem => hplaced.isDigit_of_mem c (List.mem_of_mem_drop hmem)
      exponent_ne_nil := by simp [padded, natText_ne_nil]
      isDigit_of_mem_exponent := by
        rintro _ ⟨⟩ c hmem
        rcases List.mem_append.mp hmem with hmem | hmem
        · exact isDigit_of_mem_replicate hmem
        · exact isDigit_natText hmem }
  have hpositive : 0 < digits.length := List.length_pos_iff.mpr hplaced.ne_nil
  have hdigits : t.scientific.digits = textValue digits := by
    rw [DecimalText.scientific]
    exact congrArg textValue (List.take_append_drop 1 digits)
  have hexponent : t.scientific.exponent = point - digits.length := by
    simp only [DecimalText.scientific, DecimalText.namedPower, t, textValue_padded,
      decide_eq_true_eq, List.length_drop]
    split <;> omega
  refine ⟨t, ?_, ?_, ?_, ?_⟩
  · simp [t, DecimalText.text, DecimalText.fractionText, DecimalText.exponentText]
  · exact Or.inr (by simp [t])
  · rw [hdigits]
    exact hplaced.le_mul
  · rw [Scientific.value, hdigits, hexponent]
    exact hplaced.value

end Layouts

/-- Every layout keeps the value. -/
theorem exists_renders_decimal {d : Scientific} (hdigits : d.digits ≠ 0) :
    ∃ t : DecimalText, Style.document.decimal d = t.text ∧ Renders d t := by
  have hplaced := placed_digitsAndPoint hdigits
  unfold Style.decimal
  dsimp only
  generalize (digitsAndPoint d).1 = digits at hplaced ⊢
  generalize (digitsAndPoint d).2 = point at hplaced ⊢
  have hlow : Style.document.lowestPoint = -3 := rfl
  have hhigh : Style.document.highestPoint = 16 := rfl
  have hmark : Style.document.wholeMark.toList = ['.', '0'] := rfl
  have hexponent : Style.document.exponentMark.toList = ['e'] := rfl
  rw [hlow, hhigh, hmark, hexponent]
  split
  next hrange =>
    have hrange : -3 ≤ point ∧ point ≤ 16 := by simpa using hrange
    split
    next hpoint =>
      obtain ⟨t, htext, ht⟩ := exists_behind_zeros hplaced hpoint
      exact ⟨t, htext.symm, ht⟩
    next hpoint =>
      split
      next hlength =>
        have hzeros : point = digits.length + (point.toNat - digits.length : ℕ) := by omega
        obtain ⟨t, htext, ht⟩ := exists_before_zeros hplaced (by omega) hzeros
        exact ⟨t, htext.symm, ht⟩
      next hlength =>
        obtain ⟨t, htext, ht⟩ := exists_around_point hplaced (by omega) (by omega)
        exact ⟨t, htext.symm, ht⟩
  next =>
    obtain ⟨t, htext, ht⟩ := exists_with_exponent hplaced Style.document.exponentDigits
    refine ⟨t, ?_, ht⟩
    rw [htext]
    simp

theorem log2_le_of_renders {d : Scientific} {t : DecimalText} (ht : Renders d t)
    (hsize : d.digits.log2 ≤ 4900) : t.scientific.digits.log2 ≤ 5000 := by
  have hlt : t.scientific.digits < 2 ^ (d.digits.log2 + 1 + 57) := by
    calc t.scientific.digits ≤ d.digits * 10 ^ 17 := ht.le
      _ < 2 ^ (d.digits.log2 + 1) * 2 ^ 57 :=
        Nat.mul_lt_mul_of_lt_of_le Nat.lt_log2_self (by norm_num) (by norm_num)
      _ = 2 ^ (d.digits.log2 + 1 + 57) := (Nat.pow_add ..).symm
  by_cases hzero : t.scientific.digits = 0
  · rw [hzero]
    decide
  · have hlog := (Nat.log2_lt hzero).mpr hlt
    omega

/-- The text of a finite value is the text of a number that is read as it. -/
theorem exists_text_finite (negative : Bool) {mantissa : Nat} {power : ℤ}
    (form : Canonical mantissa power) :
    ∃ t : DecimalText,
      Style.document.text (.finite negative mantissa power form) = signText negative ++ t.text ∧
        (t.fraction ≠ [] ∨ t.exponent ≠ none) ∧
          Binary64.ofScientific negative t.scientific.digits t.scientific.exponent =
            .finite negative mantissa power form := by
  by_cases hmantissa : mantissa = 0
  · subst hmantissa
    have hpower : power = -1074 := by
      rcases form.2.2.2 with hfull | hpower
      · exact absurd hfull (by decide)
      · exact hpower
    subst hpower
    let t : DecimalText :=
      { whole := ['0'], fraction := ['0'], exponent := none
        whole_ne_nil := by simp
        leads := Or.inl rfl
        isDigit_of_mem_whole := by simp [isDigit]
        isDigit_of_mem_fraction := by simp [isDigit]
        exponent_ne_nil := by simp
        isDigit_of_mem_exponent := by simp }
    exact ⟨t, rfl, Or.inl (by simp [t]), rfl⟩
  · have hlog := log2_shortest_le form hmantissa
    obtain ⟨t, htext, ht⟩ := exists_renders_decimal (digits_shortest_ne_zero form hmantissa)
    refine ⟨t, ?_, ht.parts, ?_⟩
    · rw [Style.text, if_neg hmantissa, htext]
      rfl
    · exact ofScientific_of_value form hmantissa negative (log2_le_of_renders ht hlog) ht.value

end SchemaDesk.Decimal

namespace SchemaDesk.Json

open Decimal

/-- A finite value is read again from its text. -/
theorem readNumber?_text_finite (negative : Bool) {mantissa : Nat} {power : ℤ}
    (form : Canonical mantissa power) {rest : Text} (hrest : Ends rest) :
    readNumber? (Style.document.text (.finite negative mantissa power form) ++ rest) =
      some (.float (.finite negative mantissa power form), rest) := by
  obtain ⟨t, htext, hparts, hvalue⟩ := exists_text_finite negative form
  rw [htext, readNumber?_decimal negative t hparts hrest, hvalue]

end SchemaDesk.Json

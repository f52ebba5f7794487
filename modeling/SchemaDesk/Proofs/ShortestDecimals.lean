import SchemaDesk.Decimal.Shortest
import SchemaDesk.Proofs.BinaryRounding

/-!
# Shortest decimals read back

Which floating-point value a decimal is read as depends on its value alone, and not on
how many zeros its digits end in: the limits that settle extreme exponents at once are
never met by a decimal that has a finite value. The decimal that is written for a form
reads back as that form, and so does every other decimal of the same value.
-/

namespace SchemaDesk.Decimal

/-- The value of a decimal. -/
def Scientific.value (d : Scientific) : ℚ :=
  d.digits * 10 ^ d.exponent

namespace Binary64

/-- A decimal as a quotient of natural numbers. -/
def decimalRatio (digits : Nat) (exponent : ℤ) : Nat × Nat :=
  match exponent with
  | .ofNat e => (digits * Nat.pow 10 e, 1)
  | .negSucc e => (digits, Nat.pow 10 (e + 1))

theorem decimalRatio_pos (digits : Nat) (exponent : ℤ) : 0 < (decimalRatio digits exponent).2 := by
  cases exponent with
  | ofNat e => exact Nat.one_pos
  | negSucc e => exact Nat.pow_pos (by decide)

theorem decimalRatio_eq (digits : Nat) (exponent : ℤ) :
    ((decimalRatio digits exponent).1 : ℚ) / (decimalRatio digits exponent).2 =
      digits * 10 ^ exponent := by
  cases exponent with
  | ofNat e => simp [decimalRatio, Nat.pow_eq]
  | negSucc e =>
      simp only [decimalRatio, zpow_negSucc]
      push_cast [Nat.pow_eq]
      rw [div_eq_mul_inv]

theorem decimalRatio_ne_zero {digits : Nat} (hdigits : digits ≠ 0) (exponent : ℤ) :
    (decimalRatio digits exponent).1 ≠ 0 := by
  cases exponent with
  | ofNat e => exact Nat.mul_ne_zero hdigits (Nat.pow_pos (by decide)).ne'
  | negSucc e => exact hdigits

/-- About the exponent of the first digit of a decimal. -/
def reach (digits : Nat) (exponent : ℤ) : ℤ :=
  exponent + (digits.log2 : ℤ) * 30103 / 100000

theorem ofScientific_eq (negative : Bool) {digits : Nat} (hdigits : digits ≠ 0) (exponent : ℤ) :
    ofScientific negative digits exponent =
      if 400 < reach digits exponent then .infinity negative
      else if reach digits exponent < -400 then zero negative
      else ofRatio negative (decimalRatio digits exponent).1 (decimalRatio digits exponent).2 := by
  unfold ofScientific
  rw [if_neg hdigits]
  cases exponent <;> rfl

theorem reach_le {digits : Nat} {exponent : ℤ} (hdigits : digits ≠ 0) (hsize : digits.log2 ≤ 5000)
    (hvalue : (digits : ℚ) * 10 ^ exponent < 2 ^ (1024 : ℤ)) : reach digits exponent ≤ 400 := by
  by_contra hfar
  -- A thousand is less than two to the tenth, so digits reach nearly as far as their length.
  have hpow : (10 : ℚ) ^ (3 * ((digits.log2 / 10 : ℕ) : ℤ)) ≤ digits := by
    have hlog : 1000 ^ (digits.log2 / 10) ≤ digits :=
      calc 1000 ^ (digits.log2 / 10) ≤ 1024 ^ (digits.log2 / 10) :=
            Nat.pow_le_pow_left (by decide) _
        _ = 2 ^ (10 * (digits.log2 / 10)) := by rw [Nat.pow_mul]
        _ ≤ 2 ^ digits.log2 := Nat.pow_le_pow_right (by decide) (by omega)
        _ ≤ digits := Nat.log2_self_le hdigits
    rw [zpow_mul, zpow_natCast]
    norm_num
    exact_mod_cast hlog
  have hexponent : 392 ≤ 3 * ((digits.log2 / 10 : ℕ) : ℤ) + exponent := by
    rw [reach] at hfar
    omega
  have hlow : (10 : ℚ) ^ (392 : ℤ) ≤ digits * 10 ^ exponent :=
    calc (10 : ℚ) ^ (392 : ℤ) ≤ 10 ^ (3 * ((digits.log2 / 10 : ℕ) : ℤ) + exponent) :=
          zpow_le_zpow_right₀ (by norm_num) hexponent
      _ = 10 ^ (3 * ((digits.log2 / 10 : ℕ) : ℤ)) * 10 ^ exponent := zpow_add₀ (by norm_num) _ _
      _ ≤ digits * 10 ^ exponent := by gcongr
  have hbig : (2 : ℚ) ^ (1024 : ℤ) ≤ 10 ^ (392 : ℤ) := by
    rw [show (1024 : ℤ) = 128 * 8 by norm_num, show (392 : ℤ) = 49 * 8 by norm_num, zpow_mul,
      zpow_mul]
    exact zpow_le_zpow_left₀ (by norm_num) (by positivity) (by norm_num)
  exact absurd (hvalue.trans_le hbig) (not_lt.mpr hlow)

theorem le_reach {digits : Nat} {exponent : ℤ} (hsize : digits.log2 ≤ 5000)
    (hvalue : 2 ^ (-1075 : ℤ) ≤ (digits : ℚ) * 10 ^ exponent) : -400 ≤ reach digits exponent := by
  by_contra hfar
  generalize hcount : digits.log2 / 93 + 1 = count
  have hpow : (digits : ℚ) ≤ 10 ^ (28 * (count : ℤ)) := by
    have hlog : digits ≤ (10 ^ 28) ^ count :=
      calc digits ≤ 2 ^ (digits.log2 + 1) := Nat.lt_log2_self.le
        _ ≤ 2 ^ (93 * count) := Nat.pow_le_pow_right (by decide) (by omega)
        _ = (2 ^ 93) ^ count := by rw [Nat.pow_mul]
        _ ≤ (10 ^ 28) ^ count := Nat.pow_le_pow_left (by decide) _
    rw [zpow_mul, zpow_natCast]
    exact_mod_cast hlog
  have hexponent : 28 * (count : ℤ) + exponent ≤ -350 := by
    rw [reach] at hfar
    omega
  have hhigh : (digits : ℚ) * 10 ^ exponent ≤ 10 ^ (-350 : ℤ) :=
    calc (digits : ℚ) * 10 ^ exponent ≤ 10 ^ (28 * (count : ℤ)) * 10 ^ exponent := by gcongr
      _ = 10 ^ (28 * (count : ℤ) + exponent) := (zpow_add₀ (by norm_num) _ _).symm
      _ ≤ 10 ^ (-350 : ℤ) := zpow_le_zpow_right₀ (by norm_num) hexponent
  have hsmall : (10 : ℚ) ^ (-350 : ℤ) < 2 ^ (-1075 : ℤ) := by
    rw [show (-350 : ℤ) = -14 * 25 by norm_num, show (-1075 : ℤ) = -43 * 25 by norm_num, zpow_mul,
      zpow_mul]
    exact zpow_lt_zpow_left₀ (by norm_num) (by positivity) (by norm_num)
  exact absurd (hvalue.trans hhigh) (not_le.mpr hsmall)

/-- A decimal with a finite value, and of a length that is not absurd, is rounded. -/
theorem ofScientific_eq_ofRatio (negative : Bool) {digits : Nat} {exponent : ℤ}
    (hdigits : digits ≠ 0) (hsize : digits.log2 ≤ 5000)
    (hlow : 2 ^ (-1075 : ℤ) ≤ (digits : ℚ) * 10 ^ exponent)
    (hhigh : (digits : ℚ) * 10 ^ exponent < 2 ^ (1024 : ℤ)) :
    ofScientific negative digits exponent =
      ofRatio negative (decimalRatio digits exponent).1 (decimalRatio digits exponent).2 := by
  have habove := reach_le hdigits hsize hhigh
  have hbelow := le_reach hsize hlow
  rw [ofScientific_eq negative hdigits, if_neg (by omega), if_neg (by omega)]

/-- What is read as a form that is not zero was rounded to it. -/
theorem ofRatio_of_ofScientific {digits mantissa : Nat} {exponent power : ℤ}
    {negative sign : Bool} {form : Canonical mantissa power} (hmantissa : mantissa ≠ 0)
    (hread : ofScientific negative digits exponent = .finite sign mantissa power form) :
    digits ≠ 0 ∧ reach digits exponent ≤ 400 ∧
      ofRatio negative (decimalRatio digits exponent).1 (decimalRatio digits exponent).2 =
        .finite negative mantissa power form := by
  have hdigits : digits ≠ 0 := by
    rintro rfl
    unfold ofScientific at hread
    rw [if_pos rfl, zero] at hread
    cases hread
    exact hmantissa rfl
  rw [ofScientific_eq negative hdigits] at hread
  split at hread
  next => cases hread
  next hhigh =>
    split at hread
    next =>
      cases hread
      exact absurd rfl hmantissa
    next => exact ⟨hdigits, by omega, (ofRatio_of_sign hread negative).2⟩

end Binary64

open Binary64

/-! ## The decimal that is chosen -/

theorem readsBack_iff {mantissa : Nat} {power : ℤ} {d : Scientific}
    (form : Canonical mantissa power) :
    readsBack mantissa power d = true ↔
      ∃ sign, ofScientific false d.digits d.exponent = .finite sign mantissa power form := by
  unfold readsBack
  cases ofScientific false d.digits d.exponent with
  | finite sign m p other =>
      constructor
      · intro hread
        obtain ⟨rfl, rfl⟩ : m = mantissa ∧ p = power := by simpa using hread
        exact ⟨sign, rfl⟩
      · rintro ⟨_, hread⟩
        cases hread
        simp
  | _ => simp

theorem magnitude_bounds {mantissa : Nat} {power : ℤ} (form : Canonical mantissa power)
    (hmantissa : mantissa ≠ 0) :
    2 ^ (-1075 : ℤ) ≤ magnitude mantissa power ∧ magnitude mantissa power < 2 ^ (1024 : ℤ) := by
  have hfits := fits_magnitude form
  have hone : (1 : ℚ) ≤ mantissa := by exact_mod_cast Nat.pos_of_ne_zero hmantissa
  constructor
  · calc (2 : ℚ) ^ (-1075 : ℤ) ≤ 2 ^ power :=
          zpow_le_zpow_right₀ (by norm_num) (by have := form.2.1; omega)
      _ = 1 * 2 ^ power := (one_mul _).symm
      _ ≤ magnitude mantissa power := by
          rw [magnitude]
          gcongr
  · exact hfits.lt.trans_le
      (zpow_le_zpow_right₀ (by norm_num) (by have := form.2.2.1; omega))

theorem value_exact (mantissa : Nat) (power : ℤ) :
    (exact mantissa power).value = magnitude mantissa power := by
  cases power with
  | ofNat p => simp [exact, Scientific.value, magnitude, Nat.pow_eq]
  | negSucc p =>
      simp only [exact, Scientific.value, magnitude, zpow_negSucc]
      push_cast [Nat.pow_eq]
      rw [show (10 : ℚ) = 5 * 2 by norm_num, mul_pow]
      field_simp

theorem log2_exact_le {mantissa : Nat} {power : ℤ} (form : Canonical mantissa power)
    (hmantissa : mantissa ≠ 0) : (exact mantissa power).digits.log2 ≤ 5000 := by
  obtain ⟨hlt, hlowest, hhighest, -⟩ := form
  have hlt : mantissa ≤ 2 ^ 53 := Nat.le_of_lt hlt
  suffices hdigits : ∃ count, (exact mantissa power).digits ≤ 2 ^ count ∧ count ≤ 4000 ∧
      (exact mantissa power).digits ≠ 0 by
    obtain ⟨count, hle, hcount, hne⟩ := hdigits
    have hlog : 2 ^ (exact mantissa power).digits.log2 ≤ 2 ^ count :=
      (Nat.log2_self_le hne).trans hle
    have := (Nat.pow_le_pow_iff_right (by decide)).mp hlog
    omega
  cases power with
  | ofNat p =>
      refine ⟨53 + p, ?_, by simp at hhighest; omega, ?_⟩
      · rw [Nat.pow_add]
        exact Nat.mul_le_mul_right _ hlt
      · exact Nat.mul_ne_zero hmantissa (Nat.pow_pos (by decide)).ne'
  | negSucc p =>
      refine ⟨53 + 3 * (p + 1), ?_, by omega, ?_⟩
      · rw [Nat.pow_add, Nat.pow_mul]
        exact Nat.mul_le_mul hlt (Nat.pow_le_pow_left (by decide) _)
      · exact Nat.mul_ne_zero hmantissa (Nat.pow_pos (by decide)).ne'

/-- All digits of a form read back as it. -/
theorem readsBack_exact {mantissa : Nat} {power : ℤ} (form : Canonical mantissa power)
    (hmantissa : mantissa ≠ 0) : readsBack mantissa power (exact mantissa power) = true := by
  have hvalue : ((exact mantissa power).digits : ℚ) * 10 ^ (exact mantissa power).exponent =
      magnitude mantissa power := value_exact mantissa power
  obtain ⟨hlow, hhigh⟩ := magnitude_bounds form hmantissa
  have hdigits : (exact mantissa power).digits ≠ 0 := by
    intro hzero
    rw [hzero, Nat.cast_zero, zero_mul] at hvalue
    rw [← hvalue] at hlow
    exact absurd hlow (not_le.mpr (by positivity))
  rw [readsBack_iff form]
  refine ⟨false, ?_⟩
  rw [ofScientific_eq_ofRatio false hdigits (log2_exact_le form hmantissa) (hvalue ▸ hlow)
    (hvalue ▸ hhigh)]
  exact ofRatio_of_eq_magnitude false (decimalRatio_ne_zero hdigits _) (decimalRatio_pos _ _) form
    ((decimalRatio_eq _ _).trans hvalue)

/-- A decimal that is found on some grid, or all digits where none is. -/
theorem shortest_cases (mantissa : Nat) (power : ℤ) :
    shortest mantissa power = exact mantissa power ∨
      ∃ fewer : Nat, fewer < 17 ∧ onGrid? mantissa power
        (leadingExponent (ratio mantissa power).1 (ratio mantissa power).2 - (fewer : ℤ)) =
          some (shortest mantissa power) := by
  unfold shortest
  dsimp only
  generalize hfound : List.findSome? _ _ = found
  cases found with
  | none => exact Or.inl rfl
  | some d =>
      obtain ⟨exponent, hmem, hgrid⟩ := List.exists_of_findSome?_eq_some hfound
      obtain ⟨fewer, hfewer, rfl⟩ := List.mem_map.mp hmem
      exact Or.inr ⟨fewer, List.mem_range.mp hfewer, hgrid⟩

theorem onGrid?_eq_some {mantissa : Nat} {power exponent : ℤ} {d : Scientific}
    (hgrid : onGrid? mantissa power exponent = some d) :
    d.exponent = exponent ∧ readsBack mantissa power d = true := by
  refine ⟨?_, List.find?_some hgrid⟩
  have hmem := List.mem_of_find?_eq_some hgrid
  rcases List.mem_cons.mp hmem with rfl | hmem
  · rfl
  · rw [List.mem_singleton.mp hmem]

/-- The decimal that is written reads back. -/
theorem readsBack_shortest {mantissa : Nat} {power : ℤ} (form : Canonical mantissa power)
    (hmantissa : mantissa ≠ 0) : readsBack mantissa power (shortest mantissa power) = true := by
  rcases shortest_cases mantissa power with hexact | ⟨_, _, hgrid⟩
  · rw [hexact]
    exact readsBack_exact form hmantissa
  · exact (onGrid?_eq_some hgrid).2

theorem digits_shortest_ne_zero {mantissa : Nat} {power : ℤ} (form : Canonical mantissa power)
    (hmantissa : mantissa ≠ 0) : (shortest mantissa power).digits ≠ 0 := by
  obtain ⟨sign, hread⟩ := (readsBack_iff form).mp (readsBack_shortest form hmantissa)
  exact (ofRatio_of_ofScientific hmantissa hread).1

theorem le_leadingExponent (n d : Nat) :
    ((n.log2 : ℤ) - d.log2) * 30103 / 100000 - 2 ≤ leadingExponent n d := by
  unfold leadingExponent
  dsimp only
  split_ifs <;> omega

theorem le_exponent_shortest {mantissa : Nat} {power : ℤ} (form : Canonical mantissa power) :
    -1074 ≤ (shortest mantissa power).exponent := by
  have hlowest := form.2.1
  rcases shortest_cases mantissa power with hexact | ⟨fewer, hfewer, hgrid⟩
  · rw [hexact]
    cases power with
    | ofNat p => exact (by decide : (-1074 : ℤ) ≤ 0)
    | negSucc p => exact hlowest
  · rw [(onGrid?_eq_some hgrid).1]
    have hleading := le_leadingExponent (ratio mantissa power).1 (ratio mantissa power).2
    have hlog : ((ratio mantissa power).2.log2 : ℤ) ≤ 1074 := by
      cases power with
      | ofNat p => exact (by decide : ((1 : ℕ).log2 : ℤ) ≤ 1074)
      | negSucc p =>
          rw [ratio, Nat.pow_eq, Nat.log2_two_pow]
          omega
    omega

theorem log2_shortest_le {mantissa : Nat} {power : ℤ} (form : Canonical mantissa power)
    (hmantissa : mantissa ≠ 0) : (shortest mantissa power).digits.log2 ≤ 4900 := by
  obtain ⟨sign, hread⟩ := (readsBack_iff form).mp (readsBack_shortest form hmantissa)
  have hreach := (ofRatio_of_ofScientific hmantissa hread).2.1
  have hexponent := le_exponent_shortest form
  rw [reach] at hreach
  omega

/-- So does every decimal of the same value. -/
theorem ofScientific_of_value {mantissa : Nat} {power : ℤ} (form : Canonical mantissa power)
    (hmantissa : mantissa ≠ 0) (negative : Bool) {digits : Nat} {exponent : ℤ}
    (hsize : digits.log2 ≤ 5000)
    (hvalue : (digits : ℚ) * 10 ^ exponent = (shortest mantissa power).value) :
    ofScientific negative digits exponent = .finite negative mantissa power form := by
  obtain ⟨sign, hread⟩ := (readsBack_iff form).mp (readsBack_shortest form hmantissa)
  obtain ⟨hshort, -, hratio⟩ := ofRatio_of_ofScientific hmantissa hread
  have hpos := decimalRatio_pos (shortest mantissa power).digits (shortest mantissa power).exponent
  have hsame : (shortest mantissa power).value = digits * 10 ^ exponent := hvalue.symm
  obtain ⟨hlow, hhigh⟩ := bounds_of_ofRatio hpos hmantissa hratio
  rw [decimalRatio_eq, ← Scientific.value, hsame] at hlow hhigh
  have hdigits : digits ≠ 0 := by
    rintro rfl
    rw [Nat.cast_zero, zero_mul] at hlow
    exact absurd hlow (not_le.mpr (by positivity))
  rw [ofScientific_eq_ofRatio negative hdigits hsize hlow hhigh,
    ← (ofRatio_of_sign hratio negative).2]
  refine ofRatio_congr negative (decimalRatio_ne_zero hdigits _) (decimalRatio_pos _ _)
    (decimalRatio_ne_zero hshort _) hpos ?_
  rw [decimalRatio_eq, decimalRatio_eq]
  exact hvalue

end SchemaDesk.Decimal

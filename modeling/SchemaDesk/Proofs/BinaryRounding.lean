import Mathlib.Algebra.Order.Field.Power
import Mathlib.Data.Nat.Log
import Mathlib.Data.Rat.Cast.Order
import Mathlib.Tactic.FieldSimp
import Mathlib.Tactic.Linarith
import Mathlib.Tactic.NormNum
import Mathlib.Tactic.Positivity
import Mathlib.Tactic.Ring
import SchemaDesk.Decimal.Binary64

/-!
# Rounding to binary floating point

What the nearest floating-point value to a quotient is depends on the quotient alone,
and not on the two numbers that it is given by; a quotient that is the magnitude of a
value is rounded to that value; and only quotients beyond all values become infinite.
All of it is read off from one condition on the power of two that is chosen.
-/

namespace SchemaDesk.Decimal

theorem roundHalfEven_mul_right (n d : Nat) {k : Nat} (hk : 0 < k) :
    roundHalfEven (n * k) (d * k) = roundHalfEven n d := by
  have hmod : 2 * (n * k % (d * k)) = 2 * (n % d) * k := by
    rw [Nat.mul_mod_mul_right, Nat.mul_assoc]
  simp only [roundHalfEven, Nat.mul_div_mul_right n d hk, hmod, Nat.mul_lt_mul_right hk]

/-- Rounding depends on the quotient alone. -/
theorem roundHalfEven_congr {n d n' d' : Nat} (hd : 0 < d) (hd' : 0 < d')
    (hratio : n * d' = n' * d) : roundHalfEven n d = roundHalfEven n' d' := by
  rw [← roundHalfEven_mul_right n d hd', hratio, Nat.mul_comm d d',
    roundHalfEven_mul_right n' d' hd]

theorem roundHalfEven_mul_self (m : Nat) {d : Nat} (hd : 0 < d) : roundHalfEven (m * d) d = m := by
  simp [roundHalfEven, Nat.mul_div_cancel m hd, hd]

theorem div_le_roundHalfEven (n d : Nat) : n / d ≤ roundHalfEven n d := by
  unfold roundHalfEven
  dsimp only
  split_ifs <;> omega

theorem roundHalfEven_le (n d : Nat) : roundHalfEven n d ≤ n / d + 1 := by
  unfold roundHalfEven
  dsimp only
  split_ifs <;> omega

/-- What is not rounded to zero is at least a half. -/
theorem le_two_mul_of_roundHalfEven_ne_zero {n d : Nat}
    (hround : roundHalfEven n d ≠ 0) : d ≤ 2 * n := by
  by_contra hsmall
  have hlt : n < d := by omega
  refine hround ?_
  rw [roundHalfEven, Nat.div_eq_of_lt hlt, Nat.mod_eq_of_lt hlt]
  exact if_pos (by omega)

namespace Binary64

/-- The power of two that goes with a positive quotient: the mantissa has all of its
digits, or the power is the lowest one. -/
structure Fits (q : ℚ) (power : ℤ) : Prop where
  lowest : -1074 ≤ power
  lt : q < 2 ^ (power + 53)
  full : power = -1074 ∨ 2 ^ (power + 52) ≤ q

theorem Fits.le {q : ℚ} {power other : ℤ} (hfits : Fits q power) (hother : Fits q other) :
    power ≤ other := by
  rcases hfits.full with hlowest | hfull
  · exact hlowest ▸ hother.lowest
  · have hpow : (2 : ℚ) ^ (power + 52) < 2 ^ (other + 53) := hfull.trans_lt hother.lt
    have hlt := (zpow_lt_zpow_iff_right₀ (by norm_num)).mp hpow
    omega

theorem Fits.unique {q : ℚ} {power other : ℤ} (hfits : Fits q power) (hother : Fits q other) :
    power = other :=
  le_antisymm (hfits.le hother) (hother.le hfits)

theorem scaleDown_pos {d : Nat} (hd : 0 < d) (n : Nat) (power : ℤ) :
    0 < (scaleDown n d power).2 := by
  cases power with
  | ofNat p => exact Nat.mul_pos hd (Nat.pow_pos (by decide))
  | negSucc p => exact hd

theorem scaleDown_eq (n : Nat) {d : Nat} (hd : 0 < d) (power : ℤ) :
    ((scaleDown n d power).1 : ℚ) / (scaleDown n d power).2 = n / d / 2 ^ power := by
  have hd' : (d : ℚ) ≠ 0 := by positivity
  cases power with
  | ofNat p =>
      simp only [scaleDown, Int.ofNat_eq_natCast, zpow_natCast]
      push_cast [Nat.pow_eq]
      field_simp
  | negSucc p =>
      simp only [scaleDown, zpow_negSucc]
      push_cast [Nat.pow_eq]
      field_simp

/-- The power of two that is chosen for a quotient. -/
def powerFor (n d : Nat) : ℤ :=
  let guess := Max.max ((n.log2 : ℤ) - d.log2 - 53) (-1074)
  if (scaleDown n d guess).1 / (scaleDown n d guess).2 < Nat.pow 2 53 then guess else guess + 1

/-- The mantissa that is rounded to with the chosen power. -/
def mantissaFor (n d : Nat) : Nat :=
  roundHalfEven (scaleDown n d (powerFor n d)).1 (scaleDown n d (powerFor n d)).2

theorem ofRatio_eq (negative : Bool) {n : Nat} (hn : n ≠ 0) (d : Nat) :
    ofRatio negative n d =
      if mantissaFor n d = Nat.pow 2 53 then
        ofForm negative (Nat.pow 2 52) (powerFor n d + 1)
      else ofForm negative (mantissaFor n d) (powerFor n d) := by
  rw [ofRatio, if_neg hn]
  rfl

theorem scaled_div_lt_iff (n : Nat) {d : Nat} (hd : 0 < d) (power : ℤ) :
    (scaleDown n d power).1 / (scaleDown n d power).2 < Nat.pow 2 53 ↔
      (n : ℚ) / d < 2 ^ (power + 53) := by
  have hpos := scaleDown_pos hd n power
  have hpos' : (0 : ℚ) < (scaleDown n d power).2 := by exact_mod_cast hpos
  have hpow : (0 : ℚ) < 2 ^ power := by positivity
  rw [Nat.div_lt_iff_lt_mul hpos, ← Nat.cast_lt (α := ℚ), Nat.cast_mul, ← div_lt_iff₀ hpos',
    scaleDown_eq n hd, div_lt_iff₀ hpow, zpow_add₀ (by norm_num), mul_comm ((2 : ℚ) ^ power)]
  norm_num

theorem fits_powerFor {n d : Nat} (hn : n ≠ 0) (hd : 0 < d) :
    Fits ((n : ℚ) / d) (powerFor n d) := by
  have hd' : (0 : ℚ) < d := by exact_mod_cast hd
  have hlow : (2 : ℚ) ^ ((n.log2 : ℤ) - d.log2 - 1) ≤ n / d := by
    have hn2 : ((2 : ℚ) ^ n.log2) ≤ n := by exact_mod_cast Nat.log2_self_le hn
    have hd2 : (d : ℚ) ≤ 2 ^ (d.log2 + 1) := by exact_mod_cast Nat.lt_log2_self.le
    rw [le_div_iff₀ hd']
    calc (2 : ℚ) ^ ((n.log2 : ℤ) - d.log2 - 1) * d
        ≤ 2 ^ ((n.log2 : ℤ) - d.log2 - 1) * 2 ^ (d.log2 + 1) := by gcongr
      _ = 2 ^ n.log2 := by
          rw [← zpow_natCast, ← zpow_add₀ (by norm_num), ← zpow_natCast]
          congr 1
          push_cast
          omega
      _ ≤ n := hn2
  have hhigh : (n : ℚ) / d < 2 ^ ((n.log2 : ℤ) - d.log2 + 1) := by
    have hn2 : (n : ℚ) < 2 ^ (n.log2 + 1) := by exact_mod_cast Nat.lt_log2_self
    have hd2 : (2 : ℚ) ^ d.log2 ≤ d := by exact_mod_cast Nat.log2_self_le hd.ne'
    rw [div_lt_iff₀ hd']
    calc (n : ℚ) < 2 ^ (n.log2 + 1) := hn2
      _ = 2 ^ ((n.log2 : ℤ) - d.log2 + 1) * 2 ^ d.log2 := by
          rw [← zpow_natCast, ← zpow_natCast, ← zpow_add₀ (by norm_num)]
          congr 1
          push_cast
          omega
      _ ≤ 2 ^ ((n.log2 : ℤ) - d.log2 + 1) * d := by gcongr
  rw [powerFor]
  generalize hguess : Max.max ((n.log2 : ℤ) - d.log2 - 53) (-1074) = guess
  split
  next hdiv =>
    refine ⟨by omega, (scaled_div_lt_iff n hd guess).mp hdiv, ?_⟩
    by_cases hlowest : guess = -1074
    · exact Or.inl hlowest
    · refine Or.inr (le_trans ?_ hlow)
      exact zpow_le_zpow_right₀ (by norm_num) (by omega)
  next hdiv =>
    have hge := not_lt.mp fun h => hdiv ((scaled_div_lt_iff n hd guess).mpr h)
    refine ⟨by omega, hhigh.trans_le ?_, Or.inr ?_⟩
    · exact zpow_le_zpow_right₀ (by norm_num) (by omega)
    · rwa [show guess + 1 + 52 = guess + 53 by ring]

theorem powerFor_congr {n d n' d' : Nat} (hn : n ≠ 0) (hd : 0 < d) (hn' : n' ≠ 0) (hd' : 0 < d')
    (hratio : (n : ℚ) / d = n' / d') : powerFor n d = powerFor n' d' :=
  (fits_powerFor hn hd).unique (hratio ▸ fits_powerFor hn' hd')

theorem mantissaFor_congr {n d n' d' : Nat} (hn : n ≠ 0) (hd : 0 < d) (hn' : n' ≠ 0)
    (hd' : 0 < d') (hratio : (n : ℚ) / d = n' / d') : mantissaFor n d = mantissaFor n' d' := by
  have hpower := powerFor_congr hn hd hn' hd' hratio
  have hpos := scaleDown_pos hd n (powerFor n d)
  have hpos' := scaleDown_pos hd' n' (powerFor n' d')
  refine roundHalfEven_congr hpos hpos' ?_
  have hscaled := scaleDown_eq n hd (powerFor n d)
  rw [hratio, hpower, ← scaleDown_eq n' hd', ← hpower, div_eq_div_iff (by positivity)
    (by rw [hpower]; positivity)] at hscaled
  rw [hpower] at hscaled ⊢
  exact_mod_cast hscaled

/-- The nearest value depends on the quotient alone. -/
theorem ofRatio_congr (negative : Bool) {n d n' d' : Nat} (hn : n ≠ 0) (hd : 0 < d)
    (hn' : n' ≠ 0) (hd' : 0 < d') (hratio : (n : ℚ) / d = n' / d') :
    ofRatio negative n d = ofRatio negative n' d' := by
  rw [ofRatio_eq negative hn, ofRatio_eq negative hn', powerFor_congr hn hd hn' hd' hratio,
    mantissaFor_congr hn hd hn' hd' hratio]

theorem mantissaFor_le {n d : Nat} (hn : n ≠ 0) (hd : 0 < d) :
    mantissaFor n d ≤ Nat.pow 2 53 := by
  have hlt := (scaled_div_lt_iff n hd _).mpr (fits_powerFor hn hd).lt
  have hle := roundHalfEven_le (scaleDown n d (powerFor n d)).1 (scaleDown n d (powerFor n d)).2
  rw [mantissaFor]
  omega

theorem le_mantissaFor {n d : Nat} (hn : n ≠ 0) (hd : 0 < d) :
    powerFor n d = -1074 ∨ Nat.pow 2 52 ≤ mantissaFor n d := by
  refine (fits_powerFor hn hd).full.imp_right fun hfull => ?_
  have hpos := scaleDown_pos hd n (powerFor n d)
  have hpos' : (0 : ℚ) < (scaleDown n d (powerFor n d)).2 := by exact_mod_cast hpos
  refine le_trans ?_ (div_le_roundHalfEven _ _)
  rw [Nat.le_div_iff_mul_le hpos, ← Nat.cast_le (α := ℚ), Nat.cast_mul, ← le_div_iff₀ hpos',
    scaleDown_eq n hd, le_div_iff₀ (by positivity)]
  refine le_trans (le_of_eq ?_) hfull
  rw [zpow_add₀ (by norm_num), mul_comm]
  norm_num

/-! ## Values and their magnitudes -/

/-- The magnitude of a form. -/
def magnitude (mantissa : Nat) (power : ℤ) : ℚ :=
  mantissa * 2 ^ power

theorem fits_magnitude {mantissa : Nat} {power : ℤ} (form : Canonical mantissa power) :
    Fits (magnitude mantissa power) power := by
  obtain ⟨hlt, hlowest, -, hfull⟩ := form
  have hpow : (0 : ℚ) < 2 ^ power := by positivity
  refine ⟨hlowest, ?_, ?_⟩
  · rw [magnitude, zpow_add₀ (by norm_num), mul_comm]
    have hlt' : (mantissa : ℚ) < 2 ^ 53 := by exact_mod_cast hlt
    gcongr
    exact_mod_cast hlt'
  · refine hfull.symm.imp_right fun hfull => ?_
    rw [magnitude, zpow_add₀ (by norm_num), mul_comm]
    have hfull' : (2 : ℚ) ^ 52 ≤ mantissa := by exact_mod_cast hfull
    gcongr
    exact_mod_cast hfull'

/-- A quotient that is the magnitude of a form is rounded to it. -/
theorem ofRatio_of_eq_magnitude (negative : Bool) {n d mantissa : Nat} {power : ℤ} (hn : n ≠ 0)
    (hd : 0 < d) (form : Canonical mantissa power)
    (hratio : (n : ℚ) / d = magnitude mantissa power) :
    ofRatio negative n d = .finite negative mantissa power form := by
  have hpower : powerFor n d = power :=
    (fits_powerFor hn hd).unique (hratio ▸ fits_magnitude form)
  have hpos := scaleDown_pos hd n power
  have hpos' : (0 : ℚ) < (scaleDown n d power).2 := by exact_mod_cast hpos
  have hscaled := scaleDown_eq n hd power
  have hpow : (2 : ℚ) ^ power ≠ 0 := by positivity
  rw [hratio, magnitude, mul_div_cancel_right₀ _ hpow, div_eq_iff hpos'.ne'] at hscaled
  have hexact : (scaleDown n d power).1 = mantissa * (scaleDown n d power).2 := by
    exact_mod_cast hscaled
  have hmantissa : mantissaFor n d = mantissa := by
    rw [mantissaFor, hpower, hexact, roundHalfEven_mul_self _ hpos]
  rw [ofRatio_eq negative hn, hpower, hmantissa, if_neg (Nat.ne_of_lt form.1), ofForm,
    dif_pos form]

/-- The sign has no part in rounding. -/
theorem ofRatio_of_sign {sign negative : Bool} {n d mantissa : Nat} {power : ℤ}
    {form : Canonical mantissa power}
    (hvalue : ofRatio negative n d = .finite sign mantissa power form) (other : Bool) :
    sign = negative ∧ ofRatio other n d = .finite other mantissa power form := by
  by_cases hn : n = 0
  · subst hn
    rw [ofRatio, if_pos rfl, zero] at hvalue
    cases hvalue
    exact ⟨rfl, rfl⟩
  · rw [ofRatio_eq negative hn] at hvalue
    rw [ofRatio_eq other hn]
    split at hvalue <;> rw [ofForm] at hvalue <;> split at hvalue <;> cases hvalue
    next hfull hform => exact ⟨rfl, by rw [if_pos hfull, ofForm, dif_pos hform]⟩
    next hfull hform => exact ⟨rfl, by rw [if_neg hfull, ofForm, dif_pos hform]⟩

/-- The bounds of what is rounded to a form that is not zero. -/
theorem bounds_of_ofRatio {negative : Bool} {n d mantissa : Nat} {power : ℤ} (hd : 0 < d)
    {form : Canonical mantissa power} (hmantissa : mantissa ≠ 0)
    (hvalue : ofRatio negative n d = .finite negative mantissa power form) :
    2 ^ (-1075 : ℤ) ≤ (n : ℚ) / d ∧ (n : ℚ) / d < 2 ^ (1024 : ℤ) := by
  have hn : n ≠ 0 := by
    rintro rfl
    rw [ofRatio, if_pos rfl, zero] at hvalue
    cases hvalue
    exact hmantissa rfl
  have hfits := fits_powerFor hn hd
  have hround : mantissaFor n d ≠ 0 ∧ powerFor n d ≤ 971 := by
    rw [ofRatio_eq negative hn] at hvalue
    split at hvalue <;> rw [ofForm] at hvalue <;> split at hvalue <;> cases hvalue
    next hfull _ =>
      rw [hfull]
      exact ⟨by decide, by have := form.2.2.1; omega⟩
    next => exact ⟨hmantissa, form.2.2.1⟩
  have hhalf := le_two_mul_of_roundHalfEven_ne_zero hround.1
  have hpos := scaleDown_pos hd n (powerFor n d)
  have hpos' : (0 : ℚ) < (scaleDown n d (powerFor n d)).2 := by exact_mod_cast hpos
  have hlow : (1 : ℚ) / 2 ≤ n / d / 2 ^ powerFor n d := by
    rw [← scaleDown_eq n hd, div_le_div_iff₀ (by norm_num) hpos']
    exact_mod_cast (by omega : 1 * _ ≤ _ * 2)
  refine ⟨?_, hfits.lt.trans_le ?_⟩
  · rw [le_div_iff₀ (by positivity)] at hlow
    refine le_trans ?_ hlow
    calc (2 : ℚ) ^ (-1075 : ℤ) = 1 / 2 * 2 ^ (-1074 : ℤ) := by
          rw [show (-1075 : ℤ) = -1 + -1074 by norm_num, zpow_add₀ (by norm_num), zpow_neg_one,
            one_div]
      _ ≤ 1 / 2 * 2 ^ powerFor n d := by
          gcongr
          · norm_num
          · exact hfits.lowest
  · exact zpow_le_zpow_right₀ (by norm_num) (by omega)

/-- Only quotients beyond all values become infinite. -/
theorem ofRatio_ne_infinity (negative : Bool) {n d : Nat} (hd : 0 < d)
    (hlt : (n : ℚ) / d < 2 ^ (1023 : ℤ)) (sign : Bool) :
    ofRatio negative n d ≠ .infinity sign := by
  intro hvalue
  by_cases hn : n = 0
  · rw [ofRatio, if_pos hn, zero] at hvalue
    cases hvalue
  have hfits := fits_powerFor hn hd
  have hhigh : powerFor n d ≤ 970 := by
    rcases hfits.full with hlowest | hfull
    · omega
    · have hpow := hfull.trans_lt hlt
      have hpow := (zpow_lt_zpow_iff_right₀ (by norm_num)).mp hpow
      omega
  have hle := mantissaFor_le hn hd
  have hfull := le_mantissaFor hn hd
  have hlowest := hfits.lowest
  rw [ofRatio_eq negative hn] at hvalue
  split at hvalue <;> rw [ofForm] at hvalue <;> split at hvalue <;> try cases hvalue
  next hform => exact hform ⟨by decide, by omega, by omega, Or.inl (by decide)⟩
  next hne hform => exact hform ⟨by omega, by omega, by omega, hfull.symm⟩

theorem exists_ofInt? {i : ℤ} (hlt : (i.natAbs : ℚ) < 2 ^ (1023 : ℤ)) :
    ∃ value, ofInt? i = some value := by
  have hfinite := ofRatio_ne_infinity (decide (i < 0)) one_pos
    (by simpa only [Nat.cast_one, div_one] using hlt)
  unfold ofInt?
  split
  next sign hvalue => exact absurd hvalue (hfinite sign)
  next value => exact ⟨_, rfl⟩

end Binary64

end SchemaDesk.Decimal

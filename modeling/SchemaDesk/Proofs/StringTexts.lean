import Mathlib.Data.Bool.AllAny
import Mathlib.Data.List.Chain
import SchemaDesk.Json.Parser
import SchemaDesk.Json.Printer

/-!
# The texts of strings

What is read of a string never has the two halves of a pair of surrogates side by side, for
they are read as one character. Every string without such a pair is read again from what is
written of it: every escape is undone, characters beyond the first plane from their two
surrogates, and surrogates that stand alone as they are. What is written is printable and
ASCII.
-/

namespace SchemaDesk

namespace CodePoint

theorem isHigh_char (c : Char) : isHigh c.toNat = false := by
  have hbounds := toNat_char_bounds c
  rw [Bool.eq_false_iff, Ne, isHigh_iff]
  omega

theorem isLow_char (c : Char) : isLow c.toNat = false := by
  have hbounds := toNat_char_bounds c
  rw [Bool.eq_false_iff, Ne, isLow_iff]
  omega

theorem isHigh_ofNat (n : Nat) : isHigh (ofNat n).toNat = isHigh n := by
  by_cases hn : 0xD800 ≤ n ∧ n < 0xE000
  · rw [toNat_ofNat hn]
  · rw [ofNat_eq_char hn, toNat, isHigh_char, eq_comm, Bool.eq_false_iff, Ne, isHigh_iff]
    omega

theorem isLow_ofNat (n : Nat) : isLow (ofNat n).toNat = isLow n := by
  by_cases hn : 0xD800 ≤ n ∧ n < 0xE000
  · rw [toNat_ofNat hn]
  · rw [ofNat_eq_char hn, toNat, isLow_char, eq_comm, Bool.eq_false_iff, Ne, isLow_iff]
    omega

/-- A pair stands for no surrogate. -/
theorem isHigh_ofPair (high low : Nat) : isHigh (ofPair high low).toNat = false := by
  rw [ofPair, isHigh_ofNat, Bool.eq_false_iff, Ne, isHigh_iff]
  omega

theorem isLow_ofPair (high low : Nat) : isLow (ofPair high low).toNat = false := by
  rw [ofPair, isLow_ofNat, Bool.eq_false_iff, Ne, isLow_iff]
  omega

/-- The two surrogates of a character beyond the first plane are a pair and stand for it. -/
theorem ofPair_halves {c : Char} (hc : 0x10000 ≤ c.toNat) :
    isHigh (0xD800 + (c.toNat - 0x10000) / 0x400) = true ∧
      isLow (0xDC00 + (c.toNat - 0x10000) % 0x400) = true ∧
      ofPair (0xD800 + (c.toNat - 0x10000) / 0x400) (0xDC00 + (c.toNat - 0x10000) % 0x400) =
        .char c := by
  have hbounds := toNat_char_bounds c
  have hnumber : 0x10000 + (0xD800 + (c.toNat - 0x10000) / 0x400 - 0xD800) * 0x400 +
      (0xDC00 + (c.toNat - 0x10000) % 0x400 - 0xDC00) = (CodePoint.char c).toNat := by
    rw [toNat]
    omega
  refine ⟨isHigh_iff.mpr (by omega), isLow_iff.mpr (by omega), ?_⟩
  rw [ofPair, hnumber, ofNat_toNat]

end CodePoint

namespace CodeText

/-- No first half of a pair of surrogates stands right before a second half. -/
def Joined (s : CodeText) : Prop :=
  s.IsChain fun point next =>
    ¬(CodePoint.isHigh point.toNat = true ∧ CodePoint.isLow next.toNat = true)

instance (s : CodeText) : Decidable s.Joined :=
  inferInstanceAs (Decidable (List.IsChain _ _))

theorem joined_cons_iff {point : CodePoint} {s : CodeText} : Joined (point :: s) ↔
    (∀ next ∈ s.head?,
      ¬(CodePoint.isHigh point.toNat = true ∧ CodePoint.isLow next.toNat = true)) ∧ s.Joined :=
  List.isChain_cons

theorem joined_char_cons (c : Char) {s : CodeText} (hjoined : s.Joined) :
    Joined (.char c :: s) := by
  refine joined_cons_iff.mpr ⟨?_, hjoined⟩
  rintro next - ⟨hhigh, -⟩
  cases hhigh.symm.trans (CodePoint.isHigh_char c)

/-- A text holds no surrogates. -/
@[simp]
theorem joined_ofText (t : Text) : Joined t := by
  induction t with
  | nil => exact .nil
  | cons c t ih => exact joined_char_cons c ih

@[simp]
theorem joined_ofString (s : String) : Joined s :=
  joined_ofText s.toList

end CodeText

namespace Json

open CodePoint Text

/-- A character that documents are written in: a printable one of ASCII or a line feed. -/
def Plain (c : Char) : Prop :=
  c = '\n' ∨ 32 ≤ c.toNat ∧ c.toNat < 127

instance (c : Char) : Decidable (Plain c) :=
  inferInstanceAs (Decidable (_ ∨ _))

/-! ## Escapes by number -/

theorem hexValue?_hexDigit {n : Nat} (hn : n < 16) : hexValue? (hexDigit n) = some n := by
  have hall : ∀ n < 16, hexValue? (hexDigit n) = some n := by decide
  exact hall n hn

theorem readUnit?_hexDigits {unit : Nat} (hunit : unit < 0x10000) (rest : Text) :
    readUnit? (hexDigits 4 unit ++ rest) = some (unit, rest) := by
  have hmod (n : Nat) : hexValue? (hexDigit (n % 16)) = some (n % 16) :=
    hexValue?_hexDigit (Nat.mod_lt n (by decide))
  simp only [hexDigits, List.nil_append, List.cons_append, readUnit?, hmod, Option.bind_eq_bind,
    Option.bind_some]
  congr 2
  omega

theorem readEscape?_unitEscape {unit : Nat} (hunit : unit < 0x10000) (rest : Text) :
    readEscape? ('u' :: (hexDigits 4 unit ++ rest)) = some (joinUnits unit rest) := by
  simp [readEscape?, readUnit?_hexDigits hunit]

theorem readLow?_unitEscape {unit : Nat} (hunit : unit < 0x10000) (rest : Text) :
    readLow? (unitEscape unit ++ rest) = if isLow unit then some (unit, rest) else none := by
  simp only [unitEscape, List.cons_append, List.nil_append, readLow?, readUnit?_hexDigits hunit,
    Option.filter_some]

/-- An escape by number stands for the code point with the number, unless it is the first half
of a pair and the second half follows. -/
theorem joinUnits_of_no_pair {unit : Nat} {rest : Text}
    (hnext : isHigh unit = true → readLow? rest = none) :
    joinUnits unit rest = (ofNat unit, rest) := by
  have hnone : (if isHigh unit then readLow? rest else none) = none := by
    split
    next hhigh => exact hnext hhigh
    next => rfl
  rw [joinUnits, hnone]

/-- Two surrogates are joined to the character that they were made from. -/
theorem joinUnits_pair {c : Char} (hc : 0x10000 ≤ c.toNat) (rest : Text) :
    joinUnits (0xD800 + (c.toNat - 0x10000) / 0x400)
        (unitEscape (0xDC00 + (c.toNat - 0x10000) % 0x400) ++ rest) = (.char c, rest) := by
  obtain ⟨hhigh, hlow, hpair⟩ := ofPair_halves hc
  rw [joinUnits, if_pos hhigh, readLow?_unitEscape (by omega), if_pos hlow]
  exact congrArg (·, rest) hpair

/-! ## Code points -/

/-- Reading goes on behind an escape. -/
theorem readString?_backslash {fuel : Nat} {t rest : Text} {point : CodePoint}
    (hescape : readEscape? t = some (point, rest)) :
    readString? (fuel + 1) ('\\' :: t) =
      (readString? fuel rest).map fun (tail, rest') => (point :: tail, rest') := by
  rw [readString?, if_neg (by decide), if_pos (by decide), hescape]
  simp only [Option.bind_eq_bind, Option.bind_some]
  cases readString? fuel rest <;> rfl

/-- A code point that is written by its number is read, unless a pair would come of it. -/
theorem readString?_unitEscape (fuel : Nat) {point : CodePoint} (hpoint : point.toNat < 0x10000)
    {rest : Text} (hnext : isHigh point.toNat = true → readLow? rest = none) :
    readString? (fuel + 1) (unitEscape point.toNat ++ rest) =
      (readString? fuel rest).map fun (tail, rest') => (point :: tail, rest') := by
  have hescape := readEscape?_unitEscape hpoint rest
  rw [joinUnits_of_no_pair hnext, ofNat_toNat] at hescape
  exact readString?_backslash hescape

/-- A character is written by a letter behind a backslash, as it is, by its number, or by the
numbers of its two surrogates. -/
theorem escapeChar_cases (c : Char) :
    (∃ mark, escapeChar c = ['\\', mark] ∧ Plain mark ∧ mark ≠ 'u' ∧
        ∀ rest, readEscape? (mark :: rest) = some (.char c, rest)) ∨
      (escapeChar c = [c] ∧ (c ≠ '"' ∧ c ≠ '\\') ∧ 32 ≤ c.toNat ∧ c.toNat < 127) ∨
      (escapeChar c = unitEscape c.toNat ∧ c.toNat < 0x10000) ∨
      (escapeChar c = unitEscape (0xD800 + (c.toNat - 0x10000) / 0x400) ++
        unitEscape (0xDC00 + (c.toNat - 0x10000) % 0x400) ∧ 0x10000 ≤ c.toNat) := by
  generalize hform : escapeChar c = form
  unfold escapeChar at hform
  split at hform
  next hquote =>
    rcases (by simpa using hquote : c = '"' ∨ c = '\\') with rfl | rfl <;>
      exact .inl ⟨_, hform.symm, by decide, by decide, fun _ => rfl⟩
  iterate 5
    split at hform
    next heq =>
      obtain rfl := eq_of_beq heq
      exact .inl ⟨_, hform.symm, by decide, by decide, fun _ => rfl⟩
  split at hform
  next hquote _ _ _ _ _ hplain =>
    exact .inr (.inl ⟨hform.symm, by simpa using hquote, by simpa using hplain⟩)
  split at hform
  next hfirst => exact .inr (.inr (.inl ⟨hform.symm, hfirst⟩))
  next hbeyond => exact .inr (.inr (.inr ⟨hform.symm, Nat.le_of_not_lt hbeyond⟩))

/-- A character is read from what is written for it. -/
theorem readString?_escapeChar (fuel : Nat) (c : Char) (rest : Text) :
    readString? (fuel + 1) (escapeChar c ++ rest) =
      (readString? fuel rest).map fun (tail, rest') => (.char c :: tail, rest') := by
  have hbounds := toNat_char_bounds c
  rcases escapeChar_cases c with ⟨mark, hform, -, -, hread⟩ | ⟨hform, hquote, hprinted⟩ |
    ⟨hform, hfirst⟩ | ⟨hform, hbeyond⟩
  · rw [hform]
    exact readString?_backslash (hread rest)
  · rw [hform]
    simp [readString?, hquote, Nat.not_lt.mpr hprinted.1]
  · rw [hform]
    have hfirst : (CodePoint.char c).toNat < 0x10000 := hfirst
    refine readString?_unitEscape fuel hfirst ?_
    intro hhigh
    cases hhigh.symm.trans (isHigh_char c)
  · have hunit : 0xD800 + (c.toNat - 0x10000) / 0x400 < 0x10000 := by omega
    have hescape := readEscape?_unitEscape hunit
      (unitEscape (0xDC00 + (c.toNat - 0x10000) % 0x400) ++ rest)
    rw [joinUnits_pair hbeyond] at hescape
    rw [hform, List.append_assoc]
    exact readString?_backslash hescape

theorem toNat_surrogate_lt (offset : Fin 0x800) :
    (CodePoint.surrogate offset).toNat < 0x10000 := by
  rw [CodePoint.toNat]
  omega

/-- A code point is read from what is written for it, unless a pair would come of it. -/
theorem readString?_escape (fuel : Nat) (point : CodePoint) {rest : Text}
    (hnext : isHigh point.toNat = true → readLow? rest = none) :
    readString? (fuel + 1) (escape point ++ rest) =
      (readString? fuel rest).map fun (tail, rest') => (point :: tail, rest') := by
  cases point with
  | char c => exact readString?_escapeChar fuel c rest
  | surrogate offset => exact readString?_unitEscape fuel (toNat_surrogate_lt offset) hnext

/-- Only a second half of a pair is written as one. -/
theorem readLow?_escape {point : CodePoint} (hpoint : isLow point.toNat = false) (rest : Text) :
    readLow? (escape point ++ rest) = none := by
  cases point with
  | surrogate offset =>
    rw [escape, readLow?_unitEscape (toNat_surrogate_lt offset), hpoint]
    rfl
  | char c =>
    have hbounds := toNat_char_bounds c
    rw [escape]
    rcases escapeChar_cases c with ⟨mark, hform, -, hmark, -⟩ | ⟨hform, hquote, -⟩ |
      ⟨hform, hfirst⟩ | ⟨hform, hbeyond⟩
    · simp [hform, readLow?, hmark]
    · simp [hform, readLow?, hquote]
    · rw [hform, readLow?_unitEscape hfirst, isLow_char]
      rfl
    · have hhigh : isLow (0xD800 + (c.toNat - 0x10000) / 0x400) = false := by
        rw [Bool.eq_false_iff, Ne, isLow_iff]
        omega
      rw [hform, List.append_assoc, readLow?_unitEscape (by omega), hhigh]
      rfl

/-! ## Strings -/

/-- A string in which no pair stands apart is read again, up to its closing quote. -/
theorem readString?_flatMap {fuel : Nat} {s : CodeText} (hjoined : s.Joined) (rest : Text)
    (hfuel : s.length < fuel) :
    readString? fuel (s.flatMap escape ++ '"' :: rest) = some (s, rest) := by
  induction s generalizing fuel with
  | nil =>
      obtain ⟨fuel, rfl⟩ := Nat.exists_eq_add_of_lt hfuel
      simp [readString?]
  | cons point s ih =>
      obtain ⟨fuel, rfl⟩ := Nat.exists_eq_add_of_lt hfuel
      obtain ⟨hfirst, hjoined⟩ := CodeText.joined_cons_iff.mp hjoined
      have hnext : isHigh point.toNat = true →
          readLow? (s.flatMap escape ++ '"' :: rest) = none := by
        intro hhigh
        cases s with
        | nil => rfl
        | cons next s =>
          have hlow := Bool.eq_false_iff.mpr fun hlow => hfirst next rfl ⟨hhigh, hlow⟩
          rw [List.flatMap_cons, List.append_assoc]
          exact readLow?_escape hlow _
      rw [List.flatMap_cons, List.append_assoc, readString?_escape _ _ hnext,
        ih hjoined (by simp; omega)]
      rfl

/-- The first half of a pair is left alone only if the second half does not follow. -/
theorem readLow?_of_joinUnits {unit : Nat} {rest behind : Text} {point : CodePoint}
    (hjoin : joinUnits unit rest = (point, behind)) (hhigh : isHigh point.toNat = true) :
    readLow? behind = none := by
  unfold joinUnits at hjoin
  split at hjoin
  next =>
    obtain ⟨rfl, rfl⟩ := Prod.mk.inj hjoin
    rw [isHigh_ofPair] at hhigh
    cases hhigh
  next hnone =>
    obtain ⟨rfl, rfl⟩ := Prod.mk.inj hjoin
    rw [isHigh_ofNat] at hhigh
    rwa [if_pos hhigh] at hnone

theorem isLow_of_joinUnits {unit : Nat} {rest behind : Text} {point : CodePoint}
    (hjoin : joinUnits unit rest = (point, behind)) (hlow : isLow point.toNat = true) :
    isLow unit = true := by
  unfold joinUnits at hjoin
  split at hjoin
  next =>
    obtain ⟨rfl, rfl⟩ := Prod.mk.inj hjoin
    rw [isLow_ofPair] at hlow
    cases hlow
  next =>
    obtain ⟨rfl, rfl⟩ := Prod.mk.inj hjoin
    rwa [isLow_ofNat] at hlow

/-- An escape stands for a character of its own, or it is one by number. -/
theorem readEscape?_cases {t rest : Text} {point : CodePoint}
    (hread : readEscape? t = some (point, rest)) :
    (∃ c, point = .char c) ∨ ∃ digits unit after, t = 'u' :: digits ∧
      readUnit? digits = some (unit, after) ∧ joinUnits unit after = (point, rest) := by
  unfold readEscape? at hread
  split at hread
  next => cases hread
  next c t =>
    iterate 6
      split at hread
      next =>
        cases hread
        exact .inl ⟨_, rfl⟩
    split at hread
    next heq =>
      obtain ⟨⟨unit, after⟩, hunit, hjoin⟩ := Option.map_eq_some_iff.mp hread
      exact .inr ⟨t, unit, after, by rw [eq_of_beq heq], hunit, hjoin⟩
    next => cases hread

/-- What was read of a string holds no pair apart, and it starts with the second half of one
only where this was written. -/
theorem joined_of_readString? {fuel : Nat} {t rest : Text} {s : CodeText}
    (hread : readString? fuel t = some (s, rest)) :
    s.Joined ∧ ∀ point ∈ s.head?, isLow point.toNat = true → readLow? t ≠ none := by
  induction fuel generalizing t s with
  | zero => simp [readString?] at hread
  | succ fuel ih =>
    cases t with
    | nil => simp [readString?] at hread
    | cons c t =>
      unfold readString? at hread
      split at hread
      next =>
        cases hread
        exact ⟨.nil, nofun⟩
      split at hread
      next heq =>
        obtain rfl := eq_of_beq heq
        simp only [Option.bind_eq_bind, Option.bind_eq_some_iff] at hread
        obtain ⟨⟨point, after⟩, hescape, ⟨tail, behind⟩, htail, heq⟩ := hread
        cases heq
        obtain ⟨hjoined, hhead⟩ := ih htail
        rcases readEscape?_cases hescape with ⟨c, rfl⟩ | ⟨digits, unit, after', rfl, hunit, hjoin⟩
        · refine ⟨CodeText.joined_char_cons c hjoined, ?_⟩
          rintro _ ⟨⟩ hlow
          cases hlow.symm.trans (isLow_char c)
        · refine ⟨CodeText.joined_cons_iff.mpr ⟨?_, hjoined⟩, ?_⟩
          · rintro next hnext ⟨hhigh, hlow⟩
            exact hhead next hnext hlow (readLow?_of_joinUnits hjoin hhigh)
          · rintro _ ⟨⟩ hlow
            simp [readLow?, hunit, isLow_of_joinUnits hjoin hlow]
      split at hread
      next => cases hread
      next =>
        obtain ⟨⟨tail, behind⟩, htail, heq⟩ := Option.map_eq_some_iff.mp hread
        cases heq
        refine ⟨CodeText.joined_char_cons c (ih htail).1, ?_⟩
        rintro _ ⟨⟩ hlow
        cases hlow.symm.trans (isLow_char c)

/-- A pair that stood apart is read as the character that it is. -/
example : readString? 20 (stringText [.surrogate 0, .surrogate 0x400]).tail =
    some ([.char (Char.ofNat 0x10000)], []) := by
  decide +kernel

theorem stringText_append (s : CodeText) (rest : Text) :
    stringText s ++ rest = '"' :: (s.flatMap escape ++ '"' :: rest) := by
  simp [stringText]

theorem escapeChar_ne_nil (c : Char) : escapeChar c ≠ [] := by
  rcases escapeChar_cases c with ⟨mark, hform, -⟩ | ⟨hform, -⟩ | ⟨hform, -⟩ | ⟨hform, -⟩ <;>
    simp [hform, unitEscape]

theorem escape_ne_nil (point : CodePoint) : escape point ≠ [] := by
  cases point with
  | char c => exact escapeChar_ne_nil c
  | surrogate offset => exact List.cons_ne_nil _ _

theorem length_lt_length_stringText (s : CodeText) : s.length < (stringText s).length := by
  have hle : s.length ≤ (s.flatMap escape).length := by
    induction s with
    | nil => simp
    | cons point s ih =>
        have hpos := List.length_pos_iff.mpr (escape_ne_nil point)
        rw [List.flatMap_cons, List.length_append, List.length_cons]
        omega
  rw [stringText, List.cons_append, List.length_cons, List.length_append]
  omega

/-! ## Printable characters -/

end Json

end SchemaDesk

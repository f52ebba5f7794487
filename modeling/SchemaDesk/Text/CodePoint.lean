import SchemaDesk.Text.Basic

/-!
# Strings of code points

The strings of documents, and the names of their fields, may hold what a text cannot: a
surrogate that has no partner. Such a string is a list of code points, of which every text
is one. Where a text is made of it, a surrogate stands as the replacement character.
-/

namespace SchemaDesk

/-- A code point: a character, or a surrogate. -/
inductive CodePoint where
  | char (c : Char)
  /-- The surrogate that is so far behind the first one. -/
  | surrogate (offset : Fin 0x800)
  deriving DecidableEq, Repr

namespace CodePoint

/-- The number of a code point. -/
def toNat : CodePoint → Nat
  | .char c => c.toNat
  | .surrogate offset => 0xD800 + offset

/-- The code point with a number. -/
def ofNat (n : Nat) : CodePoint :=
  if h : 0xD800 ≤ n ∧ n < 0xE000 then .surrogate ⟨n - 0xD800, by omega⟩
  else .char (Char.ofNat n)

/-- The number of the first half of a pair of surrogates. -/
def isHigh (n : Nat) : Bool :=
  0xD800 ≤ n && n < 0xDC00

/-- The number of the second half of a pair of surrogates. -/
def isLow (n : Nat) : Bool :=
  0xDC00 ≤ n && n < 0xE000

/-- The code point that a pair of surrogates stands for. -/
def ofPair (high low : Nat) : CodePoint :=
  ofNat (0x10000 + (high - 0xD800) * 0x400 + (low - 0xDC00))

/-- White space; no surrogate is any. -/
def isBlank : CodePoint → Bool
  | .char c => Text.isBlank c
  | .surrogate _ => false

/-- The code point as a character. -/
def shown : CodePoint → Char
  | .char c => c
  | .surrogate _ => '\uFFFD'

theorem isHigh_iff {n : Nat} : isHigh n = true ↔ 0xD800 ≤ n ∧ n < 0xDC00 := by
  simp [isHigh]

theorem isLow_iff {n : Nat} : isLow n = true ↔ 0xDC00 ≤ n ∧ n < 0xE000 := by
  simp [isLow]

/-- No character has the number of a surrogate. -/
theorem toNat_char_bounds (c : Char) :
    c.toNat < 0xD800 ∨ 0xDFFF < c.toNat ∧ c.toNat < 0x110000 :=
  c.valid

theorem toNat_ofNat {n : Nat} (hn : 0xD800 ≤ n ∧ n < 0xE000) : (ofNat n).toNat = n := by
  rw [ofNat, dif_pos hn]
  exact Nat.add_sub_cancel' hn.1

theorem ofNat_eq_char {n : Nat} (hn : ¬(0xD800 ≤ n ∧ n < 0xE000)) :
    ofNat n = .char (Char.ofNat n) :=
  dif_neg hn

@[simp]
theorem ofNat_toNat (point : CodePoint) : ofNat point.toNat = point := by
  cases point with
  | char c =>
    have hbounds := toNat_char_bounds c
    rw [toNat, ofNat_eq_char (by omega), Char.ofNat_toNat]
  | surrogate offset =>
    have hsurrogate : 0xD800 ≤ 0xD800 + offset.val ∧ 0xD800 + offset.val < 0xE000 := by omega
    simp [ofNat, toNat, hsurrogate]

end CodePoint

/-- A string of code points. -/
abbrev CodeText := List CodePoint

namespace CodeText

/-- A text as a string. -/
def ofText (t : Text) : CodeText :=
  t.map .char

/-- A text constant as a string. -/
def ofString (s : String) : CodeText :=
  ofText s.toList

instance : Coe Text CodeText := ⟨ofText⟩

instance : Coe String CodeText := ⟨ofString⟩

/-- The text of a string. -/
def text (s : CodeText) : Text :=
  s.map CodePoint.shown

/-- The string without white space at either edge. -/
def strip (s : CodeText) : CodeText :=
  Text.trimWhere CodePoint.isBlank s

/-- Is the first of two strings not behind the second? They are ordered by the numbers of
their code points. -/
def precedes : CodeText → CodeText → Bool
  | [], _ => true
  | _ :: _, [] => false
  | point :: s, other :: t =>
    point.toNat < other.toNat || (point == other && precedes s t)

@[simp]
theorem text_ofText (t : Text) : text t = t := by
  have hshown : CodePoint.shown ∘ .char = id := rfl
  rw [text, ofText, List.map_map, hshown, List.map_id]

theorem ofText_injective : Function.Injective ofText := by
  intro t u heq
  rw [← text_ofText t, heq, text_ofText]

@[simp]
theorem ofText_inj {t u : Text} : ofText t = ofText u ↔ t = u :=
  ofText_injective.eq_iff

@[simp]
theorem ofText_eq_nil_iff {t : Text} : ofText t = [] ↔ t = [] :=
  List.map_eq_nil_iff

end CodeText

end SchemaDesk

import Mathlib.Data.List.DropRight
import SchemaDesk.Text.Utf8

/-!
# Texts that operations leave as they are

A text that has been trimmed is not trimmed any further, and a text without a
carriage return before a line feed keeps all of its characters in a buffer. A text
without any carriage return is the same when its line ends are made one kind, and no
other text is. Every text is the same text again after it was put into octets.
-/

namespace SchemaDesk.Text

theorem rdropWhile_append_of_pos {p : Char → Bool} {t ends : Text}
    (hends : ∀ c ∈ ends, p c = true) : (t ++ ends).rdropWhile p = t.rdropWhile p := by
  rw [List.rdropWhile, List.reverse_append, List.dropWhile_append_of_pos (by simpa using hends),
    ← List.rdropWhile]

/-- What was trimmed has nothing unwanted at its front. -/
theorem dropWhile_trimWhere {α : Type} (unwanted : α → Bool) (t : List α) :
    (trimWhere unwanted t).dropWhile unwanted = trimWhere unwanted t := by
  have hfront : trimWhere unwanted t <+: t.dropWhile unwanted :=
    List.rdropWhile_prefix unwanted _
  rw [List.dropWhile_eq_self_iff]
  intro hlength
  rw [hfront.getElem hlength]
  exact List.dropWhile_get_zero_not unwanted t (Nat.lt_of_lt_of_le hlength hfront.length_le)

theorem trimWhere_trimWhere {α : Type} (unwanted : α → Bool) (t : List α) :
    trimWhere unwanted (trimWhere unwanted t) = trimWhere unwanted t := by
  have hright : (trimWhere unwanted t).rdropWhile unwanted = trimWhere unwanted t :=
    List.rdropWhile_idempotent unwanted _
  rw [trimWhere, dropWhile_trimWhere, ← List.rdropWhile, hright]

theorem stripLeft_strip (t : Text) : stripLeft (strip t) = strip t :=
  dropWhile_trimWhere isBlank t

theorem strip_strip (t : Text) : strip (strip t) = strip t :=
  trimWhere_trimWhere isBlank t

/-- What is left after trimming begins with a character that is not white space. -/
theorem isBlank_eq_false_of_strip {t rest : Text} {c : Char} (hstrip : strip t = c :: rest) :
    isBlank c = false := by
  have hleft := stripLeft_strip t
  rw [hstrip, stripLeft, List.dropWhile_eq_self_iff] at hleft
  simpa using hleft

/-- Only a carriage return before a line feed is ever dropped. -/
theorem dropReturnBeforeFeed_eq_self_iff (t : Text) :
    dropReturnBeforeFeed t = t ↔ ¬ ['\r', '\n'] <:+: t := by
  induction t using dropReturnBeforeFeed.induct with
  | case1 => simp [dropReturnBeforeFeed]
  | case2 rest ih =>
      have hpart : ['\r', '\n'] <:+: '\r' :: '\n' :: rest := List.IsPrefix.isInfix ⟨rest, rfl⟩
      simp [dropReturnBeforeFeed, hpart]
  | case3 c rest hother ih =>
      have hfront : ¬ ['\r', '\n'] <+: c :: rest := by
        rintro ⟨after, hafter⟩
        obtain ⟨rfl, rfl⟩ := List.cons.inj hafter
        exact hother after rfl rfl
      rw [dropReturnBeforeFeed.eq_3 c rest hother, List.infix_cons_iff, List.cons_inj_right, ih]
      simp [hfront]

theorem length_dropReturnBeforeFeed_le (t : Text) :
    (dropReturnBeforeFeed t).length ≤ t.length := by
  induction t using dropReturnBeforeFeed.induct with
  | case1 => exact Nat.le_refl _
  | case2 rest ih =>
      simp only [dropReturnBeforeFeed, List.length_cons]
      omega
  | case3 c rest hother ih =>
      rw [dropReturnBeforeFeed.eq_3 c rest hother]
      simpa using ih

theorem dropReturnBeforeFeed_of_not_mem {t : Text} (hreturn : '\r' ∉ t) :
    dropReturnBeforeFeed t = t := by
  rw [dropReturnBeforeFeed_eq_self_iff]
  intro hpart
  exact hreturn (hpart.subset (by simp))

theorem unifyLineEnds_of_not_mem {t : Text} (ht : '\r' ∉ t) : unifyLineEnds t = t := by
  fun_induction unifyLineEnds t <;> simp_all

theorem unifyLineEnds_eq_self_iff {t : Text} : unifyLineEnds t = t ↔ '\r' ∉ t := by
  constructor
  · intro hunified
    rw [← hunified]
    exact not_mem_unifyLineEnds t
  · exact unifyLineEnds_of_not_mem

namespace Utf8

theorem continuation_cons {owed low high value octet : Nat} (hlow : low ≤ octet)
    (hhigh : octet ≤ high) (hoctet : octet < 256) (rest : List UInt8) :
    continuation (owed + 1) low high value (.ofNat octet :: rest) =
      ((continuation owed 0x80 0xBF (value * 64 + (octet - 0x80)) rest).1,
        (continuation owed 0x80 0xBF (value * 64 + (octet - 0x80)) rest).2 + 1) := by
  have hnat : (UInt8.ofNat octet).toNat = octet := by
    rw [UInt8.toNat_ofNat']
    omega
  rw [continuation, hnat, if_pos ⟨hlow, hhigh⟩]

/-! ### Characters as octets -/

theorem promise?_one {octet : Nat} (hoctet : octet < 0x80) :
    promise? octet = some (octet, 0, 0x80, 0xBF) :=
  if_pos hoctet

theorem promise?_two {share : Nat} (hlow : 2 ≤ share) (hhigh : share < 32) :
    promise? (0xC0 + share) = some (share, 1, 0x80, 0xBF) := by
  decide +revert

theorem promise?_three {share : Nat} (hshare : share < 16) :
    promise? (0xE0 + share) =
      some (share, 2, if share = 0 then 0xA0 else 0x80, if share = 13 then 0x9F else 0xBF) := by
  decide +revert

theorem promise?_four {share : Nat} (hshare : share < 5) :
    promise? (0xF0 + share) =
      some (share, 3, if share = 0 then 0x90 else 0x80, if share = 4 then 0x8F else 0xBF) := by
  decide +revert

theorem stretchAt_ofNat {octet value owed low high : Nat} (hoctet : octet < 256)
    (hpromise : promise? octet = some (value, owed, low, high)) (rest : List UInt8) :
    stretchAt (.ofNat octet) rest = continuation owed low high value rest := by
  have hnat : (UInt8.ofNat octet).toNat = octet := by
    rw [UInt8.toNat_ofNat']
    omega
  rw [stretchAt, hnat, hpromise]

/-- No character has a code point between the surrogates or beyond the last plane. -/
theorem toNat_cases (c : Char) : c.toNat < 0xD800 ∨ 0xDFFF < c.toNat ∧ c.toNat < 0x110000 :=
  c.valid

/-- The octets of a character are one stretch, which stands for it. -/
theorem stretchAt_encodeChar (c : Char) (rest : List UInt8) :
    ∃ octet more, encodeChar c = octet :: more ∧
      stretchAt octet (more ++ rest) = (.ok c, more.length) := by
  have hchar (value : Nat) (hvalue : value = c.toNat) : Char.ofNat value = c := by
    rw [hvalue, Char.ofNat_toNat]
  have hscalar := toNat_cases c
  unfold encodeChar
  dsimp only
  generalize c.toNat = n at hchar hscalar
  split
  next hone =>
    refine ⟨_, _, rfl, ?_⟩
    rw [stretchAt_ofNat (by omega) (promise?_one hone), continuation, hchar n rfl]
    rfl
  split
  next htwo =>
    refine ⟨_, _, rfl, ?_⟩
    rw [stretchAt_ofNat (by omega) (promise?_two (by omega) (by omega)), List.cons_append,
      continuation_cons (by omega) (by omega) (by omega), continuation, hchar _ (by omega)]
    rfl
  split
  next hthree =>
    have hlow : (if n / 4096 = 0 then 0xA0 else 0x80) ≤ 0x80 + n / 64 % 64 := by
      split <;> omega
    have hhigh : 0x80 + n / 64 % 64 ≤ if n / 4096 = 13 then 0x9F else 0xBF := by
      split <;> omega
    refine ⟨_, _, rfl, ?_⟩
    rw [stretchAt_ofNat (by omega) (promise?_three (by omega)), List.cons_append,
      continuation_cons hlow hhigh (by omega), List.cons_append,
      continuation_cons (by omega) (by omega) (by omega), continuation, hchar _ (by omega)]
    rfl
  next hfour =>
    have hlow : (if n / 262144 = 0 then 0x90 else 0x80) ≤ 0x80 + n / 4096 % 64 := by
      split <;> omega
    have hhigh : 0x80 + n / 4096 % 64 ≤ if n / 262144 = 4 then 0x8F else 0xBF := by
      split <;> omega
    refine ⟨_, _, rfl, ?_⟩
    rw [stretchAt_ofNat (by omega) (promise?_four (by omega)), List.cons_append,
      continuation_cons hlow hhigh (by omega), List.cons_append,
      continuation_cons (by omega) (by omega) (by omega), List.cons_append,
      continuation_cons (by omega) (by omega) (by omega), continuation, hchar _ (by omega)]
    rfl

theorem stretches_encodeChar_append (c : Char) (rest : List UInt8) :
    stretches (encodeChar c ++ rest) =
      { octets := encodeChar c, meaning := .ok c } :: stretches rest := by
  obtain ⟨octet, more, hoctets, hstretch⟩ := stretchAt_encodeChar c rest
  rw [hoctets, List.cons_append, stretches, hstretch]
  simp

theorem stretches_encode (t : Text) :
    stretches (encode t) = t.map fun c => { octets := encodeChar c, meaning := .ok c } := by
  induction t with
  | nil =>
      rw [encode, List.flatMap_nil, stretches]
      rfl
  | cons c t ih =>
      rw [encode, List.flatMap_cons, stretches_encodeChar_append, ← encode, ih]
      rfl

theorem readStretches_map (offset : Nat) (t : Text) (octets : Char → List UInt8) :
    readStretches offset (t.map fun c => { octets := octets c, meaning := .ok c }) = .ok t := by
  induction t generalizing offset with
  | nil => rfl
  | cons c t ih =>
      rw [List.map_cons, readStretches, ih]
      rfl

/-- A text is read from its octets. -/
theorem decode_encode (t : Text) : decode (encode t) = .ok t := by
  rw [decode, stretches_encode, readStretches_map]

end Utf8

end SchemaDesk.Text

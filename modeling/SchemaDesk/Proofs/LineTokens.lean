import SchemaDesk.Hover.Lookup
import SchemaDesk.Proofs.TextRuns

/-!
# Tokens of a line

A token is an identifier with at most two at signs before it, as long as it can be. The tokens of
a line are found from left to right: at each place the token that starts there is taken as a
whole, and where none starts the next place is looked at. So a letter directly before a token is
the end of another one.
-/

namespace SchemaDesk.Hover

open Text

/-! ## What a token is -/

/-- At most two at signs and an identifier. -/
def IsWord (t : Text) : Prop :=
  ∃ signs name, t = signs ++ name ∧ signs.length ≤ 2 ∧ (∀ c ∈ signs, c = '@') ∧ IsIdentifier name

/-- In the line, a token of this length starts at the offset. -/
def TokenAt (line : Text) (offset length : Nat) : Prop :=
  ∃ word rest, line.drop offset = word ++ rest ∧ word.length = length ∧ IsWord word ∧ StopsWord rest

theorem IsWord.ne_nil {t : Text} (h : IsWord t) : t ≠ [] := by
  obtain ⟨signs, name, rfl, -, -, hname⟩ := h
  exact List.append_ne_nil_of_right_ne_nil _ hname.ne_nil

/-- The length of a token with so many signs, whose name is what the text starts with. -/
def lengthBehind (signs : Nat) : Text → Option Nat
  | [] => none
  | c :: rest =>
    if startsIdentifier c then some (signs + 1 + (leadingWord rest).length) else none

theorem tokenRule_eq {signs rest : Text}
    (hsigns : ((signs ++ rest).takeWhile (· == '@')).take 2 = signs) (before : Option Char) :
    tokenRule before (signs ++ rest) = lengthBehind signs.length rest := by
  simp only [tokenRule, hsigns, List.drop_left]
  cases rest <;> rfl

/-- A letter starts a token, unless it belongs to one already. -/
theorem exists_tokenAt {t : Text} {offset : Nat} {c : Char} (hletter : t[offset]? = some c)
    (hc : startsIdentifier c = true) : ∃ length, TokenAt t offset length := by
  obtain ⟨hwithin, rfl⟩ := List.getElem?_eq_some_iff.mp hletter
  have hsplit : t.drop offset = (t[offset] :: leadingWord (t.drop (offset + 1))) ++
      (t.drop (offset + 1)).dropWhile isWordChar := by
    rw [List.cons_append, leadingWord, List.takeWhile_append_dropWhile,
      List.drop_eq_getElem_cons hwithin]
  exact ⟨_, _, _, hsplit, rfl, ⟨[], _, rfl, by simp, by simp, _, _, rfl, hc,
    fun d hd => List.mem_takeWhile_imp hd⟩, stopsWord_dropWhile _⟩

theorem tokenRule_append {word rest : Text} (hword : IsWord word) (hrest : StopsWord rest)
    (before : Option Char) : tokenRule before (word ++ rest) = some word.length := by
  obtain ⟨signs, name, rfl, hlength, hat, c, tail, rfl, hc, htail⟩ := hword
  have hsigns : (signs ++ (c :: tail ++ rest)).takeWhile (· == '@') = signs := by
    apply takeWhile_append_of_stops
    · intro d hd
      simp [hat d hd]
    · intro d hd
      obtain rfl : c = d := Option.some.inj hd
      rw [beq_eq_false_iff_ne]
      rintro rfl
      exact absurd hc (by decide)
  have htwo : ((signs ++ (c :: tail ++ rest)).takeWhile (· == '@')).take 2 = signs := by
    rw [hsigns, List.take_of_length_le hlength]
  rw [List.append_assoc, tokenRule_eq htwo]
  simp [lengthBehind, hc, leadingWord_append htail hrest, Nat.add_assoc, Nat.add_comm 1]

theorem exists_of_tokenRule {before : Option Char} {t : Text} {length : Nat}
    (hrule : tokenRule before t = some length) :
    ∃ word rest, t = word ++ rest ∧ word.length = length ∧ IsWord word ∧ StopsWord rest := by
  have hinitial : (t.takeWhile (· == '@')).take 2 <+: t :=
    (List.take_prefix _ _).trans (List.takeWhile_prefix _)
  obtain ⟨name, hsplit⟩ := hinitial
  have hat : ∀ c ∈ (t.takeWhile (· == '@')).take 2, c = '@' := by
    intro c hc
    simpa using List.mem_takeWhile_imp (List.mem_of_mem_take hc)
  have htwo : ((t.takeWhile (· == '@')).take 2).length ≤ 2 := List.length_take_le _ _
  generalize hsigns : (t.takeWhile (· == '@')).take 2 = signs at hsplit hat htwo
  subst hsplit
  rw [tokenRule_eq hsigns] at hrule
  cases name with
  | nil => cases hrule
  | cons c rest =>
    rw [lengthBehind] at hrule
    split at hrule
    next hc =>
      cases hrule
      refine ⟨signs ++ c :: leadingWord rest, rest.dropWhile isWordChar, ?_, ?_, ?_,
        stopsWord_dropWhile rest⟩
      · rw [List.append_assoc, List.cons_append, leadingWord, List.takeWhile_append_dropWhile]
      · simp [Nat.add_assoc, Nat.add_comm 1]
      · exact ⟨signs, _, rfl, htwo, hat, c, _, rfl, hc, fun d hd => List.mem_takeWhile_imp hd⟩
    next => cases hrule

/-! ## Scanning a line -/

/-- The tokens of a line from an offset on. -/
inductive ScannedFrom (line : Text) : Nat → List Stretch → Prop
  | done {offset : Nat} : line.length ≤ offset → ScannedFrom line offset []
  | token {offset length : Nat} {tokens : List Stretch} :
      TokenAt line offset length → ScannedFrom line (offset + length) tokens →
        ScannedFrom line offset (⟨offset, length⟩ :: tokens)
  | skip {offset : Nat} {tokens : List Stretch} :
      offset < line.length → (∀ length, ¬TokenAt line offset length) →
        ScannedFrom line (offset + 1) tokens → ScannedFrom line offset tokens

theorem scannedFrom_scanFrom {line : Text} (t : Text) {offset skip : Nat} {before : Option Char}
    (hline : line.drop offset = t) (hskip : skip ≤ t.length) :
    ScannedFrom line (offset + skip) (scanFrom tokenRule offset skip before t) := by
  -- A token is taken as a whole and then skipped, so the induction is for any skip.
  induction t generalizing offset skip before with
  | nil =>
      obtain rfl := Nat.le_zero.mp hskip
      exact .done (List.drop_eq_nil_iff.mp hline)
  | cons c rest ih =>
      have hrest : line.drop (offset + 1) = rest := by
        rw [← List.drop_drop, hline, List.drop_one, List.tail_cons]
      cases skip with
      | succ skip =>
          have hlater : ScannedFrom line (offset + 1 + skip)
              (scanFrom tokenRule (offset + 1) skip (some c) rest) :=
            ih hrest (Nat.le_of_succ_le_succ hskip)
          rwa [Nat.add_right_comm] at hlater
      | zero =>
          have hwithin : offset < line.length := by
            apply Nat.lt_of_not_le
            intro hend
            rw [List.drop_eq_nil_of_le hend] at hline
            cases hline
          rw [scanFrom]
          split
          next length hrule =>
            obtain ⟨word, after, hsplit, hlength, hword, hstops⟩ := exists_of_tokenRule hrule
            refine .token ⟨word, after, hline.trans hsplit, hlength, hword, hstops⟩ ?_
            have hfits : length ≤ rest.length := by
              have htotal := congrArg List.length hsplit
              rw [List.length_append, List.length_cons] at htotal
              omega
            have hlater : ScannedFrom line (offset + 1 + length)
                (scanFrom tokenRule (offset + 1) length (some c) rest) :=
              ih hrest hfits
            rwa [Nat.add_right_comm] at hlater
          next hnone =>
            refine .skip hwithin ?_ (ih hrest (Nat.zero_le _))
            rintro length ⟨word, after, hsplit, -, hword, hstops⟩
            have hrule := tokenRule_append hword hstops before
            rw [← hline.symm.trans hsplit] at hrule
            obtain ⟨n, hn⟩ := Nat.exists_eq_succ_of_ne_zero
              (List.length_eq_zero_iff.not.mpr hword.ne_nil)
            rw [hn] at hrule
            exact hnone n hrule

/-- The tokens of a line are what the scan finds. -/
theorem scannedFrom_tokens (line : Text) : ScannedFrom line 0 (tokens line) :=
  scannedFrom_scanFrom line rfl (Nat.zero_le _)

namespace ScannedFrom

variable {t : Text} {offset : Nat} {found : List Stretch}

theorem le_start (h : ScannedFrom t offset found) : ∀ token ∈ found, offset ≤ token.start := by
  induction h with
  | done => simp
  | token _ _ ih =>
      intro token htoken
      rcases List.mem_cons.mp htoken with rfl | hlater
      · exact Nat.le_refl _
      · exact (Nat.le_add_right _ _).trans (ih token hlater)
  | skip _ _ _ ih => exact fun token htoken => (Nat.le_succ _).trans (ih token htoken)

theorem tokenAt (h : ScannedFrom t offset found) :
    ∀ token ∈ found, TokenAt t token.start token.length := by
  induction h with
  | done => simp
  | token htoken _ ih => exact List.forall_mem_cons.mpr ⟨htoken, ih⟩
  | skip _ _ _ ih => exact ih

/-- A letter directly before a token is the last character of an earlier one, and no word goes on
where that one ends. -/
theorem exists_ending_at {before after : List Stretch} {token : Stretch} {c : Char}
    (h : ScannedFrom t offset (before ++ token :: after)) (hstart : offset < token.start)
    (hletter : t[token.start - 1]? = some c) (hc : startsIdentifier c = true) :
    ∃ earlier ∈ before, earlier.start + earlier.length = token.start ∧
      StopsWord (t.drop token.start) := by
  generalize hfound : before ++ token :: after = found at h
  induction h generalizing before with
  | done => simp at hfound
  | @token offset length later htoken hlater ih =>
      cases before with
      | nil =>
          obtain ⟨rfl, -⟩ := List.cons.inj hfound
          exact absurd hstart (Nat.lt_irrefl _)
      | cons first before =>
          obtain ⟨rfl, rfl⟩ := List.cons.inj hfound
          have hbound := hlater.le_start token (by simp)
          rcases Nat.eq_or_lt_of_le hbound with hends | hbehind
          · refine ⟨_, List.mem_cons_self, hends, ?_⟩
            obtain ⟨word, rest, hsplit, hlength, -, hstops⟩ := htoken
            rw [← hends, ← List.drop_drop, hsplit, ← hlength, List.drop_left]
            exact hstops
          · obtain ⟨earlier, hearlier, hends⟩ := ih hbehind rfl
            exact ⟨earlier, List.mem_cons_of_mem _ hearlier, hends⟩
  | @skip offset later hwithin hnone hlater ih =>
      have hbound := hlater.le_start token (by simp [← hfound])
      rcases Nat.eq_or_lt_of_le hbound with hends | hbehind
      · -- The letter would start a token.
        rw [← hends, Nat.add_sub_cancel] at hletter
        obtain ⟨length, hlength⟩ := exists_tokenAt hletter hc
        exact absurd hlength (hnone length)
      · exact ih hbehind hfound

end ScannedFrom

end SchemaDesk.Hover

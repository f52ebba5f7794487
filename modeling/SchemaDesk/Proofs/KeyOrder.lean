import SchemaDesk.Proofs.DecimalLayouts
import SchemaDesk.Suggestion.Request

/-!
# The order of keys

Keys are texts, and the number in them is written with three digits at least. Numbers below
a thousand are written with the same number of digits, and the texts are in the order of the
numbers: a list whose keys count up from zero is ranked already. A number of four digits is
different, for its text comes before those of smaller numbers.
-/

namespace SchemaDesk

namespace Decimal

open Json (isDigit)

/-! ## Digits as numbers and as texts -/

theorem length_padded {width : Nat} {t : Text} (ht : t.length ≤ width) :
    (padded width t).length = width := by
  rw [padded, List.length_append, List.length_replicate]
  omega

theorem isDigit_padded {width n : Nat} {c : Char} (hmem : c ∈ padded width (natText n)) :
    isDigit c = true := by
  rcases List.mem_append.mp hmem with hzero | hdigit
  · rw [List.eq_of_mem_replicate hzero]
    rfl
  · exact isDigit_natText hdigit

theorem digit_bounds {c : Char} (hc : isDigit c = true) : 48 ≤ c.toNat ∧ c.toNat ≤ 57 := by
  have hbounds : '0' ≤ c ∧ c ≤ '9' := by simpa [isDigit] using hc
  exact ⟨UInt32.le_iff_toNat_le.mp hbounds.1, UInt32.le_iff_toNat_le.mp hbounds.2⟩

theorem textValue_cons (c : Char) (t : Text) :
    textValue (c :: t) = (c.toNat - 48) * 10 ^ t.length + textValue t := by
  have hdigit : textValue [c] = c.toNat - 48 := by simp [textValue, digitsValue]
  rw [← List.singleton_append, textValue_append, hdigit]

theorem textValue_lt {t : Text} (ht : ∀ c ∈ t, isDigit c = true) :
    textValue t < 10 ^ t.length := by
  induction t with
  | nil => decide
  | cons c t ih =>
      have hrest := ih fun d hd => ht d (List.mem_cons_of_mem _ hd)
      have hc := digit_bounds (ht c List.mem_cons_self)
      have hfirst : (c.toNat - 48) * 10 ^ t.length ≤ 9 * 10 ^ t.length :=
        Nat.mul_le_mul_right _ (by omega)
      rw [textValue_cons, List.length_cons, Nat.pow_succ]
      omega

/-- Of two runs of as many digits the one with the smaller value comes first, whatever
follows them. -/
theorem append_lt_append_of_textValue_lt {t u : Text} (ht : ∀ c ∈ t, isDigit c = true)
    (hu : ∀ c ∈ u, isDigit c = true) (hlength : t.length = u.length)
    (hlt : textValue t < textValue u) (rest more : Text) : t ++ rest < u ++ more := by
  induction t generalizing u with
  | nil =>
      obtain rfl := List.length_eq_zero_iff.mp hlength.symm
      cases hlt
  | cons c t ih =>
      obtain ⟨d, u, rfl⟩ : ∃ d v, u = d :: v := by
        refine List.exists_cons_of_ne_nil ?_
        rintro rfl
        cases hlength
      have hrest : t.length = u.length := Nat.succ_inj.mp hlength
      have hc := digit_bounds (ht c List.mem_cons_self)
      have hd := digit_bounds (hu d List.mem_cons_self)
      have htail : ∀ e ∈ u, isDigit e = true := fun e he => hu e (List.mem_cons_of_mem _ he)
      rw [textValue_cons, textValue_cons, hrest] at hlt
      rw [List.cons_append, List.cons_append, List.cons_lt_cons_iff]
      rcases Nat.lt_trichotomy c.toNat d.toNat with hless | heq | hmore
      · exact .inl (Char.lt_def.mpr (UInt32.lt_iff_toNat_lt.mpr hless))
      · rw [heq] at hlt
        exact .inr ⟨Char.toNat_inj.mp heq,
          ih (fun e he => ht e (List.mem_cons_of_mem _ he)) htail hrest (by omega)⟩
      · -- The larger first digit outweighs everything behind the smaller one.
        have hsmall := textValue_lt htail
        have hfirst : (d.toNat - 48 + 1) * 10 ^ u.length ≤ (c.toNat - 48) * 10 ^ u.length :=
          Nat.mul_le_mul_right _ (by omega)
        rw [Nat.add_mul, Nat.one_mul] at hfirst
        omega

end Decimal

namespace Suggestion

open Decimal

/-! ## Keys -/

theorem toList_key (tier : Tier) (index : Nat) (label : String) :
    (key tier index label).toList =
      natText tier.digit ++ (padded 3 (natText index) ++ '-' :: label.toList) := by
  simp [key]

/-- Below a thousand the keys of a tier are in the order of their numbers. -/
theorem key_lt_key (tier : Tier) {i j : Nat} (hlt : i < j) (hj : j < 1000)
    (label other : String) : key tier i label < key tier j other := by
  have hlength {n : Nat} (hn : n < 1000) : (padded 3 (natText n)).length = 3 :=
    length_padded ((Nat.length_toDigits_le_iff (by decide) (by decide)).mpr hn)
  rw [String.lt_iff, toList_key, toList_key]
  refine List.append_left_lt (append_lt_append_of_textValue_lt ?_ ?_ ?_ ?_ _ _)
  · exact fun c hc => isDigit_padded hc
  · exact fun c hc => isDigit_padded hc
  · rw [hlength (by omega), hlength hj]
  · rw [textValue_padded, textValue_padded]
    exact hlt

/-- The first number of four digits comes before a smaller one. -/
theorem key_thousand_lt (tier : Tier) (label other : String) :
    key tier 1000 label < key tier 101 other := by
  have hlate : padded 3 (natText 1000) = ['1', '0', '0', '0'] := by decide
  have hearly : padded 3 (natText 101) = ['1', '0', '1'] := by decide
  rw [String.lt_iff, toList_key, toList_key, hlate, hearly]
  apply List.append_left_lt
  simp [List.cons_lt_cons_iff]

/-- The keys of a list count its entries, from zero. -/
def Numbered (tier : Tier) (items : List Suggestion) : Prop :=
  ∀ (i : Nat) (h : i < items.length), items[i].sortKey = key tier i items[i].label

theorem numbered_table (tier : Tier) (kind : SuggestionKind)
    (rows : List (String × String × String)) : Numbered tier (table tier kind rows) := by
  intro i hi
  simp [table]

theorem Numbered.placedAt {tier : Tier} {items : List Suggestion} (h : Numbered tier items)
    (range : TextRange) : Numbered tier (items.map (·.placedAt range)) := by
  intro i hi
  rw [List.getElem_map]
  exact h i (by simpa using hi)

/-- Up to a thousand entries are in the order of their keys. -/
theorem Numbered.pairwise_le {tier : Tier} {items : List Suggestion} (h : Numbered tier items)
    (hlength : items.length ≤ 1000) : items.Pairwise fun a b => a.sortKey ≤ b.sortKey := by
  rw [List.pairwise_iff_getElem]
  intro i j hi hj hlt
  rw [h i hi, h j hj]
  exact String.not_lt.mp (String.lt_asymm (key_lt_key tier hlt (by omega) _ _))

end Suggestion

namespace Completion

open Suggestion

/-! ## Ranking -/

theorem key_le_trans (a b c : Suggestion) : decide (a.sortKey ≤ b.sortKey) →
    decide (b.sortKey ≤ c.sortKey) → decide (a.sortKey ≤ c.sortKey) := by
  intro hab hbc
  exact decide_eq_true (String.le_trans (of_decide_eq_true hab) (of_decide_eq_true hbc))

theorem key_le_total (a b : Suggestion) :
    decide (a.sortKey ≤ b.sortKey) || decide (b.sortKey ≤ a.sortKey) := by
  simpa using String.le_total a.sortKey b.sortKey

theorem insertRanked_append {s : Suggestion} {before : List Suggestion}
    (hbefore : ∀ other ∈ before, ¬ s.sortKey ≤ other.sortKey) (rest : List Suggestion) :
    insertRanked s (before ++ rest) = before ++ insertRanked s rest := by
  induction before with
  | nil => rfl
  | cons first before ih =>
      rw [List.cons_append, insertRanked, if_neg (hbefore first List.mem_cons_self),
        ih fun other hother => hbefore other (List.mem_cons_of_mem _ hother), List.cons_append]

/-- Suggestions are ranked by a stable sort. -/
theorem ranked_eq_mergeSort (items : List Suggestion) :
    ranked items = items.mergeSort fun a b => decide (a.sortKey ≤ b.sortKey) := by
  induction items with
  | nil => simp [ranked]
  | cons s rest ih =>
      -- A merge sort puts the first element right before all that are not smaller.
      obtain ⟨before, after, hsorted, hrest, hbefore⟩ :=
        List.mergeSort_cons key_le_trans key_le_total s rest
      have hpairwise := List.pairwise_mergeSort key_le_trans key_le_total (s :: rest)
      rw [hsorted, List.pairwise_append] at hpairwise
      have hafter := (List.pairwise_cons.mp hpairwise.2.1).1
      rw [hsorted, ranked, List.foldr_cons, ← ranked, ih, hrest,
        insertRanked_append (by simpa using hbefore)]
      cases after with
      | nil => rfl
      | cons next after =>
          rw [insertRanked, if_pos (of_decide_eq_true (hafter next List.mem_cons_self))]

theorem ranked_perm (items : List Suggestion) : (ranked items).Perm items := by
  rw [ranked_eq_mergeSort]
  exact List.mergeSort_perm _ _

theorem pairwise_ranked (items : List Suggestion) :
    (ranked items).Pairwise fun a b => a.sortKey ≤ b.sortKey := by
  rw [ranked_eq_mergeSort]
  exact (List.pairwise_mergeSort key_le_trans key_le_total items).imp of_decide_eq_true

/-- A list in the order of its keys is left as it is. -/
theorem ranked_of_pairwise {items : List Suggestion}
    (hitems : items.Pairwise fun a b => a.sortKey ≤ b.sortKey) : ranked items = items := by
  rw [ranked_eq_mergeSort]
  exact List.mergeSort_of_pairwise (hitems.imp fun h => decide_eq_true h)

/-- In a ranked list an entry with a smaller key stands before one with a larger key. -/
theorem sublist_ranked {items : List Suggestion} {first second : Suggestion}
    (hfirst : first ∈ items) (hsecond : second ∈ items)
    (hlt : first.sortKey < second.sortKey) : [first, second].Sublist (ranked items) := by
  obtain ⟨before, after, hsplit⟩ :=
    List.append_of_mem ((ranked_perm items).mem_iff.mpr hfirst)
  have hmem := (ranked_perm items).mem_iff.mpr hsecond
  have hpairwise := pairwise_ranked items
  rw [hsplit] at hmem hpairwise ⊢
  rw [List.pairwise_append] at hpairwise
  have hnot : ¬ second.sortKey ≤ first.sortKey := String.not_le.mpr hlt
  rcases List.mem_append.mp hmem with hbefore | hafter
  · exact absurd (hpairwise.2.2 second hbefore first List.mem_cons_self) hnot
  · rcases List.mem_cons.mp hafter with rfl | hafter
    · exact absurd (String.le_refl _) hnot
    · refine List.Sublist.trans ?_ (List.sublist_append_right before _)
      exact (List.singleton_sublist.mpr hafter).cons_cons first

end Completion

end SchemaDesk

import SchemaDesk.Proofs.DecimalLayouts
import SchemaDesk.Proofs.DocumentForms
import SchemaDesk.Proofs.StringTexts

/-!
# The texts of documents

A document that was written is read again, with its fields in the order of their names,
as long as it is nested no deeper than is read and holds no number with too many digits.
What is written is printable, ASCII, and cut into lines by line feeds alone.
-/

namespace SchemaDesk.Json

open Decimal

/-! ## Layout -/

/-- A field on a line of its own. -/
def fieldText (depth : Nat) (field : CodeText × Json) : Text :=
  stringText field.1 ++ [':', ' '] ++ indented depth field.2

theorem indentedItems_eq (depth : Nat) (items : List Json) :
    indentedItems depth items = items.map (indented depth) := by
  induction items with
  | nil => rfl
  | cons item rest ih => rw [indentedItems, ih, List.map_cons]

theorem indentedFields_eq (depth : Nat) (fields : Fields) :
    indentedFields depth fields = fields.map fun field => (field.1, fieldText depth field) := by
  induction fields with
  | nil => rfl
  | cons field rest ih => rw [indentedFields, ih, List.map_cons, fieldText]

theorem indented_arr (depth : Nat) (items : List Json) :
    indented depth (.arr items) = bracketed '[' ']' depth (items.map (indented (depth + 1))) := by
  rw [indented, indentedItems_eq]

theorem indented_obj (depth : Nat) (fields : Fields) :
    indented depth (.obj fields) =
      bracketed '{' '}' depth ((sortByName fields).map (fieldText (depth + 1))) := by
  rw [indented, indentedFields_eq, sortByName_map, List.map_map]
  rfl

theorem indented_of_scalar (depth : Nat) {value : Json} (hscalar : Scalar value) :
    indented depth value = scalarText value := by
  cases hscalar <;> rw [indented] <;> nofun

/-- Parts on lines of their own, the bracket that closes them, and what follows it. -/
def inside (closing : Char) (depth : Nat) (parts : List Text) (rest : Text) : Text :=
  List.intercalate (',' :: lineStart (depth + 1)) parts ++ (lineStart depth ++ closing :: rest)

theorem bracketed_append (opening closing : Char) (depth : Nat) {parts : List Text}
    (hparts : parts ≠ []) (rest : Text) :
    bracketed opening closing depth parts ++ rest =
      opening :: (lineStart (depth + 1) ++ inside closing depth parts rest) := by
  simp [bracketed, hparts, inside]

theorem inside_singleton (closing : Char) (depth : Nat) (part rest : Text) :
    inside closing depth [part] rest = part ++ (lineStart depth ++ closing :: rest) := by
  simp [inside, List.intercalate]

theorem inside_cons_cons (closing : Char) (depth : Nat) (part next : Text) (parts : List Text)
    (rest : Text) :
    inside closing depth (part :: next :: parts) rest =
      part ++ (',' :: (lineStart (depth + 1) ++ inside closing depth (next :: parts) rest)) := by
  simp [inside, List.intercalate, List.intersperse]

/-! ## Gaps -/

theorem skipGap_of_head {c : Char} (hc : isGap c = false) (t : Text) :
    skipGap (c :: t) = c :: t := by
  rw [skipGap, List.dropWhile_cons_of_neg (by simp [hc])]

theorem isGap_of_isDigit {c : Char} (hc : isDigit c = true) : isGap c = false := by
  simp only [isGap, Bool.or_eq_false_iff, beq_eq_false_iff_ne]
  refine ⟨⟨⟨?_, ?_⟩, ?_⟩, ?_⟩ <;> rintro rfl <;> cases hc

theorem skipGap_lineStart (depth : Nat) (t : Text) :
    skipGap (lineStart depth ++ t) = skipGap t := by
  have hgap : ∀ c ∈ lineStart depth, isGap c = true := by
    intro c hmem
    rcases List.mem_cons.mp hmem with rfl | hmem
    · decide
    · rw [List.eq_of_mem_replicate hmem]
      decide
  rw [skipGap, List.dropWhile_append_of_pos hgap, skipGap]

theorem head?_inside (closing : Char) (depth : Nat) {part : Text} {c : Char}
    (hhead : part.head? = some c) (parts : List Text) (rest : Text) :
    (inside closing depth (part :: parts) rest).head? = some c := by
  obtain ⟨t, rfl⟩ := List.head?_eq_some_iff.mp hhead
  cases parts with
  | nil => rw [inside_singleton, List.cons_append, List.head?_cons]
  | cons next parts => rw [inside_cons_cons, List.cons_append, List.head?_cons]

theorem skipGap_inside (closing : Char) (indent depth : Nat) {part : Text} {c : Char}
    (hhead : part.head? = some c) (hc : isGap c = false) (parts : List Text) (rest : Text) :
    skipGap (lineStart indent ++ inside closing depth (part :: parts) rest) =
      inside closing depth (part :: parts) rest := by
  obtain ⟨t, heq⟩ := List.head?_eq_some_iff.mp (head?_inside closing depth hhead parts rest)
  rw [skipGap_lineStart, heq, skipGap_of_head hc]

theorem skipGap_closing (depth : Nat) {closing : Char} (hclosing : isGap closing = false)
    (rest : Text) : skipGap (lineStart depth ++ closing :: rest) = closing :: rest := by
  rw [skipGap_lineStart, skipGap_of_head hclosing]

theorem ends_lineStart (depth : Nat) (rest : Text) : Ends (lineStart depth ++ rest) :=
  ends_feed _

/-! ## Values without parts -/

theorem readConstant?_of_mem {word : Text} {value : Json} (hmem : (word, value) ∈ constants)
    (rest : Text) : readConstant? (word ++ rest) = some (value, rest) := by
  simp only [constants, List.mem_cons, List.not_mem_nil, or_false, Prod.mk.injEq] at hmem
  rcases hmem with
    ⟨rfl, rfl⟩ | ⟨rfl, rfl⟩ | ⟨rfl, rfl⟩ | ⟨rfl, rfl⟩ | ⟨rfl, rfl⟩ | ⟨rfl, rfl⟩ <;> rfl

theorem readConstant?_signed (negative : Bool) {c : Char} (hc : isDigit c = true) (t : Text) :
    readConstant? (signText negative ++ c :: t) = none := by
  have hletters : 'n' ≠ c ∧ 't' ≠ c ∧ 'f' ≠ c ∧ 'N' ≠ c ∧ 'I' ≠ c ∧ '-' ≠ c := by
    refine ⟨?_, ?_, ?_, ?_, ?_, ?_⟩ <;> rintro rfl <;> cases hc
  cases negative <;> simp [readConstant?, constants, signText, hletters]

/-- A value that is neither a string nor in brackets is a fixed word or a number. -/
theorem readValue_of_head {fuel levels : Nat} {c : Char} {t : Text}
    (hc : c ≠ '"' ∧ c ≠ '{' ∧ c ≠ '[') :
    readValue (fuel + 1) levels (c :: t) =
      match readConstant? (c :: t) with
      | some found => .ok found
      | none => orMalformed (readNumber? (c :: t)) := by
  obtain ⟨hquote, hbrace, hbracket⟩ := hc
  unfold readValue
  exact (if_neg (by simpa using hquote)).trans <| (if_neg (by simpa using hbrace)).trans <|
    if_neg (by simpa using hbracket)

theorem readValue_constant (fuel levels : Nat) {word : Text} {value : Json}
    (hmem : (word, value) ∈ constants) (rest : Text) :
    readValue (fuel + 1) levels (word ++ rest) = .ok (value, rest) := by
  have hread := readConstant?_of_mem hmem rest
  obtain ⟨c, t, rfl, hc⟩ : ∃ c t, word = c :: t ∧ c ≠ '"' ∧ c ≠ '{' ∧ c ≠ '[' := by
    simp only [constants, List.mem_cons, List.not_mem_nil, or_false, Prod.mk.injEq] at hmem
    rcases hmem with ⟨rfl, -⟩ | ⟨rfl, -⟩ | ⟨rfl, -⟩ | ⟨rfl, -⟩ | ⟨rfl, -⟩ | ⟨rfl, -⟩ <;>
      exact ⟨_, _, rfl, by decide⟩
  rw [List.cons_append] at hread ⊢
  rw [readValue_of_head hc, hread]

theorem readValue_number (fuel levels : Nat) (negative : Bool) {c : Char} {t rest : Text}
    {value : Json} (hc : isDigit c = true)
    (hread : readNumber? (signText negative ++ c :: t) = some (value, rest)) :
    readValue (fuel + 1) levels (signText negative ++ c :: t) = .ok (value, rest) := by
  have hconstant := readConstant?_signed negative hc t
  obtain ⟨d, u, hhead, hd⟩ : ∃ d u, signText negative ++ c :: t = d :: u ∧
      d ≠ '"' ∧ d ≠ '{' ∧ d ≠ '[' := by
    cases negative with
    | false => exact ⟨c, t, rfl, by refine ⟨?_, ?_, ?_⟩ <;> rintro rfl <;> cases hc⟩
    | true => exact ⟨'-', c :: t, rfl, by decide⟩
  rw [hhead] at hread hconstant ⊢
  rw [readValue_of_head hd, hconstant, hread]
  rfl

/-- The text starts with a digit after a sign, and is read as the number that it is. -/
structure NumberText (value : Json) (t : Text) : Prop where
  head : ∃ negative c u, t = signText negative ++ c :: u ∧ isDigit c = true
  read : ∀ rest, Ends rest → readNumber? (t ++ rest) = some (value, rest)

theorem numberText_int {i : ℤ} (hlength : (natText i.natAbs).length ≤ digitLimit) :
    NumberText (.int i) (intText i) := by
  refine ⟨?_, fun rest hrest => readNumber?_intText i hlength hrest⟩
  obtain ⟨c, t, heq⟩ := List.exists_cons_of_ne_nil (natText_ne_nil i.natAbs)
  refine ⟨decide (i < 0), c, t, ?_, isDigit_natText (heq ▸ List.mem_cons_self)⟩
  by_cases hneg : i < 0 <;> simp [intText, signText, hneg, heq]

theorem numberText_finite (negative : Bool) {mantissa : Nat} {power : ℤ}
    (form : Canonical mantissa power) :
    NumberText (.float (.finite negative mantissa power form))
      (Style.document.text (.finite negative mantissa power form)) := by
  refine ⟨?_, fun rest hrest => readNumber?_text_finite negative form hrest⟩
  obtain ⟨t, htext, -, -⟩ := exists_text_finite negative form
  obtain ⟨c, u, hwhole⟩ := List.exists_cons_of_ne_nil t.whole_ne_nil
  refine ⟨negative, c, u ++ t.fractionText ++ t.exponentText, ?_, ?_⟩
  · rw [htext, DecimalText.text, hwhole]
    rfl
  · exact t.isDigit_head (by rw [hwhole, List.head?_cons])

/-- What is written for a value without parts: a fixed word, a number, or a string. -/
theorem scalarText_cases {value : Json} (hscalar : Scalar value) {levels : Nat}
    (hwritten : obstacle? levels value = none) :
    (scalarText value, value) ∈ constants ∨ NumberText value (scalarText value) ∨
      ∃ s, value = .str s := by
  cases hscalar with
  | null => exact Or.inl (by simp [constants, scalarText])
  | bool b =>
      left
      cases b <;> simp [constants, scalarText]
  | int i =>
      have hlength : ¬digitLimit < (natText i.natAbs).length := by
        intro hlong
        rw [obstacle?, if_pos hlong] at hwritten
        cases hwritten
      exact Or.inr (Or.inl (numberText_int (Nat.le_of_not_lt hlength)))
  | float x =>
      cases x with
      | nan => exact Or.inl (by simp [constants, scalarText, Style.text, Style.document])
      | infinity negative =>
          left
          cases negative <;> simp [constants, scalarText, Style.text, Style.document]
      | finite negative mantissa power form =>
          exact Or.inr (Or.inl (numberText_finite negative form))
  | str s => exact Or.inr (Or.inr ⟨s, rfl⟩)

/-! ## Reading what was written -/

/-- The value is read again from its text at a depth, whatever stands behind it. -/
def ReadsBack (depth levels : Nat) (value : Json) : Prop :=
  ∀ fuel rest, Ends rest → 2 * (indented depth value ++ rest).length ≤ fuel →
    readValue fuel levels (indented depth value ++ rest) = .ok (value.sorted, rest)

theorem scalarText_ne_nil {value : Json} (hscalar : Scalar value) {levels : Nat}
    (hwritten : obstacle? levels value = none) : scalarText value ≠ [] := by
  rcases scalarText_cases hscalar hwritten with hmem | hnumber | ⟨s, rfl⟩
  · have hwords : ∀ found ∈ constants, found.1 ≠ [] := by decide
    exact hwords _ hmem
  · obtain ⟨negative, c, t, heq, -⟩ := hnumber.head
    simp [heq]
  · simp [scalarText, stringText]

theorem readsBack_scalar (depth levels : Nat) {value : Json} (hscalar : Scalar value)
    (hdocument : IsDocument value) (hwritten : obstacle? levels value = none) :
    ReadsBack depth levels value := by
  intro fuel rest hrest hfuel
  rw [indented_of_scalar depth hscalar] at hfuel ⊢
  rw [sorted_of_scalar hscalar]
  have hnonempty := List.length_pos_iff.mpr (scalarText_ne_nil hscalar hwritten)
  rw [List.length_append] at hfuel
  obtain ⟨fuel, rfl⟩ : ∃ n, fuel = n + 1 := ⟨fuel - 1, by omega⟩
  rcases scalarText_cases hscalar hwritten with hmem | hnumber | ⟨s, rfl⟩
  · exact readValue_constant fuel levels hmem rest
  · obtain ⟨negative, c, t, heq, hc⟩ := hnumber.head
    have hread := hnumber.read rest hrest
    rw [heq, List.append_assoc, List.cons_append] at hread ⊢
    exact readValue_number fuel levels negative hc hread
  · have hlength := length_lt_length_stringText s
    have hfuel : s.length < fuel := by
      rw [scalarText] at hfuel
      omega
    have hread := readString?_flatMap (isDocument_str_iff.mp hdocument) rest hfuel
    rw [scalarText, stringText_append]
    unfold readValue
    rw [if_pos (by decide), hread]
    rfl

theorem obstacleInItems?_eq_none_iff {levels : Nat} {items : List Json} :
    obstacleInItems? levels items = none ↔ ∀ item ∈ items, obstacle? levels item = none := by
  induction items with
  | nil => simp [obstacleInItems?]
  | cons item rest ih => simp [obstacleInItems?, ih]

theorem obstaclesInFields_eq (levels : Nat) (fields : Fields) :
    obstaclesInFields levels fields =
      fields.map fun field => (field.1, obstacle? levels field.2) := by
  induction fields with
  | nil => rfl
  | cons field rest ih => rw [obstaclesInFields, ih, List.map_cons]

/-- What is written in brackets is written one level deeper, part by part. -/
theorem obstacle?_arr {levels : Nat} {items : List Json}
    (hwritten : obstacle? levels (.arr items) = none) :
    ∃ inner, levels = inner + 1 ∧ ∀ item ∈ items, obstacle? inner item = none := by
  cases levels with
  | zero => cases hwritten
  | succ levels => exact ⟨levels, rfl, obstacleInItems?_eq_none_iff.mp hwritten⟩

theorem obstacle?_obj {levels : Nat} {fields : Fields}
    (hwritten : obstacle? levels (.obj fields) = none) :
    ∃ inner, levels = inner + 1 ∧ ∀ field ∈ fields, obstacle? inner field.2 = none := by
  cases levels with
  | zero => cases hwritten
  | succ levels =>
      refine ⟨levels, rfl, ?_⟩
      intro field hmem
      rw [obstacle?, obstaclesInFields_eq, List.findSome?_eq_none_iff] at hwritten
      exact hwritten (field.1, obstacle? levels field.2)
        ((sortByName_perm _).mem_iff.mpr (List.mem_map_of_mem hmem))

/-- A value starts with something, and not with white space or a closing bracket. -/
theorem head_indented (depth : Nat) {levels : Nat} {value : Json}
    (hwritten : obstacle? levels value = none) :
    ∃ c t, indented depth value = c :: t ∧ isGap c = false ∧ c ≠ ']' := by
  have hscalar (hscalar : Scalar value) :
      ∃ c t, indented depth value = c :: t ∧ isGap c = false ∧ c ≠ ']' := by
    rw [indented_of_scalar depth hscalar]
    rcases scalarText_cases hscalar hwritten with hmem | hnumber | ⟨s, rfl⟩
    · have hwords : ∀ found ∈ constants,
          ∃ c t, found.1 = c :: t ∧ isGap c = false ∧ c ≠ ']' := by
        simp only [constants, List.forall_mem_cons]
        refine ⟨?_, ?_, ?_, ?_, ?_, ?_, List.forall_mem_nil _⟩ <;> exact ⟨_, _, rfl, by decide⟩
      exact hwords _ hmem
    · obtain ⟨negative, c, t, heq, hc⟩ := hnumber.head
      cases negative with
      | true => exact ⟨'-', c :: t, heq, by decide⟩
      | false =>
          refine ⟨c, t, heq, isGap_of_isDigit hc, ?_⟩
          rintro rfl
          cases hc
    · exact ⟨'"', _, rfl, by decide⟩
  cases value with
  | arr items =>
      rw [indented_arr, bracketed]
      split <;> exact ⟨'[', _, rfl, by decide⟩
  | obj fields =>
      rw [indented_obj, bracketed]
      split <;> exact ⟨'{', _, rfl, by decide⟩
  | null => exact hscalar .null
  | bool b => exact hscalar (.bool b)
  | int i => exact hscalar (.int i)
  | float x => exact hscalar (.float x)
  | str s => exact hscalar (.str s)

theorem readItems_last {fuel levels : Nat} {t behind rest : Text} {item : Json}
    (hread : readValue fuel levels t = .ok (item, behind)) (hgap : skipGap behind = ']' :: rest) :
    readItems (fuel + 1) levels t = .ok ([item], rest) := by
  rw [readItems, hread]
  simp only [bind, Except.bind, hgap]

theorem readItems_next {fuel levels : Nat} {t behind next rest : Text} {item : Json}
    {items : List Json} (hread : readValue fuel levels t = .ok (item, behind))
    (hgap : skipGap behind = ',' :: next)
    (hnext : readItems fuel levels (skipGap next) = .ok (items, rest)) :
    readItems (fuel + 1) levels t = .ok (item :: items, rest) := by
  rw [readItems, hread]
  simp only [bind, Except.bind, hgap, hnext]

/-- The items of an array are read one after the other, up to the bracket. -/
theorem readItems_inside {depth levels : Nat} {items : List Json} (hne : items ≠ [])
    (hback : ∀ item ∈ items, ReadsBack (depth + 1) levels item)
    (hwritten : ∀ item ∈ items, obstacle? levels item = none) {fuel : Nat} {rest : Text}
    (hfuel : 2 * (inside ']' depth (items.map (indented (depth + 1))) rest).length < fuel) :
    readItems fuel levels (inside ']' depth (items.map (indented (depth + 1))) rest) =
      .ok (items.map sorted, rest) := by
  induction items generalizing fuel with
  | nil => exact absurd rfl hne
  | cons item others ih =>
      obtain ⟨fuel, rfl⟩ : ∃ n, fuel = n + 1 := ⟨fuel - 1, by omega⟩
      have hitem := hback item List.mem_cons_self
      cases others with
      | nil =>
          rw [List.map_singleton, inside_singleton] at hfuel ⊢
          exact readItems_last (hitem fuel _ (ends_lineStart depth (']' :: rest)) (by omega))
            (skipGap_closing depth (by decide) rest)
      | cons next others =>
          obtain ⟨c, t, hhead, hc, -⟩ := head_indented (depth + 1)
            (hwritten next (List.mem_cons_of_mem _ List.mem_cons_self))
          have hgap := skipGap_inside ']' (depth + 1) depth (congrArg List.head? hhead) hc
            (others.map (indented (depth + 1))) rest
          have hothers := @ih (List.cons_ne_nil _ _)
            (fun item hmem => hback item (List.mem_cons_of_mem _ hmem))
            (fun item hmem => hwritten item (List.mem_cons_of_mem _ hmem)) fuel
          rw [List.map_cons, List.map_cons, inside_cons_cons] at hfuel ⊢
          rw [List.map_cons] at hothers
          generalize inside ']' depth (indented (depth + 1) next :: others.map _) rest = behind
            at hgap hfuel hothers ⊢
          have hread := hitem fuel _ (ends_comma (lineStart (depth + 1) ++ behind)) (by omega)
          simp only [List.length_append, List.length_cons] at hfuel
          refine readItems_next hread (skipGap_of_head (by decide) _) ?_
          rw [hgap]
          exact hothers (by omega)

theorem fieldText_append (depth : Nat) (field : CodeText × Json) (rest : Text) :
    fieldText depth field ++ rest =
      '"' :: (field.1.flatMap escape ++
        '"' :: (':' :: ' ' :: (indented depth field.2 ++ rest))) := by
  simp [fieldText, stringText_append]

/-- A field is read, and then what stands behind it decides. -/
theorem readFields_field {depth levels fuel : Nat} (before : Fields) {field : CodeText × Json}
    {behind : Text} (hjoined : field.1.Joined) (hback : ReadsBack depth levels field.2)
    (hwritten : obstacle? levels field.2 = none) (hbehind : Ends behind)
    (hfuel : 2 * (fieldText depth field ++ behind).length ≤ fuel) :
    readFields (fuel + 1) levels before (fieldText depth field ++ behind) =
      match skipGap behind with
      | '}' :: rest => .ok (before.set field.1 field.2.sorted, rest)
      | ',' :: rest => readFields fuel levels (before.set field.1 field.2.sorted) (skipGap rest)
      | _ => .error .malformed := by
  have hlength := length_lt_length_stringText field.1
  simp only [fieldText, List.length_append] at hfuel
  have hname : field.1.length < fuel := by omega
  have hname := readString?_flatMap hjoined
    (':' :: ' ' :: (indented depth field.2 ++ behind)) hname
  have hcolon : skipGap (':' :: ' ' :: (indented depth field.2 ++ behind)) =
      ':' :: ' ' :: (indented depth field.2 ++ behind) := skipGap_of_head (by decide) _
  have hvalue : skipGap (' ' :: (indented depth field.2 ++ behind)) =
      indented depth field.2 ++ behind := by
    obtain ⟨c, t, hhead, hc, -⟩ := head_indented depth hwritten
    rw [hhead, List.cons_append, skipGap, List.dropWhile_cons_of_pos (by decide)]
    exact skipGap_of_head hc _
  have hread := hback fuel behind hbehind (by rw [List.length_append]; omega)
  rw [fieldText_append, readFields.eq_def]
  simp only [hname, orMalformed, bind, Except.bind, hcolon, hvalue]
  rewrite [hread]
  rfl

/-- The fields of an object are read one after the other, up to the brace. -/
theorem readFields_inside {depth levels : Nat} {fields : Fields} (hne : fields ≠ [])
    (hjoined : ∀ field ∈ fields, field.1.Joined)
    (hback : ∀ field ∈ fields, ReadsBack (depth + 1) levels field.2)
    (hwritten : ∀ field ∈ fields, obstacle? levels field.2 = none) {fuel : Nat} {rest : Text}
    (before : Fields) (hnames : (Keyed.keys (before ++ fields)).Nodup)
    (hfuel : 2 * (inside '}' depth (fields.map (fieldText (depth + 1))) rest).length < fuel) :
    readFields fuel levels before (inside '}' depth (fields.map (fieldText (depth + 1))) rest) =
      .ok (before ++ fields.map fun field => (field.1, sorted field.2), rest) := by
  induction fields generalizing fuel before with
  | nil => exact absurd rfl hne
  | cons field others ih =>
      obtain ⟨fuel, rfl⟩ : ∃ n, fuel = n + 1 := ⟨fuel - 1, by omega⟩
      have hname := hjoined field List.mem_cons_self
      have hfield := hback field List.mem_cons_self
      have hfree := hwritten field List.mem_cons_self
      have hset : before.set field.1 field.2.sorted = before ++ [(field.1, field.2.sorted)] := by
        refine Keyed.set_of_not_mem ?_ _
        intro hmem
        rw [Keyed.keys, List.map_append, List.nodup_append] at hnames
        exact hnames.2.2 _ hmem _ List.mem_cons_self rfl
      cases others with
      | nil =>
          rw [List.map_singleton, inside_singleton] at hfuel ⊢
          rw [readFields_field before hname hfield hfree (ends_lineStart depth ('}' :: rest))
            (by omega), skipGap_closing depth (by decide) rest, hset]
          rfl
      | cons next others =>
          have hhead : (fieldText (depth + 1) next).head? = some '"' := rfl
          have hgap := skipGap_inside '}' (depth + 1) depth hhead (by decide)
            (others.map (fieldText (depth + 1))) rest
          have hothers := @ih (List.cons_ne_nil _ _)
            (fun field hmem => hjoined field (List.mem_cons_of_mem _ hmem))
            (fun field hmem => hback field (List.mem_cons_of_mem _ hmem))
            (fun field hmem => hwritten field (List.mem_cons_of_mem _ hmem)) fuel
            (before ++ [(field.1, field.2.sorted)]) (by simpa [Keyed.keys] using hnames)
          rw [List.map_cons, List.map_cons, inside_cons_cons] at hfuel ⊢
          rw [List.map_cons] at hothers
          generalize inside '}' depth (fieldText (depth + 1) next :: others.map _) rest = behind
            at hgap hfuel hothers ⊢
          rw [readFields_field before hname hfield hfree
            (ends_comma (lineStart (depth + 1) ++ behind)) (by omega),
            skipGap_of_head (by decide)]
          simp only [List.length_append, List.length_cons] at hfuel
          change readFields fuel levels (before.set field.1 field.2.sorted)
            (skipGap (lineStart (depth + 1) ++ behind)) = _
          rw [hgap, hset, hothers (by omega)]
          simp

theorem readValue_bracket {fuel levels : Nat} {t body rest : Text} {items : List Json}
    (hgap : skipGap t = body) (hbody : body.head? ≠ some ']')
    (hitems : readItems fuel levels body = .ok (items, rest)) :
    readValue (fuel + 1) (levels + 1) ('[' :: t) = .ok (.arr items, rest) := by
  unfold readValue
  rw [if_neg (by decide), if_neg (by decide), if_pos (by decide), hgap]
  dsimp only
  split
  next => exact absurd rfl hbody
  next =>
    rw [hitems]
    rfl

theorem readValue_brace {fuel levels : Nat} {t body rest : Text} {fields : Fields}
    (hgap : skipGap t = body) (hbody : body.head? ≠ some '}')
    (hfields : readFields fuel levels [] body = .ok (fields, rest)) :
    readValue (fuel + 1) (levels + 1) ('{' :: t) = .ok (.obj fields, rest) := by
  unfold readValue
  rw [if_neg (by decide), if_pos (by decide), hgap]
  dsimp only
  split
  next => exact absurd rfl hbody
  next =>
    rw [hfields]
    rfl

theorem readsBack_arr {depth levels : Nat} {items : List Json}
    (hback : ∀ item ∈ items, ReadsBack (depth + 1) levels item)
    (hwritten : ∀ item ∈ items, obstacle? levels item = none) :
    ReadsBack depth (levels + 1) (.arr items) := by
  intro fuel rest hrest hfuel
  rw [indented_arr] at hfuel ⊢
  rw [sorted_arr]
  cases items with
  | nil =>
      obtain ⟨fuel, rfl⟩ : ∃ n, fuel = n + 1 := ⟨fuel - 1, by simp [bracketed] at hfuel; omega⟩
      rfl
  | cons first others =>
      have hne : (first :: others).map (indented (depth + 1)) ≠ [] := by simp
      rw [bracketed_append _ _ _ hne] at hfuel ⊢
      rw [List.length_cons, List.length_append] at hfuel
      obtain ⟨fuel, rfl⟩ : ∃ n, fuel = n + 1 := ⟨fuel - 1, by omega⟩
      have hitems := readItems_inside (List.cons_ne_nil _ _) hback hwritten
        (show 2 * (inside ']' depth ((first :: others).map (indented (depth + 1))) rest).length
          < fuel by omega)
      obtain ⟨c, t, hhead, hc, hbracket⟩ := head_indented (depth + 1)
        (hwritten first List.mem_cons_self)
      have hhead : (indented (depth + 1) first).head? = some c := congrArg List.head? hhead
      refine readValue_bracket (skipGap_inside ']' (depth + 1) depth hhead hc _ rest) ?_ hitems
      rw [head?_inside ']' depth hhead]
      simpa using hbracket

theorem readsBack_obj {depth levels : Nat} {fields : Fields}
    (hback : ∀ field ∈ fields, ReadsBack (depth + 1) levels field.2)
    (hwritten : ∀ field ∈ fields, obstacle? levels field.2 = none)
    (hnames : (Keyed.keys fields).Nodup) (hjoined : ∀ field ∈ fields, field.1.Joined) :
    ReadsBack depth (levels + 1) (.obj fields) := by
  intro fuel rest hrest hfuel
  rw [indented_obj] at hfuel ⊢
  rw [sorted_obj]
  have hmem (field : CodeText × Json) : field ∈ sortByName fields → field ∈ fields :=
    (sortByName_perm fields).mem_iff.mp
  have hback := fun field hfield => hback field (hmem field hfield)
  have hwritten := fun field hfield => hwritten field (hmem field hfield)
  have hjoined := fun field hfield => hjoined field (hmem field hfield)
  have hnames := nodup_keys_sortByName hnames
  generalize sortByName fields = fields at hback hwritten hjoined hnames hfuel ⊢
  cases fields with
  | nil =>
      obtain ⟨fuel, rfl⟩ : ∃ n, fuel = n + 1 := ⟨fuel - 1, by simp [bracketed] at hfuel; omega⟩
      rfl
  | cons first others =>
      have hne : (first :: others).map (fieldText (depth + 1)) ≠ [] := by simp
      rw [bracketed_append _ _ _ hne] at hfuel ⊢
      rw [List.length_cons, List.length_append] at hfuel
      obtain ⟨fuel, rfl⟩ : ∃ n, fuel = n + 1 := ⟨fuel - 1, by omega⟩
      have hfields := readFields_inside (List.cons_ne_nil _ _) hjoined hback hwritten [] hnames
        (show 2 * (inside '}' depth ((first :: others).map (fieldText (depth + 1))) rest).length
          < fuel by omega)
      have hhead : (fieldText (depth + 1) first).head? = some '"' := rfl
      refine readValue_brace
        (skipGap_inside '}' (depth + 1) depth hhead (by decide) _ rest) ?_ hfields
      rw [head?_inside '}' depth hhead]
      decide

/-- Every value that is written is read again. -/
theorem readsBack {value : Json} (hdocument : IsDocument value) (depth : Nat) {levels : Nat}
    (hwritten : obstacle? levels value = none) : ReadsBack depth levels value := by
  induction value using induction generalizing depth levels with
  | scalar value hscalar => exact readsBack_scalar depth levels hscalar hdocument hwritten
  | arr items ih =>
      obtain ⟨inner, rfl, hfree⟩ := obstacle?_arr hwritten
      have hitems := isDocument_arr_iff.mp hdocument
      exact readsBack_arr
        (fun item hmem => ih item hmem (hitems item hmem) (depth + 1) (hfree item hmem)) hfree
  | obj fields ih =>
      obtain ⟨inner, rfl, hfree⟩ := obstacle?_obj hwritten
      obtain ⟨hnames, hjoined, hvalues⟩ := isDocument_obj_iff.mp hdocument
      exact readsBack_obj
        (fun field hmem => ih field hmem (hvalues field hmem) (depth + 1) (hfree field hmem))
        hfree hnames hjoined

end SchemaDesk.Json

import SchemaDesk.Proofs.BlockComments

/-!
# Inside strings

Whether a place lies in a string is told in two ways: by the quotes that stand before it, and by
the strings that the rule for them recognises. In a line each of whose backslashes belongs to a
string that is recognised the two agree: a string goes from behind its opening quote up to its
closing one, and to the end of the line where that is missing.
-/

namespace SchemaDesk.Highlight

open Text

/-! ## Strings -/

/-- What may stand behind the quote that opens a string: characters other than quotes and
backslashes, and backslashes with the character behind them, which is no line feed. -/
inductive IsStringBody : Text → Prop
  | nil : IsStringBody []
  | plain {c : Char} {rest : Text} :
      c ≠ '"' → c ≠ '\\' → IsStringBody rest → IsStringBody (c :: rest)
  | escaped {c : Char} {rest : Text} :
      c ≠ '\n' → IsStringBody rest → IsStringBody ('\\' :: c :: rest)

/-- A string with both of its quotes. -/
def IsClosedString (t : Text) : Prop :=
  ∃ body, IsStringBody body ∧ t = '"' :: (body ++ ['"'])

/-- A string is recognised up to and with its closing quote, or up to the end of the text or a
backslash that it cannot go on with. -/
theorem exists_isStringBody (t : Text) :
    ∃ body rest, IsStringBody body ∧
      ((t = body ++ '"' :: rest ∧ stringLength t = body.length + 1) ∨
        (t = body ++ rest ∧ stringLength t = body.length ∧ ∀ c ∈ rest.head?, c = '\\')) := by
  fun_induction stringLength t with
  | case1 => exact ⟨[], [], .nil, .inr ⟨rfl, rfl, by simp⟩⟩
  | case2 rest => exact ⟨[], rest, .nil, .inl ⟨rfl, rfl⟩⟩
  | case3 => exact ⟨[], ['\\'], .nil, .inr ⟨rfl, rfl, by simp⟩⟩
  | case4 c rest hfeed => exact ⟨[], '\\' :: c :: rest, .nil, .inr ⟨rfl, rfl, by simp⟩⟩
  | case5 c rest hfeed ih =>
      obtain ⟨body, after, hbody, ⟨rfl, hlength⟩ | ⟨rfl, hlength, hafter⟩⟩ := ih
      · refine ⟨_, after, .escaped (by simpa using hfeed) hbody, .inl ⟨rfl, ?_⟩⟩
        rw [hlength, List.length_cons, List.length_cons]
        omega
      · refine ⟨_, after, .escaped (by simpa using hfeed) hbody, .inr ⟨rfl, ?_, hafter⟩⟩
        rw [hlength, List.length_cons, List.length_cons]
        omega
  | case6 c rest hquote hslash ih =>
      obtain ⟨body, after, hbody, ⟨rfl, hlength⟩ | ⟨rfl, hlength, hafter⟩⟩ := ih
      · refine ⟨_, after, .plain hquote (by simpa using hslash) hbody, .inl ⟨rfl, ?_⟩⟩
        rw [hlength, List.length_cons]
        omega
      · refine ⟨_, after, .plain hquote (by simpa using hslash) hbody, .inr ⟨rfl, ?_, hafter⟩⟩
        rw [hlength, List.length_cons]
        omega

/-! ## Reading quotes -/

/-- Read a character: whether a string is open then, and whether the next character is taken
along by a backslash. -/
def quoteStep (state : Bool × Bool) (c : Char) : Bool × Bool :=
  let (isOpen, escaped) := state
  if escaped then (isOpen, false)
  else if c == '\\' then (isOpen, true)
  else if c == '"' then (!isOpen, false)
  else (isOpen, false)

theorem endsInsideString_eq (t : Text) :
    endsInsideString t = (t.foldl quoteStep (false, false)).1 :=
  rfl

/-- What may stand in a string opens and closes none. -/
theorem foldl_quoteStep_body {body : Text} (hbody : IsStringBody body) (isOpen : Bool) :
    body.foldl quoteStep (isOpen, false) = (isOpen, false) := by
  induction hbody with
  | nil => rfl
  | plain hquote hslash _ ih =>
      rw [List.foldl_cons]
      simpa [quoteStep, hquote, hslash] using ih
  | escaped _ _ ih => exact ih

theorem fst_foldl_quoteStep_take {body : Text} (hbody : IsStringBody body) (isOpen : Bool)
    (count : Nat) : ((body.take count).foldl quoteStep (isOpen, false)).1 = isOpen := by
  induction hbody generalizing count with
  | nil => rw [List.take_nil, List.foldl_nil]
  | plain hquote hslash _ ih =>
      cases count with
      | zero => rfl
      | succ count =>
          rw [List.take_succ_cons, List.foldl_cons]
          simpa [quoteStep, hquote, hslash] using ih count
  | escaped _ _ ih =>
      match count with
      | 0 | 1 => rfl
      | count + 2 => exact ih count

/-- A string that was not closed is none that was. -/
theorem not_isClosedString {body : Text} (hbody : IsStringBody body) :
    ¬IsClosedString ('"' :: body) := by
  rintro ⟨inner, hinner, hsame⟩
  have hread := foldl_quoteStep_body hbody false
  rw [(List.cons.inj hsame).2, List.foldl_append, foldl_quoteStep_body hinner] at hread
  cases hread

/-! ## The strings of a line -/

/-- The strings of a line from an offset on: each place where no string has begun is passed, and
each string is taken as a whole. -/
inductive StringsFrom (t : Text) : Nat → List Stretch → Prop
  | done {offset : Nat} : t.length ≤ offset → StringsFrom t offset []
  | other {offset : Nat} {c : Char} {rest : Text} {found : List Stretch} :
      t.drop offset = c :: rest → c ≠ '"' → StringsFrom t (offset + 1) found →
        StringsFrom t offset found
  | closed {offset : Nat} {body rest : Text} {found : List Stretch} :
      IsStringBody body → t.drop offset = '"' :: (body ++ '"' :: rest) →
        StringsFrom t (offset + (body.length + 2)) found →
          StringsFrom t offset (⟨offset, body.length + 2⟩ :: found)
  | unclosed {offset : Nat} {body rest : Text} {found : List Stretch} :
      IsStringBody body → t.drop offset = '"' :: (body ++ rest) →
        (∀ c ∈ rest.head?, c = '\\') → StringsFrom t (offset + (body.length + 1)) found →
          StringsFrom t offset (⟨offset, body.length + 1⟩ :: found)

theorem stringRule_eq_none {before : Option Char} {c : Char} {rest : Text} (hquote : c ≠ '"') :
    stringRule before (c :: rest) = none := by
  unfold stringRule
  split
  next heq => exact absurd (List.cons.inj heq).1 hquote
  next => rfl

theorem stringsFrom_scanFrom {t : Text} (left : Text) {offset skip : Nat} {before : Option Char}
    (hleft : t.drop offset = left) (hskip : skip ≤ left.length) :
    StringsFrom t (offset + skip) (scanFrom stringRule offset skip before left) := by
  -- A string is taken as a whole and then skipped, so the induction is for any skip.
  induction left generalizing offset skip before with
  | nil =>
      obtain rfl := Nat.le_zero.mp hskip
      exact .done (List.drop_eq_nil_iff.mp hleft)
  | cons c rest ih =>
      have hrest : t.drop (offset + 1) = rest := by
        rw [← List.drop_drop, hleft, List.drop_one, List.tail_cons]
      cases skip with
      | succ skip =>
          have hlater : StringsFrom t (offset + 1 + skip)
              (scanFrom stringRule (offset + 1) skip (some c) rest) :=
            ih hrest (Nat.le_of_succ_le_succ hskip)
          rwa [Nat.add_right_comm] at hlater
      | zero =>
          by_cases hquote : c = '"'
          · subst hquote
            have hscan : scanFrom stringRule offset 0 before ('"' :: rest) =
                ⟨offset, stringLength rest + 1⟩ ::
                  scanFrom stringRule (offset + 1) (stringLength rest) (some '"') rest := by
              rw [scanFrom, stringRule, Nat.add_comm 1]
            have hlater : StringsFrom t (offset + 1 + stringLength rest)
                (scanFrom stringRule (offset + 1) (stringLength rest) (some '"') rest) :=
              ih hrest (stringLength_le rest)
            rw [hscan]
            obtain ⟨body, after, hbody, ⟨rfl, hlength⟩ | ⟨rfl, hlength, hafter⟩⟩ :=
              exists_isStringBody rest
            · rw [hlength] at hlater ⊢
              refine .closed hbody hleft ?_
              rwa [Nat.add_assoc, Nat.add_comm 1] at hlater
            · rw [hlength] at hlater ⊢
              refine .unclosed hbody hleft hafter ?_
              rwa [Nat.add_assoc, Nat.add_comm 1] at hlater
          · have hscan : scanFrom stringRule offset 0 before (c :: rest) =
                scanFrom stringRule (offset + 1) 0 (some c) rest := by
              rw [scanFrom, stringRule_eq_none hquote]
            rw [hscan]
            exact .other hleft hquote (ih hrest (Nat.zero_le _))

/-- The strings of a line are what the scan finds. -/
theorem stringsFrom_scan (t : Text) : StringsFrom t 0 (scan stringRule t) :=
  stringsFrom_scanFrom t rfl (Nat.zero_le _)

namespace StringsFrom

variable {t : Text} {offset : Nat} {found : List Stretch}

theorem quote_at_start (h : StringsFrom t offset found) :
    ∀ stretch ∈ found, offset ≤ stretch.start ∧ t[stretch.start]? = some '"' := by
  have hquote {offset : Nat} {rest : Text} (hline : t.drop offset = '"' :: rest) :
      t[offset]? = some '"' := by
    rw [← List.head?_drop, hline, List.head?_cons]
  induction h with
  | done => simp
  | other _ _ _ ih =>
      intro stretch hstretch
      obtain ⟨hstart, hfirst⟩ := ih stretch hstretch
      exact ⟨by omega, hfirst⟩
  | closed _ hline _ ih | unclosed _ hline _ _ ih =>
      intro stretch hstretch
      rcases List.mem_cons.mp hstretch with rfl | hlater
      · exact ⟨Nat.le_refl _, hquote hline⟩
      · obtain ⟨hstart, hfirst⟩ := ih stretch hlater
        exact ⟨by omega, hfirst⟩

/-- A character that is no quote, and in front of which no string has begun, belongs to no
string. -/
theorem not_covered (h : StringsFrom t offset found) {c : Char}
    (hplace : t[offset]? = some c) (hquote : c ≠ '"') : ¬Covered found offset := by
  rintro ⟨stretch, hstretch, hstart, -⟩
  obtain ⟨hoffset, hfirst⟩ := h.quote_at_start stretch hstretch
  obtain rfl := Nat.le_antisymm hstart hoffset
  rw [hplace, Option.some.injEq] at hfirst
  exact hquote hfirst

end StringsFrom

/-! ## Main result -/

/-- A string that begins before a place and goes on there: it ends behind the place, or has no
closing quote and so goes on to the end of the line. -/
def GoesOnAt (t : Text) (place : Nat) (string : Stretch) : Prop :=
  string.start < place ∧
    (place < string.start + string.length ∨ ¬IsClosedString (slice t string))

/-- Every backslash of a line from an offset on belongs to one of some strings. -/
def SlashesIn (t : Text) (offset : Nat) (strings : List Stretch) : Prop :=
  ∀ place, offset ≤ place → t[place]? = some '\\' → Covered strings place

theorem SlashesIn.tail {t : Text} {offset length : Nat} {later : List Stretch}
    (hslashes : SlashesIn t offset (⟨offset, length⟩ :: later)) :
    SlashesIn t (offset + length) later := by
  intro place hplace hslash
  rcases covered_cons.mp (hslashes place (by omega) hslash) with hhere | hlater
  · dsimp only at hhere
    omega
  · exact hlater

/-- The quotes that stand before an offset open no string, or close it again. -/
def EvenAt (t : Text) (offset : Nat) : Prop :=
  (t.take offset).foldl quoteStep (false, false) = (false, false)

section String

variable {t body rest : Text} {offset : Nat}

theorem EvenAt.behind_other {c : Char} (heven : EvenAt t offset)
    (hline : t.drop offset = c :: rest) (hquote : c ≠ '"') (hslash : c ≠ '\\') :
    EvenAt t (offset + 1) := by
  rw [EvenAt, List.take_add, hline, List.take_succ_cons, List.take_zero, List.foldl_append, heven]
  simp [quoteStep, hquote, hslash]

theorem EvenAt.inside_string (heven : EvenAt t offset) (hbody : IsStringBody body)
    (hline : t.drop offset = '"' :: (body ++ rest)) {place : Nat} (hstart : offset < place)
    (hstop : place ≤ offset + (body.length + 1)) :
    endsInsideString (t.take place) = true := by
  obtain ⟨count, rfl⟩ : ∃ count, place = offset + (count + 1) := ⟨place - (offset + 1), by omega⟩
  have hcount : count ≤ body.length := by omega
  rw [List.take_add, hline, List.take_succ_cons, List.take_append_of_le_length hcount,
    endsInsideString_eq, List.foldl_append, heven]
  exact fst_foldl_quoteStep_take hbody true count

theorem take_closed (body rest : Text) :
    ('"' :: (body ++ '"' :: rest)).take (body.length + 2) = '"' :: (body ++ ['"']) := by
  rw [List.take_succ_cons, List.take_length_add_append, List.take_succ_cons, List.take_zero]

theorem EvenAt.behind_string (heven : EvenAt t offset) (hbody : IsStringBody body)
    (hline : t.drop offset = '"' :: (body ++ '"' :: rest)) :
    EvenAt t (offset + (body.length + 2)) := by
  have hread : body.foldl quoteStep (quoteStep (false, false) '"') = (true, false) :=
    foldl_quoteStep_body hbody true
  rw [EvenAt, List.take_add, hline, take_closed, List.foldl_append, heven, List.foldl_cons,
    List.foldl_append, hread]
  rfl

theorem slice_closed (hline : t.drop offset = '"' :: (body ++ '"' :: rest)) :
    slice t ⟨offset, body.length + 2⟩ = '"' :: (body ++ ['"']) := by
  rw [slice, hline]
  exact take_closed body rest

theorem slice_unclosed (hline : t.drop offset = '"' :: (body ++ rest)) :
    slice t ⟨offset, body.length + 1⟩ = '"' :: body := by
  simp [slice, hline]

end String

namespace StringsFrom

variable {t : Text} {offset : Nat} {found : List Stretch}

/-- Where every backslash belongs to a string, only the end of the line breaks a string off. -/
theorem end_of_unclosed {body rest : Text} (h : StringsFrom t (offset + (body.length + 1)) found)
    (hline : t.drop offset = '"' :: (body ++ rest)) (hrest : ∀ c ∈ rest.head?, c = '\\')
    (hslashes : SlashesIn t offset (⟨offset, body.length + 1⟩ :: found)) :
    offset + (body.length + 1) = t.length := by
  have hdrop : t.drop (offset + (body.length + 1)) = rest := by
    rw [← List.drop_drop, hline, List.drop_succ_cons, List.drop_left]
  have hlength := congrArg List.length hline
  cases rest with
  | nil =>
      simp only [List.length_drop, List.length_cons, List.append_nil] at hlength
      omega
  | cons c rest =>
      obtain rfl := hrest c rfl
      have hplace : t[offset + (body.length + 1)]? = some '\\' := by
        rw [← List.head?_drop, hdrop, List.head?_cons]
      exact absurd (hslashes.tail _ (Nat.le_refl _) hplace)
        (h.not_covered hplace (by decide))

theorem reaches_end_of_unclosed (h : StringsFrom t offset found)
    (hslashes : SlashesIn t offset found) :
    ∀ string ∈ found, ¬IsClosedString (slice t string) →
      string.start + string.length = t.length := by
  induction h with
  | done => simp
  | other _ _ _ ih => exact ih fun place hplace => hslashes place (by omega)
  | closed hbody hline _ ih =>
      intro string hstring hopen
      rcases List.mem_cons.mp hstring with rfl | hlater
      · exact absurd ⟨_, hbody, slice_closed hline⟩ hopen
      · exact ih hslashes.tail string hlater hopen
  | unclosed hbody hline hrest hafter ih =>
      intro string hstring hopen
      rcases List.mem_cons.mp hstring with rfl | hlater
      · exact hafter.end_of_unclosed hline hrest hslashes
      · exact ih hslashes.tail string hlater hopen

theorem not_goesOnAt (h : StringsFrom t offset found) :
    ¬∃ string ∈ found, GoesOnAt t offset string := by
  rintro ⟨string, hstring, hstart, -⟩
  exact absurd hstart (Nat.not_lt_of_le (h.quote_at_start string hstring).1)

/-- From a place on where no string is open, a string is open exactly where one goes on. -/
theorem endsInsideString_iff (h : StringsFrom t offset found) (heven : EvenAt t offset)
    (hslashes : SlashesIn t offset found) {place : Nat} (hplace : offset ≤ place)
    (hend : place ≤ t.length) :
    endsInsideString (t.take place) = true ↔ ∃ string ∈ found, GoesOnAt t place string := by
  have hhere (heven : EvenAt t place) : ¬endsInsideString (t.take place) = true := by
    rw [endsInsideString_eq, heven]
    exact Bool.false_ne_true
  induction h with
  | @done offset hlength =>
      obtain rfl : offset = place := by omega
      exact iff_of_false (hhere heven) (by simp)
  | @other offset c rest found hline hquote hfound ih =>
      rcases Nat.eq_or_lt_of_le hplace with rfl | hbehind
      · refine iff_of_false (hhere heven) ?_
        exact (StringsFrom.other hline hquote hfound).not_goesOnAt
      · refine ih (heven.behind_other hline hquote ?_) (fun place hle => hslashes place ?_) hbehind
        · rintro rfl
          have hslash : t[offset]? = some '\\' := by
            rw [← List.head?_drop, hline, List.head?_cons]
          exact (StringsFrom.other hline hquote hfound).not_covered hslash (by decide)
            (hslashes offset (Nat.le_refl _) hslash)
        · exact Nat.le_of_succ_le hle
  | @closed offset body rest found hbody hline hfound ih =>
      rcases Nat.eq_or_lt_of_le hplace with rfl | hstart
      · exact iff_of_false (hhere heven) (StringsFrom.closed hbody hline hfound).not_goesOnAt
      · by_cases hinside : place < offset + (body.length + 2)
        · refine iff_of_true (heven.inside_string hbody hline hstart (by omega)) ?_
          exact ⟨_, List.mem_cons_self, hstart, .inl hinside⟩
        · have hended : ¬GoesOnAt t place ⟨offset, body.length + 2⟩ := by
            rintro ⟨-, hbefore | hopen⟩
            · exact hinside hbefore
            · exact hopen ⟨body, hbody, slice_closed hline⟩
          refine (ih (heven.behind_string hbody hline) hslashes.tail
            (Nat.le_of_not_lt hinside)).trans ?_
          simp [hended]
  | @unclosed offset body rest found hbody hline hrest hafter ih =>
      rcases Nat.eq_or_lt_of_le hplace with rfl | hstart
      · refine iff_of_false (hhere heven) ?_
        exact (StringsFrom.unclosed hbody hline hrest hafter).not_goesOnAt
      · have hlast := hafter.end_of_unclosed hline hrest hslashes
        refine iff_of_true (heven.inside_string hbody hline hstart (by omega)) ?_
        refine ⟨_, List.mem_cons_self, hstart, .inr ?_⟩
        rw [slice_unclosed hline]
        exact not_isClosedString hbody

end StringsFrom

/-- In a line each of whose backslashes belongs to a string that is recognised, the quotes before
a place leave a string open exactly if a string that is recognised goes on there. One without a
closing quote goes on to the end of the line. -/
theorem inside_string_iff_recognised {t : Text}
    (hslashes : ∀ place, t[place]? = some '\\' → Covered (scan stringRule t) place) :
    (∀ place ≤ t.length, endsInsideString (t.take place) = true ↔
      ∃ string ∈ scan stringRule t, string.start < place ∧
        (place < string.start + string.length ∨
          ¬IsClosedString (slice t string) ∧
            string.start + string.length = t.length)) ∧
      ∀ string ∈ scan stringRule t, ¬IsClosedString (slice t string) →
        string.start + string.length = t.length := by
  have hscan := stringsFrom_scan t
  have hreaches := hscan.reaches_end_of_unclosed fun place _ => hslashes place
  refine ⟨fun place hplace => ?_, hreaches⟩
  rw [hscan.endsInsideString_iff rfl (fun place _ => hslashes place) (Nat.zero_le _) hplace]
  refine exists_congr fun string => and_congr_right fun hstring => and_congr_right fun _ => ?_
  exact or_congr_right (iff_self_and.mpr (hreaches string hstring))

/-- A line with a quote inside a string, and with a string that is left open. -/
def escapedLine : Text :=
  "a = \"b\\\"c\" \"d".toList

theorem inside_string_behind_escape :
    (∀ place, escapedLine[place]? = some '\\' → Covered (scan stringRule escapedLine) place) ∧
      (∃ string ∈ scan stringRule escapedLine, string.start < 8 ∧
        (8 < string.start + string.length ∨
          ¬IsClosedString (slice escapedLine string) ∧
            string.start + string.length = escapedLine.length)) ∧
      ∀ string ∈ scan stringRule escapedLine, ¬IsClosedString (slice escapedLine string) →
        string.start + string.length = escapedLine.length := by
  have hslashes : ∀ place, escapedLine[place]? = some '\\' →
      Covered (scan stringRule escapedLine) place := by
    intro place hplace
    have hall : ∀ place < escapedLine.length, escapedLine[place]? = some '\\' →
        Covered (scan stringRule escapedLine) place := by
      unfold Covered
      decide
    exact hall place (List.getElem?_eq_some_iff.mp hplace).1 hplace
  obtain ⟨hagree, hreaches⟩ := inside_string_iff_recognised hslashes
  exact ⟨hslashes, (hagree 8 (by decide)).mp (by decide), hreaches⟩

end SchemaDesk.Highlight

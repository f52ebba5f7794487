import SchemaDesk.Block.Scope

/-!
# Documents made of blocks

A document in which every block is closed before the next one is opened: lines that
belong to no block, and blocks that each start with the line of their keyword and end
where the braces are closed. In such a document the blocks around a line, which are
found by four counts that know nothing of each other, are those of its structure: the
one block that it stands in the body of, if it stands in one.
-/

namespace SchemaDesk

namespace Block

/-- No keyword starts the line. -/
def Plain (line : Text) : Prop :=
  ∀ kind : BlockKind, opens kind.keyword.toList line = false

instance (line : Text) : Decidable (Plain line) :=
  decidable_of_iff (∀ kind ∈ BlockKind.all, opens kind.keyword.toList line = false)
    ⟨fun h kind => h kind (by cases kind <;> decide), fun h kind _ => h kind⟩

/-- The depth after some lines of a body, which starts one deep. -/
def depthAfter (lines : List Text) : Int :=
  lines.foldl (fun depth line => depth + balance line) 1

theorem depthAfter_concat (lines : List Text) (line : Text) :
    depthAfter (lines ++ [line]) = depthAfter lines + balance line := by
  rw [depthAfter, List.foldl_append, List.foldl_cons, List.foldl_nil, depthAfter]

/-- A line starts with one keyword at most. -/
theorem opens_unique {line : Text} {kind other : BlockKind}
    (hkind : opens kind.keyword.toList line = true)
    (hother : opens other.keyword.toList line = true) : kind = other := by
  obtain ⟨rest, hrest⟩ := List.isPrefixOf_iff_prefix.mp hkind
  obtain ⟨more, hmore⟩ := List.isPrefixOf_iff_prefix.mp hother
  have hhead := congrArg List.head? (hrest.trans hmore.symm)
  -- The keywords differ in their first characters already.
  cases kind <;> cases other <;> first | rfl | simp [BlockKind.keyword] at hhead

/-- A block as it is written. -/
structure Written where
  kind : BlockKind
  header : Text
  body : List Text
  closing : Text
  opens_header : opens kind.keyword.toList header = true
  plain_body : ∀ line ∈ body, Plain line
  /-- No line of the body closes the block. -/
  stays_open : ∀ count < body.length, 0 < depthAfter (body.take (count + 1))
  plain_closing : Plain closing
  closes : depthAfter body + balance closing ≤ 0

/-- A part of a document: a line outside every block, or a block. -/
inductive Passage where
  | gap (line : Text) (plain : Plain line)
  | block (written : Written)

/-- The lines of a passage, each with the kind of the block in whose body it stands. -/
def Passage.lines : Passage → List (Text × Option BlockKind)
  | .gap line _ => [(line, none)]
  | .block written =>
    (written.header, none) :: written.body.map (·, some written.kind) ++
      [(written.closing, none)]

/-- The lines of a document. -/
def linesOf (document : List Passage) : List (Text × Option BlockKind) :=
  document.flatMap Passage.lines

/-! ## One count -/

theorem contains_keyword (kind : BlockKind) (before : List Text) (line : Text) :
    contains kind.keyword.toList before line =
      match before.foldl (track kind.keyword.toList) none with
      | none => false
      | some depth => decide (0 < depth + balance line) := by
  cases kind <;> rfl

theorem track_of_plain {line : Text} (hplain : Plain line) (kind : BlockKind)
    (depth : Option Int) :
    track kind.keyword.toList depth line =
      match depth with
      | none => none
      | some d => if d + balance line ≤ 0 then none else some (d + balance line) := by
  simp only [track, hplain kind]
  rfl

/-- Nothing but its own keyword starts a count. -/
theorem foldl_track_none {keyword : Text} {lines : List Text}
    (hlines : ∀ line ∈ lines, opens keyword line = false) :
    lines.foldl (track keyword) none = none := by
  induction lines with
  | nil => rfl
  | cons line rest ih =>
      rw [List.foldl_cons, track, hlines line List.mem_cons_self]
      exact ih fun other hmem => hlines other (List.mem_cons_of_mem _ hmem)

namespace Written

variable (written : Written)

theorem not_opens_header {kind : BlockKind} (hkind : kind ≠ written.kind) :
    opens kind.keyword.toList written.header = false := by
  cases hopens : opens kind.keyword.toList written.header with
  | false => rfl
  | true => exact absurd (opens_unique hopens written.opens_header) hkind

/-- In the body the count is the depth. -/
theorem foldl_track_take {count : Nat} (hcount : count ≤ written.body.length) :
    (written.header :: written.body.take count).foldl (track written.kind.keyword.toList) none =
      some (depthAfter (written.body.take count)) := by
  induction count with
  | zero => simp [track, written.opens_header, depthAfter]
  | succ count ih =>
      have hlt : count < written.body.length := hcount
      have hplain := written.plain_body _ (List.getElem_mem hlt)
      have hopen := written.stays_open count hlt
      rw [List.take_succ_eq_append_getElem hlt] at hopen ⊢
      rw [← List.cons_append, List.foldl_append, ih (Nat.le_of_lt hlt), List.foldl_cons,
        List.foldl_nil, track_of_plain hplain]
      rw [depthAfter_concat] at hopen ⊢
      exact if_neg (by omega)

/-- A count of another kind is not started by a block. -/
theorem foldl_track_take_of_ne {kind : BlockKind} (hkind : kind ≠ written.kind) (count : Nat) :
    (written.header :: written.body.take count).foldl (track kind.keyword.toList) none = none := by
  refine foldl_track_none fun line hmem => ?_
  rcases List.mem_cons.mp hmem with rfl | hmem
  · exact written.not_opens_header hkind
  · exact written.plain_body line (List.mem_of_mem_take hmem) kind

/-- Behind a block no count goes on. -/
theorem foldl_track_lines (kind : BlockKind) :
    (written.header :: written.body ++ [written.closing]).foldl
      (track kind.keyword.toList) none = none := by
  have hbody := written.body.take_length
  rw [List.foldl_append, List.foldl_cons, List.foldl_nil, track_of_plain written.plain_closing]
  by_cases hkind : kind = written.kind
  · subst hkind
    have hopen := written.foldl_track_take (Nat.le_refl _)
    rw [hbody] at hopen
    rw [hopen]
    exact if_pos written.closes
  · have hnone := written.foldl_track_take_of_ne hkind written.body.length
    rw [hbody] at hnone
    rw [hnone]

theorem contains_body {part more : List Text} {line : Text}
    (hbody : written.body = part ++ line :: more) (kind : BlockKind) :
    contains kind.keyword.toList (written.header :: part) line =
      decide (kind = written.kind) := by
  have hpart : written.body.take part.length = part := by simp [hbody]
  have hcount : part.length < written.body.length := by simp [hbody]
  rw [contains_keyword]
  by_cases hkind : kind = written.kind
  · subst hkind
    have htrack := written.foldl_track_take (Nat.le_of_lt hcount)
    have hopen := written.stays_open part.length hcount
    rw [List.take_succ_eq_append_getElem hcount, hpart, depthAfter_concat] at hopen
    rw [hpart] at htrack
    rw [htrack]
    simpa [hbody] using hopen
  · have htrack := written.foldl_track_take_of_ne hkind part.length
    rw [hpart] at htrack
    rw [htrack]
    simp [hkind]

theorem contains_closing (kind : BlockKind) :
    contains kind.keyword.toList (written.header :: written.body) written.closing = false := by
  have hbody := written.body.take_length
  rw [contains_keyword]
  by_cases hkind : kind = written.kind
  · subst hkind
    have htrack := written.foldl_track_take (Nat.le_refl _)
    have hcloses := written.closes
    rw [hbody] at htrack
    rw [htrack]
    simpa using hcloses
  · have htrack := written.foldl_track_take_of_ne hkind written.body.length
    rw [hbody] at htrack
    rw [htrack]

end Written

/-! ## The counts of a document -/

theorem foldl_track_passage (kind : BlockKind) (passage : Passage) :
    (passage.lines.map (·.1)).foldl (track kind.keyword.toList) none = none := by
  cases passage with
  | gap line plain => exact foldl_track_none (by simpa [Passage.lines] using plain kind)
  | block written =>
      have hlines := written.foldl_track_lines kind
      simpa [Passage.lines, Function.comp_def] using hlines

/-- A line of a passage is its first one, a line in the body of a block, or the line that
closes a block. -/
theorem Passage.split_cases {passage : Passage} {before after : List (Text × Option BlockKind)}
    {line : Text} {owner : Option BlockKind}
    (hsplit : passage.lines = before ++ (line, owner) :: after) :
    (before = [] ∧ owner = none) ∨
      (∃ (written : Written) (part more : List Text), before.map (·.1) = written.header :: part ∧
        written.body = part ++ line :: more ∧ owner = some written.kind) ∨
      (∃ written : Written, before.map (·.1) = written.header :: written.body ∧
        line = written.closing ∧ owner = none) := by
  cases passage with
  | gap other plain =>
      cases before with
      | nil =>
          cases hsplit
          exact .inl ⟨rfl, rfl⟩
      | cons first before => simp [Passage.lines] at hsplit
  | block written =>
      rw [Passage.lines, List.cons_append] at hsplit
      cases before with
      | nil =>
          cases (List.cons.inj hsplit).1
          exact .inl ⟨rfl, rfl⟩
      | cons first before =>
          rw [List.cons_append] at hsplit
          obtain ⟨rfl, htail⟩ := List.cons.inj hsplit
          right
          -- The line is the last one, which closes the block, or stands in the body.
          rcases List.eq_nil_or_concat after with rfl | ⟨more, last, rfl⟩
          · obtain ⟨rfl, hline⟩ := List.append_inj' htail rfl
            cases (List.cons.inj hline).1
            exact .inr ⟨written, by simp [Function.comp_def], rfl, rfl⟩
          · rw [List.concat_eq_append, ← List.cons_append, ← List.append_assoc] at htail
            obtain ⟨hbody, -⟩ := List.append_inj' htail rfl
            obtain ⟨part, others, hparts, rfl, hothers⟩ := List.map_eq_append_iff.mp hbody
            obtain ⟨own, rest, rfl, hown, -⟩ := List.map_eq_cons_iff.mp hothers
            cases hown
            exact .inl ⟨written, part, rest, by simp [Function.comp_def], hparts, rfl⟩

/-- Inside one passage the counts agree with its structure. -/
theorem contains_in_passage {passage : Passage} {before after : List (Text × Option BlockKind)}
    {line : Text} {owner : Option BlockKind}
    (hsplit : passage.lines = before ++ (line, owner) :: after) (kind : BlockKind) :
    contains kind.keyword.toList (before.map (·.1)) line = decide (owner = some kind) := by
  rcases Passage.split_cases hsplit with
    ⟨rfl, rfl⟩ | ⟨written, part, more, hbefore, hbody, rfl⟩ | ⟨written, hbefore, rfl, rfl⟩
  · simp [contains_keyword]
  · rw [hbefore, written.contains_body hbody]
    simp [eq_comm]
  · rw [hbefore, written.contains_closing]
    simp

/-- Closed blocks leave no count behind. -/
theorem foldl_track_linesOf (document : List Passage) (kind : BlockKind) :
    ((linesOf document).map (·.1)).foldl (track kind.keyword.toList) none = none := by
  induction document with
  | nil => rfl
  | cons passage rest ih =>
      rw [linesOf, List.flatMap_cons, List.map_append, List.foldl_append, foldl_track_passage]
      exact ih

/-- A line of a document stands in one of its passages, behind the lines of those before. -/
theorem exists_passage {document : List Passage} {before after : List (Text × Option BlockKind)}
    {line : Text} {owner : Option BlockKind}
    (hsplit : linesOf document = before ++ (line, owner) :: after) :
    ∃ (earlier : List Passage) (passage : Passage) (front rear : List (Text × Option BlockKind)),
      before = linesOf earlier ++ front ∧ passage.lines = front ++ (line, owner) :: rear := by
  induction document generalizing before with
  | nil => simp [linesOf] at hsplit
  | cons passage rest ih =>
      have hcons (earlier : List Passage) (front : List (Text × Option BlockKind)) :
          passage.lines ++ (linesOf earlier ++ front) = linesOf (passage :: earlier) ++ front := by
        simp [linesOf]
      rw [linesOf, List.flatMap_cons] at hsplit
      rcases List.append_eq_append_iff.mp hsplit with
        ⟨others, rfl, hrest⟩ | ⟨others, hpassage, hrest⟩
      · obtain ⟨earlier, own, front, rear, rfl, hown⟩ := ih hrest
        exact ⟨passage :: earlier, own, front, rear, hcons _ _, hown⟩
      · cases others with
        | nil =>
            obtain ⟨earlier, own, front, rear, hnil, hown⟩ :=
              ih (show linesOf rest = [] ++ (line, owner) :: after from hrest.symm)
            refine ⟨passage :: earlier, own, front, rear, ?_, hown⟩
            rw [← hcons, ← hnil, hpassage, List.append_nil, List.append_nil]
        | cons entry others =>
            obtain ⟨rfl, -⟩ := List.cons.inj hrest
            exact ⟨[], passage, before, others, rfl, hpassage⟩

/-- Of a document every count sees the passage that the line stands in, and no more. -/
theorem contains_in_document {document : List Passage}
    {before after : List (Text × Option BlockKind)} {line : Text} {owner : Option BlockKind}
    (hsplit : linesOf document = before ++ (line, owner) :: after) (kind : BlockKind) :
    contains kind.keyword.toList (before.map (·.1)) line = decide (owner = some kind) := by
  obtain ⟨earlier, passage, front, rear, rfl, hpassage⟩ := exists_passage hsplit
  rw [List.map_append, contains_keyword, List.foldl_append, foldl_track_linesOf,
    ← contains_keyword]
  exact contains_in_passage hpassage kind

end Block

namespace BlockScope

open Block

theorem isInside_around (before : List Text) (line : Text) (kind : BlockKind) :
    (around before line).isInside kind = contains kind.keyword.toList before line := by
  cases kind <;> rfl

/-- Around a line of a document made of blocks is the block in whose body it stands, and
no other; around every other line is none. -/
theorem active_around_line (document : List Passage)
    {before after : List (Text × Option BlockKind)} {line : Text} {owner : Option BlockKind}
    (hsplit : linesOf document = before ++ (line, owner) :: after) :
    (around (before.map (·.1)) line).active = owner.toList := by
  have hinside (kind : BlockKind) :
      (around (before.map (·.1)) line).isInside kind = decide (owner = some kind) :=
    (isInside_around _ line kind).trans (contains_in_document hsplit kind)
  rw [active, funext hinside]
  cases owner with
  | none => rfl
  | some kind => cases kind <;> rfl

/-- A document with braces in a gap and in the body of a block. -/
def exampleDocument : List Passage :=
  [.gap "// a \x7d and a \x7b".toList (by decide),
    .block
      { kind := .enum, header := "enum Role \x7b".toList, body := ["  ADMIN".toList]
        closing := "\x7d".toList, opens_header := by decide, plain_body := by decide
        stays_open := by decide, plain_closing := by decide, closes := by decide },
    .block
      { kind := .model, header := "  model User \x7b".toList
        body :=
          ["  tags Json @default(\x7b\x7d)".toList, "  more \x7b".toList, "  \x7d id Int".toList]
        closing := "\x7d \x7d".toList, opens_header := by decide, plain_body := by decide
        stays_open := by decide, plain_closing := by decide, closes := by decide }]

theorem active_around_nested_braces :
    linesOf exampleDocument =
        (linesOf exampleDocument).take 6 ++
          ("  more \x7b".toList, some .model) :: (linesOf exampleDocument).drop 7 ∧
      (around (((linesOf exampleDocument).take 6).map (·.1)) "  more \x7b".toList).active =
        [.model] := by
  have hsplit : linesOf exampleDocument =
      (linesOf exampleDocument).take 6 ++
        ("  more \x7b".toList, some .model) :: (linesOf exampleDocument).drop 7 := rfl
  exact ⟨hsplit, active_around_line exampleDocument hsplit⟩

end BlockScope

end SchemaDesk

import Mathlib.Data.List.Forall2
import SchemaDesk.Proofs.StringTexts

/-!
# Forms of documents

Documents are compared up to the order of fields: two objects are the same if the same
names lead to the same values. Sorting the fields by name gives the same document again,
with the same depth. What is read from a text has no name twice in one object, and no pair
of surrogates apart in a string or in a name.
-/

namespace SchemaDesk.Json

/-! ## Induction -/

/-- A value without parts. -/
inductive Scalar : Json → Prop
  | null : Scalar .null
  | bool (b : Bool) : Scalar (.bool b)
  | int (i : Int) : Scalar (.int i)
  | float (x : Decimal.Binary64) : Scalar (.float x)
  | str (s : CodeText) : Scalar (.str s)

/-- What holds of values without parts, and of every value if it holds of its parts, holds
of all values. -/
@[elab_as_elim]
theorem induction {motive : Json → Prop} (scalar : ∀ value, Scalar value → motive value)
    (arr : ∀ items : List Json, (∀ item ∈ items, motive item) → motive (.arr items))
    (obj : ∀ fields : Fields, (∀ field ∈ fields, motive field.2) → motive (.obj fields)) :
    ∀ value, motive value
  | .null => scalar _ .null
  | .bool b => scalar _ (.bool b)
  | .int i => scalar _ (.int i)
  | .float x => scalar _ (.float x)
  | .str s => scalar _ (.str s)
  | .arr items => arr items fun item _ => induction scalar arr obj item
  | .obj fields => obj fields fun field _ => induction scalar arr obj field.2
  termination_by value => sizeOf value
  decreasing_by
    · rename_i hmem
      have := List.sizeOf_lt_of_mem hmem
      simp only [Json.arr.sizeOf_spec]
      omega
    · rename_i hmem
      have := List.sizeOf_lt_of_mem hmem
      rcases field with ⟨name, value⟩
      simp only [Json.obj.sizeOf_spec, Prod.mk.sizeOf_spec] at this ⊢
      omega

/-! ## Distinct names -/

/-- No object in the value has two fields of one name. -/
inductive Distinct : Json → Prop
  | scalar {value : Json} (hscalar : Scalar value) : Distinct value
  | arr {items : List Json} (hitems : ∀ item ∈ items, Distinct item) : Distinct (.arr items)
  | obj {fields : Fields} (hnames : (Keyed.keys fields).Nodup)
      (hvalues : ∀ field ∈ fields, Distinct field.2) : Distinct (.obj fields)

theorem distinct_obj_iff {fields : Fields} :
    Distinct (.obj fields) ↔
      (Keyed.keys fields).Nodup ∧ ∀ field ∈ fields, Distinct field.2 := by
  refine ⟨?_, fun h => .obj h.1 h.2⟩
  rintro (⟨⟨⟩⟩ | _ | ⟨hnames, hvalues⟩)
  exact ⟨hnames, hvalues⟩

theorem distinct_set {fields : Fields} {value : Json} (hfields : Distinct (.obj fields))
    (hvalue : Distinct value) (name : CodeText) : Distinct (.obj (fields.set name value)) := by
  obtain ⟨hnames, hvalues⟩ := distinct_obj_iff.mp hfields
  refine .obj (Keyed.nodup_keys_set hnames name value) ?_
  intro field hmem
  rcases Keyed.mem_set hmem with rfl | hmem
  · exact hvalue
  · exact hvalues field hmem

theorem distinct_get? {fields : Fields} (hfields : Distinct (.obj fields)) {name : CodeText}
    {value : Json} (hvalue : fields.get? name = some value) : Distinct value :=
  (distinct_obj_iff.mp hfields).2 _ (Keyed.mem_of_get? hvalue)

/-! ## Values of documents -/

/-- A value as texts have it: no object in it has two fields of one name, and neither a string
nor a name holds a pair of surrogates apart. -/
inductive IsDocument : Json → Prop
  | scalar {value : Json} (hscalar : Scalar value) (hjoined : ∀ s, value = .str s → s.Joined) :
      IsDocument value
  | arr {items : List Json} (hitems : ∀ item ∈ items, IsDocument item) : IsDocument (.arr items)
  | obj {fields : Fields} (hnames : (Keyed.keys fields).Nodup)
      (hjoined : ∀ field ∈ fields, field.1.Joined)
      (hvalues : ∀ field ∈ fields, IsDocument field.2) : IsDocument (.obj fields)

theorem isDocument_arr_iff {items : List Json} :
    IsDocument (.arr items) ↔ ∀ item ∈ items, IsDocument item := by
  refine ⟨?_, .arr⟩
  rintro (⟨⟨⟩⟩ | hitems | _)
  exact hitems

theorem isDocument_obj_iff {fields : Fields} :
    IsDocument (.obj fields) ↔ (Keyed.keys fields).Nodup ∧
      (∀ field ∈ fields, field.1.Joined) ∧ ∀ field ∈ fields, IsDocument field.2 := by
  refine ⟨?_, fun h => .obj h.1 h.2.1 h.2.2⟩
  rintro (⟨⟨⟩⟩ | _ | ⟨hnames, hjoined, hvalues⟩)
  exact ⟨hnames, hjoined, hvalues⟩

theorem isDocument_str_iff {s : CodeText} : IsDocument (.str s) ↔ s.Joined := by
  refine ⟨?_, ?_⟩
  · rintro (⟨-, hjoined⟩ | _ | _)
    exact hjoined s rfl
  · intro hjoined
    exact .scalar (.str s) fun _ heq => Json.str.inj heq ▸ hjoined

theorem isDocument_set {fields : Fields} {value : Json} (hfields : IsDocument (.obj fields))
    {name : CodeText} (hname : name.Joined) (hvalue : IsDocument value) :
    IsDocument (.obj (fields.set name value)) := by
  obtain ⟨hnames, hjoined, hvalues⟩ := isDocument_obj_iff.mp hfields
  refine .obj (Keyed.nodup_keys_set hnames name value) ?_ ?_
  · intro field hmem
    rcases Keyed.mem_set hmem with rfl | hmem
    · exact hname
    · exact hjoined field hmem
  · intro field hmem
    rcases Keyed.mem_set hmem with rfl | hmem
    · exact hvalue
    · exact hvalues field hmem

theorem IsDocument.distinct {value : Json} (hvalue : IsDocument value) : Distinct value := by
  induction hvalue with
  | scalar hscalar _ => exact .scalar hscalar
  | arr _ ih => exact .arr ih
  | obj hnames _ _ ih => exact .obj hnames ih

/-! ## Equality up to the order of fields -/

/-- The same document, whatever the order of the fields. -/
inductive Same : Json → Json → Prop
  | scalar {value : Json} (hscalar : Scalar value) : Same value value
  | arr {items others : List Json} (hitems : List.Forall₂ Same items others) :
      Same (.arr items) (.arr others)
  | obj {fields others : Fields}
      (hvalues : ∀ name, Option.Rel Same (fields.get? name) (others.get? name)) :
      Same (.obj fields) (.obj others)

theorem same_obj_iff {fields others : Fields} :
    Same (.obj fields) (.obj others) ↔
      ∀ name, Option.Rel Same (fields.get? name) (others.get? name) := by
  refine ⟨?_, .obj⟩
  rintro (⟨⟨⟩⟩ | _ | hvalues)
  exact hvalues

theorem isObject_of_scalar {value : Json} (hscalar : Scalar value) : value.isObject = false := by
  cases hscalar <;> rfl

theorem exists_fields {value : Json} (hobject : value.isObject = true) :
    ∃ fields, value = .obj fields := by
  cases value with
  | obj fields => exact ⟨fields, rfl⟩
  | _ => cases hobject

theorem Same.isObject_eq {value other : Json} (hsame : Same value other) :
    value.isObject = other.isObject := by
  cases hsame <;> rfl

/-- What lies at a path of a document lies there in the same document. -/
theorem Same.atPath? {value other found : Json} (hsame : Same value other) {names : List CodeText}
    (hfound : other.atPath? names = some found) :
    ∃ part, value.atPath? names = some part ∧ Same part found := by
  induction names generalizing value other with
  | nil =>
      cases hfound
      exact ⟨value, rfl, hsame⟩
  | cons name rest ih =>
      cases hsame with
      | scalar hscalar => cases hscalar <;> cases hfound
      | arr => cases hfound
      | @obj fields others hvalues =>
          obtain ⟨next, hnext, hfound⟩ := Option.bind_eq_some_iff.mp hfound
          have hname := hvalues name
          rw [hnext] at hname
          generalize hpart : fields.get? name = part at hname
          cases hname with
          | some hsame =>
              obtain ⟨part, hpath, hsame⟩ := ih hsame hfound
              exact ⟨part, by rw [Json.atPath?, hpart]; exact hpath, hsame⟩

/-! ## Sorted fields -/

theorem sortByName_perm {α : Type} (parts : List (CodeText × α)) : (sortByName parts).Perm parts :=
  List.mergeSort_perm _ _

theorem sortByName_map {α β : Type} (change : CodeText × α → β) (parts : List (CodeText × α)) :
    sortByName (parts.map fun part => (part.1, change part)) =
      (sortByName parts).map fun part => (part.1, change part) := by
  rw [sortByName, sortByName, List.map_mergeSort]
  intro a _ b _
  rfl

mutual

/-- The value with the fields of every object in the order of their names. -/
def sorted : Json → Json
  | .arr items => .arr (sortedItems items)
  | .obj fields => .obj (sortByName (sortedFields fields))
  | other => other

/-- Some items, each sorted. -/
def sortedItems : List Json → List Json
  | [] => []
  | item :: rest => sorted item :: sortedItems rest

/-- Some fields in their order, the value of each sorted. -/
def sortedFields : List (CodeText × Json) → List (CodeText × Json)
  | [] => []
  | (name, value) :: rest => (name, sorted value) :: sortedFields rest

end

theorem sortedItems_eq (items : List Json) : sortedItems items = items.map sorted := by
  induction items with
  | nil => rfl
  | cons item rest ih => rw [sortedItems, ih, List.map_cons]

theorem sortedFields_eq (fields : Fields) :
    sortedFields fields = fields.map fun field => (field.1, sorted field.2) := by
  induction fields with
  | nil => rfl
  | cons field rest ih => rw [sortedFields, ih, List.map_cons]

theorem sorted_arr (items : List Json) : sorted (.arr items) = .arr (items.map sorted) := by
  rw [sorted, sortedItems_eq]

theorem sorted_obj (fields : Fields) :
    sorted (.obj fields) =
      .obj ((sortByName fields).map fun field => (field.1, sorted field.2)) := by
  rw [sorted, sortedFields_eq, sortByName_map fun field => sorted field.2]

theorem sorted_of_scalar {value : Json} (hscalar : Scalar value) : sorted value = value := by
  cases hscalar <;> rfl

theorem nodup_keys_sortByName {α : Type} {parts : List (CodeText × α)}
    (hnames : (Keyed.keys parts).Nodup) : (Keyed.keys (sortByName parts)).Nodup :=
  ((sortByName_perm parts).map _).nodup_iff.mpr hnames

/-- A value that is a fixed word or a number. -/
inductive Literal : Json → Prop
  | null : Literal .null
  | bool (b : Bool) : Literal (.bool b)
  | int (i : Int) : Literal (.int i)
  | float (x : Decimal.Binary64) : Literal (.float x)

theorem Literal.isDocument {value : Json} (hliteral : Literal value) : IsDocument value := by
  cases hliteral with
  | null => exact .scalar .null nofun
  | bool b => exact .scalar (.bool b) nofun
  | int i => exact .scalar (.int i) nofun
  | float x => exact .scalar (.float x) nofun

theorem literal_of_readConstant? {t rest : Text} {value : Json}
    (hread : readConstant? t = some (value, rest)) : Literal value := by
  obtain ⟨found, hfound, heq⟩ := Option.map_eq_some_iff.mp hread
  cases heq
  have hmem := List.mem_of_find?_eq_some hfound
  have hconstants : ∀ found ∈ constants, Literal found.2 := by
    simp only [constants, List.forall_mem_cons]
    exact ⟨.null, .bool _, .bool _, .float _, .float _, .float _, List.forall_mem_nil _⟩
  exact hconstants found hmem

theorem literal_of_readNumber? {t rest : Text} {value : Json}
    (hread : readNumber? t = some (value, rest)) : Literal value := by
  unfold readNumber? at hread
  dsimp only at hread
  split at hread
  all_goals
    split at hread
    next => cases hread
    next =>
      split at hread
      next =>
        split at hread
        next =>
          cases hread
          exact .int _
        next => cases hread
      next =>
        obtain ⟨x, -, heq⟩ := Option.map_eq_some_iff.mp hread
        cases heq
        exact .float x

theorem eq_some_of_orMalformed {α : Type} {found : Option α} {value : α}
    (hfound : orMalformed found = .ok value) : found = some value := by
  cases found with
  | none => cases hfound
  | some found =>
      cases hfound
      rfl

/-- What was read with at most `fuel` steps is as texts have it. -/
structure ReadsDocuments (fuel : Nat) : Prop where
  value : ∀ {levels t value rest}, readValue fuel levels t = .ok (value, rest) → IsDocument value
  items : ∀ {levels t items rest}, readItems fuel levels t = .ok (items, rest) →
    ∀ item ∈ items, IsDocument item
  fields : ∀ {levels before t fields rest}, IsDocument (.obj before) →
    readFields fuel levels before t = .ok (fields, rest) → IsDocument (.obj fields)

theorem eq_ok_of_map {ε α β : Type} {change : α → β} {read : Except ε α} {result : β}
    (hread : read.map change = .ok result) : ∃ found, read = .ok found ∧ change found = result := by
  cases read with
  | error e => cases hread
  | ok found =>
      cases hread
      exact ⟨found, rfl, rfl⟩

theorem isDocument_nil : IsDocument (.obj []) :=
  .obj List.nodup_nil (List.forall_mem_nil _) (List.forall_mem_nil _)

theorem isDocument_readValue_succ {fuel levels : Nat} {t rest : Text} {value : Json}
    (hinner : ReadsDocuments fuel) (hread : readValue (fuel + 1) levels t = .ok (value, rest)) :
    IsDocument value := by
  cases t with
  | nil => simp [readValue] at hread
  | cons c t =>
      unfold readValue at hread
      split at hread
      next =>
        obtain ⟨⟨found, after⟩, hstring, heq⟩ :=
          Option.map_eq_some_iff.mp (eq_some_of_orMalformed hread)
        cases heq
        exact isDocument_str_iff.mpr (joined_of_readString? hstring).1
      split at hread
      next =>
        cases levels with
        | zero => cases hread
        | succ levels =>
            dsimp only at hread
            split at hread
            next =>
              cases hread
              exact isDocument_nil
            next =>
              obtain ⟨⟨fields, after⟩, hfields, heq⟩ := eq_ok_of_map hread
              cases heq
              exact hinner.fields isDocument_nil hfields
      split at hread
      next =>
        cases levels with
        | zero => cases hread
        | succ levels =>
            dsimp only at hread
            split at hread
            next =>
              cases hread
              exact .arr (List.forall_mem_nil _)
            next =>
              obtain ⟨⟨items, after⟩, hitems, heq⟩ := eq_ok_of_map hread
              cases heq
              exact .arr (hinner.items hitems)
      split at hread
      next hconstant =>
        cases hread
        exact (literal_of_readConstant? hconstant).isDocument
      next => exact (literal_of_readNumber? (eq_some_of_orMalformed hread)).isDocument

theorem isDocument_readItems_succ {fuel levels : Nat} {t rest : Text} {items : List Json}
    (hinner : ReadsDocuments fuel) (hread : readItems (fuel + 1) levels t = .ok (items, rest)) :
    ∀ item ∈ items, IsDocument item := by
  unfold readItems at hread
  obtain ⟨⟨first, after⟩, hfirst, hread⟩ := bind_eq_ok hread
  have hfirst := hinner.value hfirst
  dsimp only at hread
  split at hread
  next =>
    cases hread
    simpa using hfirst
  next =>
    obtain ⟨⟨others, behind⟩, hothers, hread⟩ := bind_eq_ok hread
    cases hread
    exact List.forall_mem_cons.mpr ⟨hfirst, hinner.items hothers⟩
  next => cases hread

theorem isDocument_readFields_succ {fuel levels : Nat} {before fields : Fields} {t rest : Text}
    (hinner : ReadsDocuments fuel) (hbefore : IsDocument (.obj before))
    (hread : readFields (fuel + 1) levels before t = .ok (fields, rest)) :
    IsDocument (.obj fields) := by
  unfold readFields at hread
  split at hread
  next heq =>
    cases heq
    obtain ⟨⟨name, after⟩, hname, hread⟩ := bind_eq_ok hread
    dsimp only at hread
    split at hread
    next =>
      obtain ⟨⟨value, after⟩, hvalue, hread⟩ := bind_eq_ok hread
      have hjoined := (joined_of_readString? (eq_some_of_orMalformed hname)).1
      have hset := isDocument_set hbefore hjoined (hinner.value hvalue)
      dsimp only at hread
      split at hread
      next =>
        cases hread
        exact hset
      next => exact hinner.fields hset hread
      next => cases hread
    next => cases hread
  next => cases hread

theorem readsDocuments (fuel : Nat) : ReadsDocuments fuel := by
  induction fuel with
  | zero =>
      refine ⟨?_, ?_, ?_⟩
      · intro levels t value rest hread
        simp [readValue] at hread
      · intro levels t items rest hread
        simp [readItems] at hread
      · intro levels before t fields rest _ hread
        simp [readFields] at hread
  | succ fuel ih =>
      exact ⟨isDocument_readValue_succ ih, isDocument_readItems_succ ih,
        isDocument_readFields_succ ih⟩

/-- What is read from a text has no name twice in one object, and no pair of surrogates apart. -/
theorem isDocument_of_parse {t : Text} {value : Json} (hparse : parse t = .ok value) :
    IsDocument value := by
  obtain ⟨⟨found, rest⟩, hread, hparse⟩ := bind_eq_ok hparse
  dsimp only at hparse
  split at hparse
  · cases hparse
    exact (readsDocuments _).value hread
  · cases hparse

/-- Two names that are surrogates alone are two names. -/
example : ((parse "\x7b\"\\ud800\": 1, \"\\ud801\": 2\x7d".toList).toOption.bind fields?).map
    Keyed.keys = some [[.surrogate 0], [.surrogate 1]] := by
  decide +kernel

end SchemaDesk.Json

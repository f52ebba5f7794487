import SchemaDesk.Proofs.DocumentForms
import SchemaDesk.Proofs.StringTexts

/-!
# Members of objects

The text of an object may have a name more than once. Its members are all that stands in it,
one after the other; the object that is read from it keeps, under each name, the last of them.
-/

namespace SchemaDesk

namespace Fields

@[simp]
theorem get?_nil (name : CodeText) : get? [] name = none :=
  rfl

/-- The last value under a name. -/
def last? (members : List (CodeText × Json)) (name : CodeText) : Option Json :=
  ((members.filter (·.1 = name)).map (·.2)).getLast?

theorem last?_cons (member : CodeText × Json) (members : List (CodeText × Json)) (name : CodeText) :
    last? (member :: members) name =
      (last? members name).or (if member.1 = name then some member.2 else none) := by
  by_cases hname : member.1 = name
  · simp [last?, hname, List.getLast?_cons, Option.or_some]
  · simp [last?, hname]

/-- Of what is written under a name the last stays, and what was there before if nothing is. -/
theorem get?_update_members (fields : Fields) (members : List (CodeText × Json)) (name : CodeText) :
    (fields.update members).get? name = (last? members name).or (fields.get? name) := by
  induction members generalizing fields with
  | nil => rfl
  | cons member members ih =>
      have hupdate : fields.update (member :: members) =
          (fields.set member.1 member.2).update members := rfl
      rw [hupdate, ih, last?_cons, Option.or_assoc]
      by_cases hname : member.1 = name
      · simp [← hname]
      · rw [get?_set_of_ne fields member.2 (Ne.symm hname), if_neg hname, Option.none_or]

/-- Where no name stands twice, the last value under a name is the only one. -/
theorem last?_of_nodup {members : List (CodeText × Json)} (hnames : (Keyed.keys members).Nodup)
    (name : CodeText) : last? members name = get? members name := by
  induction members with
  | nil => rfl
  | cons member members ih =>
      obtain ⟨hnew, hrest⟩ := List.nodup_cons.mp hnames
      rw [last?_cons, ih hrest]
      by_cases hname : member.1 = name
      · subst hname
        have habsent : get? members member.1 = none := Keyed.get?_eq_none_iff.mpr hnew
        rw [habsent, Option.none_or, if_pos rfl, get?, Keyed.get?, if_pos rfl]
      · simp [get?, Keyed.get?, hname]

theorem get?_update (fields : Fields) {other : Fields} (hnames : (Keyed.keys other).Nodup)
    (name : CodeText) :
    (fields.update other).get? name = (other.get? name).or (fields.get? name) := by
  rw [get?_update_members, last?_of_nodup hnames]

end Fields

namespace Json

/-- What follows a mark behind white space. -/
def expect (mark : Char) (t : Text) : Except ReadError Text :=
  if (skipGap t).head? = some mark then .ok (skipGap t).tail else .error .malformed

/-- A member at the start of a text: a name and a value with a colon between them. -/
def readMember (fuel levels : Nat) (t : Text) : Except ReadError ((CodeText × Json) × Text) :=
  match t with
  | '"' :: rest => do
    let (name, rest) ← orMalformed (readString? fuel rest)
    let rest ← expect ':' rest
    let (value, rest) ← readValue fuel levels (skipGap rest)
    .ok ((name, value), rest)
  | _ => .error .malformed

/-- The members of an object from its first name on, and what follows the brace. -/
def readMembers (fuel levels : Nat) (t : Text) :
    Except ReadError (List (CodeText × Json) × Text) :=
  match fuel with
  | 0 => .error .malformed
  | fuel + 1 => do
    let (member, rest) ← readMember fuel levels t
    match skipGap rest with
    | '}' :: rest' => .ok ([member], rest')
    | ',' :: rest' =>
      let (members, rest'') ← readMembers fuel levels (skipGap rest')
      .ok (member :: members, rest'')
    | _ => .error .malformed

/-- The members of an object behind its opening brace, and what follows the closing one. -/
def readObject (fuel levels : Nat) (t : Text) :
    Except ReadError (List (CodeText × Json) × Text) :=
  if (skipGap t).head? = some '}' then .ok ([], (skipGap t).tail)
  else readMembers fuel levels (skipGap t)

/-- A text is that of an object, and these are its members in their order. -/
def HasMembers (t : Text) (members : List (CodeText × Json)) : Prop :=
  ∃ body rest, skipGap t = '{' :: body ∧
    readObject (2 * t.length + 1) (readingLevels - 1) body = .ok (members, rest) ∧
    skipGap rest = []

end Json

end SchemaDesk

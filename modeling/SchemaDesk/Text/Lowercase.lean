import SchemaDesk.Text.Word
import SchemaDesk.Text.CaseTable

/-!
# Lower case

The full lower-case mapping. Two characters need care: a dotted capital I
becomes two characters, and a capital sigma becomes a final sigma where a word
ends, which its neighbours on both sides decide.
-/

namespace SchemaDesk.Text

/-- The lower-case partner by the table, or the character itself. -/
def lowercaseChar (c : Char) : Char :=
  let n := c.toNat
  if n < 128 then
    if 'A' ≤ c && c ≤ 'Z' then Char.ofNat (n + 32) else c
  else
    match lowercaseRuns.find? fun (first, last, step, _) =>
      first ≤ n && n ≤ last && (n - first) % step == 0 with
    | some (_, _, _, shift) => Char.ofNat ((n : Int) + shift).toNat
    | none => c

/-- Is the nearest character that is not passed over one that has case? -/
def nearestHasCase : Text → Bool
  | [] => false
  | c :: rest =>
    if inRanges caseIgnorableRanges c.toNat then nearestHasCase rest
    else inRanges casedRanges c.toNat

/-- Lower case of `rest`, which follows the characters `before`, nearest first. -/
def lowercaseAfter (before : Text) : Text → Text
  | [] => []
  | c :: rest =>
    let tail := lowercaseAfter (c :: before) rest
    if c == 'Σ' then
      (if nearestHasCase before && !nearestHasCase rest then 'ς' else 'σ') :: tail
    else if c == 'İ' then 'i' :: '\u0307' :: tail
    else lowercaseChar c :: tail

/-- The text in lower case. -/
def lowercase (t : Text) : Text :=
  lowercaseAfter [] t

end SchemaDesk.Text

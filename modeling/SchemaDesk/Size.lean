import SchemaDesk.Text.Basic

/-!
# Sizes

Numbers have no end, but what they count does: an index, the number of places in a
list, the characters of a text that there is memory for.
-/

namespace SchemaDesk

/-- Why there cannot be so many of something. -/
inductive SizeError where
  /-- There are fewer places in any list. -/
  | places
  /-- There are fewer indices, or lengths. -/
  | indices
  /-- There is less memory. -/
  | memory
  deriving DecidableEq, Repr

/-- The wording of a size error; for want of memory there is none. -/
def SizeError.message : SizeError → Text
  | .places => "Python int too large to convert to C ssize_t".toList
  | .indices => "cannot fit 'int' into an index-sized integer".toList
  | .memory => []

namespace Size

/-- The largest index, which is also the largest number of places. -/
def largest : Nat := 9223372036854775807

/-- The length of the longest text that there is memory for. -/
def longestText : Nat := 4294967296

/-- Is a number, or its opposite, an index? -/
def isIndex (i : Int) : Bool :=
  -(largest : Int) - 1 ≤ i && i ≤ largest

/-- A number as a number of places in a list. -/
def places (count : Nat) : Except SizeError Nat :=
  if count ≤ largest then .ok count else .error .places

/-- A text of so many blanks. -/
def blanks (length : Nat) : Except SizeError Text :=
  if largest < length then .error .indices
  else if longestText < length then .error .memory
  else .ok (List.replicate length ' ')

end Size

end SchemaDesk

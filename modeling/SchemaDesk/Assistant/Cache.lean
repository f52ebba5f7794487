import SchemaDesk.Json.Conversion

/-!
# The suggestion cache

Every request and every edit takes the next number. A suggestion is kept only if
it carries the latest number, so one that comes too late is never offered where
it does not belong. The newest suggestions are kept, as many as there is room for:
as many as were asked for, unless there can be no room for so many.
-/

namespace SchemaDesk

/-- A suggestion, with its number and its place. -/
structure CachedSuggestion where
  sequence : Nat
  text : Text
  line : Int
  column : Int
  deriving DecidableEq, Repr

/-- The suggestions of one editor. -/
structure SuggestionCache where
  /-- So many were asked for, and one at least. -/
  capacity : Nat
  /-- There is room for so many. -/
  room : Nat
  room_le : room ≤ capacity ∧ room ≤ Size.largest
  room_pos : 0 < room
  /-- The latest number. -/
  latest : Nat := 0
  /-- The kept suggestions, newest first. -/
  entries : List CachedSuggestion := []
  deriving DecidableEq, Repr

namespace SuggestionCache

/-- A number of entries as a capacity. -/
def capacityOf (size : Int) : Nat :=
  (max 1 size).toNat

theorem capacityOf_pos (size : Int) : 0 < capacityOf size := by
  unfold capacityOf
  omega

/-- An empty cache, with room for so many suggestions or for as many as there can be. -/
def new (size : Int) : SuggestionCache where
  capacity := capacityOf size
  room := min (capacityOf size) Size.largest
  room_le := ⟨Nat.min_le_left .., Nat.min_le_right ..⟩
  room_pos := Nat.lt_min.mpr ⟨capacityOf_pos size, by decide⟩

/-- A value as a number of entries; what counts as no is one. -/
def sizeOf (value : Json) : Except ConversionError Int :=
  (value.orElse (.int 1)).toWhole

/-- The error of asking for more room than there can be. -/
def checkRoom (capacity : Nat) : Except ConversionError Unit :=
  ((Size.places capacity).map fun _ => ()).mapError .size

/-- An empty cache with room for a number of suggestions that is loosely given. -/
def ofValue (value : Json) : Except ConversionError SuggestionCache := do
  let size ← sizeOf value
  checkRoom (capacityOf size)
  return new size

/-- Take the next number. -/
def advance (cache : SuggestionCache) : SuggestionCache :=
  { cache with latest := cache.latest + 1 }

/-- Is this the latest number? -/
def isCurrent (cache : SuggestionCache) (sequence : Int) : Bool :=
  sequence == (cache.latest : Int)

theorem isCurrent_iff (cache : SuggestionCache) (sequence : Int) :
    cache.isCurrent sequence = true ↔ sequence = cache.latest := by
  simp [isCurrent]

/-- Is a suggestion kept? It must carry the latest number and must not be blank. -/
def accepts (cache : SuggestionCache) (sequence : Int) (text : Text) : Bool :=
  cache.isCurrent sequence && !Text.allBlank text

theorem accepts_iff (cache : SuggestionCache) (sequence : Int) (text : Text) :
    cache.accepts sequence text = true ↔
      sequence = cache.latest ∧ Text.allBlank text = false := by
  simp [accepts, isCurrent]

/-- Keep a suggestion that carries the latest number. -/
def keep (cache : SuggestionCache) (text : Text) (line column : Int) : SuggestionCache :=
  { cache with
    entries :=
      ({ sequence := cache.latest, text, line, column } :: cache.entries).take cache.room }

/-- Offer a suggestion; there is no answer if it is refused. -/
def offer? (cache : SuggestionCache) (sequence : Int) (text : Text) (line column : Int) :
    Option SuggestionCache :=
  if cache.accepts sequence text then some (cache.keep text line column) else none

/-- Offer a suggestion that is loosely given. Its place is only read if it is kept. -/
def offerValues? (cache : SuggestionCache) (sequence text line column : Json) :
    Except ConversionError (Option SuggestionCache) := do
  let sequence ← sequence.toWhole
  if cache.accepts sequence text.lenientText then
    return cache.offer? sequence text.lenientText (← line.toWhole) (← column.toWhole)
  else return none

/-- The newest suggestion, if it carries the latest number. -/
def current? (cache : SuggestionCache) : Option CachedSuggestion :=
  cache.entries.head?.filter (·.sequence == cache.latest)

/-- Make room for so many suggestions; the newest stay. Where there can be no room for so
many, it is only noted that they were asked for. -/
def resize (cache : SuggestionCache) (size : Int) : SuggestionCache :=
  let capacity := capacityOf size
  if h : capacity ≤ Size.largest then
    { cache with
      capacity, room := capacity, room_le := ⟨Nat.le_refl _, h⟩, room_pos := capacityOf_pos size
      entries := cache.entries.take capacity }
  else
    { cache with
      capacity
      room_le := ⟨Nat.le_trans cache.room_le.2 (Nat.le_of_not_le h), cache.room_le.2⟩ }

/-- Make room for a number of suggestions that is loosely given. Asking again for what was
asked for last is no error. -/
def resizeValue (cache : SuggestionCache) (value : Json) :
    Except ConversionError Unit × SuggestionCache :=
  match sizeOf value with
  | .error e => (.error e, cache)
  | .ok size =>
    let capacity := capacityOf size
    (if capacity = cache.capacity then .ok () else checkRoom capacity, cache.resize size)

/-- Leave out all suggestions. -/
def clear (cache : SuggestionCache) : SuggestionCache :=
  { cache with entries := [] }

end SuggestionCache

end SchemaDesk

import SchemaDesk.Text.Basic

/-!
# Blocks around a line

Whether a line lies inside a block of some kind is decided from the lines before
it by counting braces. A line that starts with the keyword opens the block,
whatever came before; the block ends where the braces that follow close it.
Braces count wherever they stand, in strings and comments too, and the kinds
are tracked independently of each other.
-/

namespace SchemaDesk

/-- The kinds of blocks that are tracked. -/
inductive BlockKind where
  | generator
  | datasource
  | model
  | enum
  deriving DecidableEq, Repr

namespace BlockKind

/-- The keyword that opens a block of the kind. -/
def keyword : BlockKind → String
  | .generator => "generator"
  | .datasource => "datasource"
  | .model => "model"
  | .enum => "enum"

/-- All kinds, in the order in which they are reported. -/
def all : List BlockKind :=
  [.generator, .datasource, .model, .enum]

end BlockKind

namespace Block

/-- Opening braces less closing braces. -/
def balance (line : Text) : Int :=
  (line.count '{' : Int) - (line.count '}' : Int)

/-- Does the line open a block? -/
def opens (keyword line : Text) : Bool :=
  keyword.isPrefixOf (Text.strip line)

/-- The depth after one more line, or nothing outside every block. -/
def track (keyword : Text) (depth : Option Int) (line : Text) : Option Int :=
  if opens keyword line then some 1
  else
    match depth with
    | none => none
    | some d => if d + balance line ≤ 0 then none else some (d + balance line)

/-- Does `current` lie inside a block of the keyword, after the lines `before`? -/
def contains (keyword : Text) (before : List Text) (current : Text) : Bool :=
  !keyword.isEmpty &&
    match before.foldl (track keyword) none with
    | none => false
    | some depth => 0 < depth + balance current

end Block

/-- For each kind, whether a place lies inside a block of it. -/
structure BlockScope where
  generator : Bool
  datasource : Bool
  model : Bool
  enum : Bool
  deriving DecidableEq, Repr

namespace BlockScope

/-- The blocks around `current`, after the lines `before`. -/
def around (before : List Text) (current : Text) : BlockScope :=
  let inside (kind : BlockKind) := Block.contains kind.keyword.toList before current
  { generator := inside .generator, datasource := inside .datasource,
    model := inside .model, enum := inside .enum }

/-- Is the place inside a block of the kind? -/
def isInside (scope : BlockScope) : BlockKind → Bool
  | .generator => scope.generator
  | .datasource => scope.datasource
  | .model => scope.model
  | .enum => scope.enum

/-- Outside every block. -/
def isTopLevel (scope : BlockScope) : Bool :=
  !(scope.generator || scope.datasource || scope.model || scope.enum)

/-- The kinds of the blocks around the place. -/
def active (scope : BlockScope) : List BlockKind :=
  BlockKind.all.filter scope.isInside

end BlockScope

end SchemaDesk

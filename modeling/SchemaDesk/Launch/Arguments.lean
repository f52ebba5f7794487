import SchemaDesk.Text.Basic
import SchemaDesk.Text.Word

/-!
# Launch arguments

A schema to open, a settings file, and a wish for more messages. Options may be
cut short as long as they can be told apart; options that are not known, and
schemas after the first, are passed over, for they may be meant for the toolkit
that shows the window.
-/

namespace SchemaDesk.Launch

/-- What the program is launched with. -/
structure Arguments where
  schema : Text := []
  settings : Text := []
  verbose : Bool := false
  deriving DecidableEq, Repr

/-- Why the program is not launched. -/
inductive ArgumentError where
  /-- Help was asked for. -/
  | helpWanted
  /-- Several options start like this one. -/
  | ambiguous (option : Text)
  /-- The option needs a value. -/
  | valueMissing (option : Text)
  /-- The option takes no value. -/
  | valueRefused (option : Text)
  deriving DecidableEq, Repr

/-- The exit code for an error. -/
def ArgumentError.exitCode : ArgumentError → Nat
  | .helpWanted => 0
  | _ => 2

/-- The options. -/
inductive Flag where
  | help
  | settings
  | verbose
  deriving DecidableEq, Repr

/-- The long name of an option. -/
def Flag.name : Flag → Text
  | .help => "--help".toList
  | .settings => "--settings".toList
  | .verbose => "--verbose".toList

/-- All options. -/
def flags : List Flag :=
  [.help, .settings, .verbose]

/-- What an argument is. -/
inductive Word where
  | value (t : Text)
  /-- An option, perhaps with a value behind an equals sign. -/
  | flag (flag : Flag) (value : Option Text)
  /-- An option that is not known. -/
  | stranger
  /-- The mark after which there are no more options. -/
  | lastOptions
  deriving DecidableEq, Repr

/-- The text before the first equals sign, and the value behind it. -/
def splitValue (t : Text) : Text × Option Text :=
  let name := t.takeWhile (· != '=')
  (name, if name.length < t.length then some (t.drop (name.length + 1)) else none)

/-- A negative number is no option. -/
def isNegativeNumber (t : Text) : Bool :=
  match Text.dropFinalFeed t with
  | '-' :: rest =>
    let rest' := rest.dropWhile Text.isDecimalDigit
    match rest' with
    | [] => !rest.isEmpty
    | '.' :: places => !places.isEmpty && places.all Text.isDecimalDigit
    | _ => false
  | _ => false

/-- What an argument that starts with a dash is if it names no option. -/
def otherWord (t : Text) : Word :=
  if isNegativeNumber t || t.contains ' ' then .value t else .stranger

/-- What an argument with two dashes is. -/
def longWord (t : Text) : Except ArgumentError Word :=
  let (name, value) := splitValue t
  match flags.find? (·.name == t), flags.find? (·.name == name) with
  | some flag, _ => .ok (.flag flag none)
  | none, some flag => .ok (.flag flag value)
  | none, none =>
    match flags.filter fun flag => name.isPrefixOf flag.name with
    | [] => .ok (otherWord t)
    | [flag] => .ok (.flag flag value)
    | _ => .error (.ambiguous t)

/-- What an argument is. -/
def word (t : Text) : Except ArgumentError Word :=
  match t with
  | '-' :: '-' :: [] => .ok .lastOptions
  | '-' :: '-' :: _ => longWord t
  | '-' :: 'h' :: rest => .ok (.flag .help (if rest.all (· == 'h') then none else some rest))
  | '-' :: _ :: _ => .ok (otherWord t)
  | _ => .ok (.value t)

/-- What all arguments are; behind the mark there are values alone. -/
def words : List Text → Except ArgumentError (List Word)
  | [] => .ok []
  | t :: rest => do
    match ← word t with
    | .lastOptions => return .lastOptions :: rest.map .value
    | first => return first :: (← words rest)

/-- Read the arguments that are left; `first` says that no schema has been read yet. -/
def readWords (first : Bool) (arguments : Arguments) : List Word → Except ArgumentError Arguments
  | [] => .ok arguments
  | .value t :: rest =>
    readWords false (if first then { arguments with schema := t } else arguments) rest
  | .stranger :: rest | .lastOptions :: rest => readWords first arguments rest
  | .flag .help none :: _ => .error .helpWanted
  | .flag .help (some _) :: _ => .error (.valueRefused Flag.help.name)
  | .flag .verbose none :: rest => readWords first { arguments with verbose := true } rest
  | .flag .verbose (some _) :: _ => .error (.valueRefused Flag.verbose.name)
  | .flag .settings (some t) :: rest => readWords first { arguments with settings := t } rest
  | .flag .settings none :: .value t :: rest =>
    readWords first { arguments with settings := t } rest
  | .flag .settings none :: _ => .error (.valueMissing Flag.settings.name)

/-- Read the arguments of the program. -/
def read (arguments : List Text) : Except ArgumentError Arguments := do
  readWords true {} (← words arguments)

end SchemaDesk.Launch

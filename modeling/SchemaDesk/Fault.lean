import SchemaDesk.Decimal.Style
import SchemaDesk.Text.Quoted

/-!
# Faults of the surroundings

What goes wrong outside the program: in the file system, in the network, in a
tool that is run, or in a part that a host supplies. A fault has a kind, a text
and perhaps the number by which the operating system knows it. Which faults a
part of the program takes as an answer, and which it lets through, is decided
by their kind.

Faults are exceptions, of which a part may also take any for an answer: a formatter
takes whatever the one that it asked first lets through, a session whatever a run
of its jobs lets through. What is to end the program, such as an interrupt from the
keyboard, is none of these. It is a fault only where nothing but input and output is
taken for an answer, as in a visit to the formatting tool.
-/

namespace SchemaDesk

/-- Kinds of faults. -/
inductive FaultKind where
  /-- The file or directory does not exist. -/
  | missingFile
  | fileExists
  | isDirectory
  | notDirectory
  | permissionDenied
  | timedOut
  | brokenPipe
  | connectionAborted
  | connectionRefused
  | connectionReset
  /-- Another fault of a connection. -/
  | connection
  | interrupted
  | wouldBlock
  | childProcess
  | noProcess
  /-- A path, or a name in it, is longer than files may have it. -/
  | nameTooLong
  /-- Another fault of input or output. -/
  | io
  /-- A look-up found nothing. -/
  | missingKey
  /-- A value was refused. -/
  | badValue
  /-- A text and an encoding do not go together. -/
  | badText
  /-- Octets were no text. -/
  | undecodable
  /-- Values stand inside each other too deeply. -/
  | nesting
  /-- A fault that has nothing to do with input and output. -/
  | other (name : String)
  deriving DecidableEq, Repr

namespace FaultKind

/-- Faults of input and output. -/
def isIo : FaultKind → Bool
  | .missingKey | .badValue | .badText | .undecodable | .nesting | .other _ => false
  | _ => true

/-- Faults of the values that were handed over. -/
def isOfValue : FaultKind → Bool
  | .badValue | .badText | .undecodable => true
  | _ => false

/-- Faults of a connection. -/
def isConnection : FaultKind → Bool
  | .brokenPipe | .connectionAborted | .connectionRefused | .connectionReset | .connection => true
  | _ => false

/-- The kind that the operating system gives to a number. -/
def ofCode (code : Int) : FaultKind :=
  match code with
  | 1 | 13 => .permissionDenied
  | 2 => .missingFile
  | 3 => .noProcess
  | 4 => .interrupted
  | 10 => .childProcess
  | 11 | 114 | 115 => .wouldBlock
  | 17 => .fileExists
  | 20 => .notDirectory
  | 21 => .isDirectory
  | 32 | 108 => .brokenPipe
  | 36 => .nameTooLong
  | 103 => .connectionAborted
  | 104 => .connectionReset
  | 110 => .timedOut
  | 111 => .connectionRefused
  | _ => .io

end FaultKind

/-- A fault. -/
structure Fault where
  kind : FaultKind
  text : Text
  code : Option Int := none
  deriving DecidableEq, Repr

namespace Fault

/-- The wording of a fault: the number of the operating system stands before its
text, and a name that was not found is quoted. -/
def message (fault : Fault) : Text :=
  match fault.code with
  | some code => "[Errno ".toList ++ Decimal.intText code ++ "] ".toList ++ fault.text
  | none => if fault.kind = .missingKey then Text.quoted fault.text else fault.text

/-- The fault of a kind about a file, as the operating system reports it. A path that
is refused as a value is not even shown to the operating system. -/
def ofFile (kind : FaultKind) (name : Text) : Fault :=
  let reported (code : Int) (text : String) : Fault :=
    { kind, code := some code, text := text.toList ++ ": ".toList ++ Text.quoted name }
  match kind with
  | .badValue => { kind, text := "embedded null byte".toList }
  | .fileExists => reported 17 "File exists"
  | .notDirectory => reported 20 "Not a directory"
  | .isDirectory => reported 21 "Is a directory"
  | .permissionDenied => reported 13 "Permission denied"
  | .missingFile => reported 2 "No such file or directory"
  | .nameTooLong => reported 36 "File name too long"
  | _ => reported 5 "Input/output error"

end Fault

/-- Of two steps that come to a result together, each comes to one. -/
theorem bind_eq_ok {ε α β : Type} {first : Except ε α} {next : α → Except ε β} {result : β}
    (hbind : (first >>= next) = .ok result) :
    ∃ value, first = .ok value ∧ next value = .ok result := by
  cases first with
  | error e => cases hbind
  | ok value => exact ⟨value, rfl, hbind⟩

end SchemaDesk

import DartTransfer.CommandLine.Note
import DartTransfer.Fault
import DartTransfer.Text.Utf8

/-!
# Outcomes of a command

What a command does to the world around it, as data: an exit code, the text for the output stream, the
notes for the error stream, and at most one file to write. A file that cannot be written turns the
outcome into a failure.
-/

namespace DartTransfer.CommandLine

/-- What a command can read. -/
structure Host where
  stdin : Bytes
  readFile : Text → Except FileFault Bytes
  /-- Which events to log, if the surroundings have a say in it. -/
  filter : Option (Event → Bool) := none

/-- Whether the log of a command lets an event through. Only warnings are shown unless the command is verbose. -/
def Host.passes (h : Host) (verbose : Bool) (e : Event) : Bool :=
  match h.filter with
  | some passes => passes e
  | none => verbose || e.level == .warn

/-- The reason for a failure, and what the command was doing. -/
structure Failure where
  context : Option Text := none
  cause : Text
  deriving DecidableEq, Repr

/-- The lines of a text, each indented. -/
def indented (t : Text) : Text := Text.joinWith "\n" ((Text.splitOn '\n' t).map ("    " ++ ·))

def Failure.report (f : Failure) : Text :=
  match f.context with
  | none => "Error: " ++ f.cause ++ "\n"
  | some c => "Error: " ++ c ++ "\n\nCaused by:\n" ++ indented f.cause ++ "\n"

structure FileWrite where
  path : Text
  contents : Text
  /-- What goes to the error stream once the file is written. -/
  notice : List Note
  deriving DecidableEq, Repr

structure Outcome where
  code : Nat := 0
  stdout : Text := []
  /-- What goes to the error stream. -/
  notes : List Note := []
  write : Option FileWrite := none
  deriving DecidableEq, Repr

namespace Outcome

/-- The text on the error stream, where `line n e` is what the log writes for the event `e` after `n` others. -/
def stderrWith (line : Nat → Event → Text) (o : Outcome) : Text := Note.render line 0 o.notes

/-- The text on the error stream, without the times of the log. -/
def stderr (o : Outcome) : Text := o.stderrWith fun _ e => e.line

/-- The outcome of a command that fails after it has printed the text and written the notes. -/
def failed (stdout : Text) (notes : List Note) (f : Failure) : Outcome :=
  { code := 1, stdout := stdout, notes := notes ++ [.text f.report] }

/-- The outcome once its file is written, or cannot be. -/
def settle (o : Outcome) (fault : Option FileFault) : Outcome :=
  match o.write, fault with
  | none, _ => o
  | some w, none => { o with notes := o.notes ++ w.notice }
  | some w, some fault => failed o.stdout o.notes ⟨some ("Failed to write " ++ w.path), fault.message⟩

end Outcome

end DartTransfer.CommandLine

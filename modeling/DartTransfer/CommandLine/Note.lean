import DartTransfer.Text.Basic

/-!
# Notes for the error stream

What a command says beside its result, as data: texts of its own, and the events of its log. Which events the log
lets through, how it writes one and what time it puts ahead of it is not for the command to say, so an outcome holds
the notes, and `Note.render` is the stream that a way to write events makes of them.
-/

namespace DartTransfer.CommandLine

inductive Level
  | debug
  | info
  | warn
  deriving DecidableEq, Repr

def Level.title : Level → Text
  | debug => "DEBUG"
  | info => "INFO"
  | warn => "WARN"

structure Event where
  level : Level
  message : Text
  /-- What the event is about, by name. -/
  fields : List (Text × Text) := []
  deriving DecidableEq, Repr

def Event.fieldText : Text × Text → Text
  | (name, value) => " " ++ name ++ "=" ++ value

/-- The line of an event without its time. -/
def Event.line (e : Event) : Text := e.level.title ++ " " ++ e.message ++ e.fields.flatMap fieldText ++ "\n"

inductive Note
  | text (t : Text)
  | event (e : Event)
  deriving DecidableEq, Repr

namespace Note

/-- The event, if the log lets it through. -/
def logged (passes : Event → Bool) (e : Event) : List Note := if passes e then [.event e] else []

/-- The text of the notes, where `line n e` is what the log writes for the event `e` after `n` others. -/
def render (line : Nat → Event → Text) (n : Nat) : List Note → Text
  | [] => []
  | .text t :: ns => t ++ render line n ns
  | .event e :: ns => line n e ++ render line (n + 1) ns

end Note

end DartTransfer.CommandLine

import DartTransfer.Edit
import DartTransfer.Text.Quoted
import DartTransfer.Toml.Document

/-!
# Faults

Everything that can stop a run, by cause, with the wording of each in `message` and what it is about in
`kind`.
-/

namespace DartTransfer

/-- Why a file cannot be read or written. -/
inductive FileFault
  | missing
  | isDirectory
  | notDirectory
  | nameTooLong
  | notUtf8
  | other (reason : Text)
  deriving DecidableEq, Repr

def FileFault.message : FileFault → Text
  | missing => "No such file or directory (os error 2)"
  | isDirectory => "Is a directory (os error 21)"
  | notDirectory => "Not a directory (os error 20)"
  | nameTooLong => "File name too long (os error 36)"
  | notUtf8 => "stream did not contain valid UTF-8"
  | other reason => reason

inductive SettingsFault
  | unreadable (path : Text) (fault : FileFault)
  | notToml (fault : Toml.Fault)
  /-- A setting has a value of the wrong type. -/
  | mistyped
  | badSuffix (suffix : Text)
  deriving DecidableEq, Repr

def SettingsFault.message : SettingsFault → Text
  | unreadable path fault => "failed to read " ++ path ++ ": " ++ fault.message
  | notToml .malformed | mistyped => "TOML parse error"
  | notToml .deepKey => "recursion limit\n"
  | badSuffix suffix => "suffix " ++ suffix.quoted ++ " must contain only letters, digits, '_' or '$'"

inductive Fault
  | noTarget
  | suffixCancelled
  | styleCancelled
  | noClass
  | noFields (className : Text)
  | invalidEdit (fault : EditFault)
  | unknownStyle (label : Text)
  | settings (fault : SettingsFault)
  deriving DecidableEq, Repr

/-- What a fault is about. -/
inductive FaultKind
  /-- There is no text, or an answer was refused, before a text was looked at. -/
  | userAbort
  /-- The text has no class to generate from. -/
  | structuralMismatch
  /-- Settings, labels or edits make no sense. -/
  | invalid
  deriving DecidableEq, Repr

def Fault.kind : Fault → FaultKind
  | noTarget | suffixCancelled | styleCancelled => .userAbort
  | noClass | noFields _ => .structuralMismatch
  | invalidEdit _ | unknownStyle _ | settings _ => .invalid

def Fault.message : Fault → Text
  | noTarget => "no active target to generate from"
  | suffixCancelled => "suffix prompt cancelled"
  | styleCancelled => "no naming style selected"
  | noClass => "no class declaration found"
  | noFields className => "no fields found in class " ++ className
  | invalidEdit fault => "invalid edit: " ++ fault.message
  | unknownStyle label => "unknown naming style: " ++ label
  | settings fault => "configuration error: " ++ fault.message

end DartTransfer

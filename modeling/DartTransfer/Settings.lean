import DartTransfer.Fault
import DartTransfer.Options

/-!
# Settings

What a settings file may fix in advance. A suffix or a style that is not set is asked for when a run
starts.
-/

namespace DartTransfer

structure Settings where
  suffix : Option Text := none
  /-- The suffix that is offered where none is set. -/
  defaultSuffix : Text := "DTO"
  style : Option KeyStyle := none
  discovery : Discovery := .single
  extraction : Extraction := .directiveAware
  nullability : Nullability := .byConstructor
  copyWith : Bool := true
  equality : Bool := true
  deriving DecidableEq, Repr

namespace Settings

/-- The first suffix that would not make an identifier of a class name. -/
def badSuffix? (s : Settings) : Option Text :=
  (s.suffix.toList ++ [s.defaultSuffix]).find? fun t => !isIdentifierTail t

def validate (s : Settings) : Except SettingsFault Settings :=
  match s.badSuffix? with
  | some t => .error (.badSuffix t)
  | none => .ok s

/-- The options of a run, once the suffix and the style are known. -/
def options (s : Settings) (suffix : Text) (style : KeyStyle) : Options :=
  { suffix
    style
    discovery := s.discovery
    extraction := s.extraction
    nullability := s.nullability
    copyWith := s.copyWith
    equality := s.equality }

end Settings

end DartTransfer

import DartTransfer.KeyStyle

/-!
# Options of a generation run

What one run needs to know besides the text, and the labels under which the choices appear in
settings files and on the command line.
-/

namespace DartTransfer

/-- Which classes of a text are taken. -/
inductive Discovery
  | single
  | multi
  deriving DecidableEq, Repr

/-- Which lines of a class body are fields. -/
inductive Extraction
  | directiveAware
  | permissive
  deriving DecidableEq, Repr

/-- What decides whether a field is nullable. -/
inductive Nullability
  /-- Its absence from the required parameters, where the class has a constructor. -/
  | byConstructor
  /-- The `?` after its type. -/
  | byMarker
  deriving DecidableEq, Repr

namespace Discovery

def all : List Discovery := [single, multi]

def label : Discovery → Text
  | single => "single"
  | multi => "multi"

def title : Discovery → Text
  | single => "Single"
  | multi => "Multi"

def ofLabel? (l : Text) : Option Discovery := all.find? (·.label == l)

end Discovery

namespace Extraction

def all : List Extraction := [directiveAware, permissive]

def label : Extraction → Text
  | directiveAware => "directive-aware"
  | permissive => "permissive"

def title : Extraction → Text
  | directiveAware => "DirectiveAware"
  | permissive => "Permissive"

def ofLabel? (l : Text) : Option Extraction := all.find? (·.label == l)

end Extraction

namespace Nullability

def all : List Nullability := [byConstructor, byMarker]

def label : Nullability → Text
  | byConstructor => "constructor"
  | byMarker => "type-marker"

def title : Nullability → Text
  | byConstructor => "Constructor"
  | byMarker => "TypeMarker"

def ofLabel? (l : Text) : Option Nullability := all.find? (·.label == l)

end Nullability

structure Options where
  /-- What the name of a generated class adds to the name of its source class. -/
  suffix : Text := "DTO"
  style : KeyStyle := .asDeclared
  discovery : Discovery := .single
  extraction : Extraction := .directiveAware
  nullability : Nullability := .byConstructor
  /-- Whether `copyWith` is generated. -/
  copyWith : Bool := true
  /-- Whether `props`, or `==` and `hashCode`, are generated. -/
  equality : Bool := true
  deriving DecidableEq, Repr

/-- Whether the text can follow an identifier, so that the two make one identifier. -/
def isIdentifierTail (t : Text) : Bool := t.all fun c => c.isAlphanum || c == '_' || c == '$'

end DartTransfer

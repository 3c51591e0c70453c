import DartTransfer.Directive

/-!
# Fields

A resolved field of a data class. Its value kind says how it crosses the map boundary: built-in
types are copied, enum values go through a pair of name-based functions, and everything else is
taken for another data class, whose companion carries the suffix.
-/

namespace DartTransfer

inductive ValueKind
  | plain
  | enumerated
  | nested
  deriving DecidableEq, Repr

/-- The types that maps hold as they are. -/
def builtinTypes : List Text :=
  ["String", "int", "double", "num", "bool", "dynamic", "Object", "List", "Map"]

/-- The name of a type without its arguments and its library. -/
def baseTypeName (type : Text) : Text :=
  (Text.splitEnd (· != '.') (Text.trim (type.takeWhile (· != '<')))).2

/-- The kind of a type for which no comment says otherwise. -/
def ValueKind.ofType (type : Text) : ValueKind :=
  if builtinTypes.contains (baseTypeName type) then plain else nested

/-- The class generated for a type: the suffix stands before the type arguments. -/
def companionType (type suffix : Text) : Text :=
  type.takeWhile (· != '<') ++ suffix ++ type.dropWhile (· != '<')

def ValueKind.title : ValueKind → Text
  | plain => "Plain"
  | enumerated => "Enum"
  | nested => "Nested"

structure Field where
  /-- The declared type, without a `?` after it. -/
  type : Text
  name : Text
  nullable : Bool
  /-- The external key. -/
  key : Text
  kind : ValueKind
  templates : Templates
  /-- The comment lines above the field that are not directives. -/
  docs : List Text
  deriving DecidableEq, Repr

namespace Field

def isEnum (f : Field) : Bool := f.kind == .enumerated

def isNested (f : Field) : Bool := f.kind == .nested

/-- The type of the generated field; `dynamic` holds null without a `?`. -/
def generatedType (f : Field) (suffix : Text) : Text :=
  let base := if f.isNested && f.templates.isEmpty then companionType f.type suffix else f.type
  if f.nullable && base != "dynamic" then base ++ "?" else base

end Field

end DartTransfer

import DartTransfer.Constructor
import DartTransfer.Declaration
import DartTransfer.Field
import DartTransfer.Options
import DartTransfer.SourceClass

/-!
# Data classes

A located class becomes a data class when its body declares a field: each declared field is resolved
by its comments, the options and the class's constructor (`DataClass.ofSource?`).
-/

namespace DartTransfer

structure DataClass where
  name : Text
  body : Text
  span : Span
  /-- Whether the source brings in value equality. -/
  usesEquatable : Bool
  fields : List Field
  deriving DecidableEq, Repr

namespace DeclaredField

/-- Nullability: a constructor decides if there is one, and otherwise the `?` does. -/
def isNullable (f : DeclaredField) (c : Option Constructor) : Bool :=
  match c with
  | some c => !c.requires f.name
  | none => f.isMarked

def resolve (o : Options) (c : Option Constructor) (f : DeclaredField) : Field :=
  let metadata := Metadata.ofComments f.comments
  { type := f.type
    name := f.name
    nullable := f.isNullable c
    key := o.style.convert f.name
    kind := if metadata.isEnum then .enumerated else .ofType f.type
    templates := metadata.templates
    docs := f.leading.filter fun t => (Directive.parse? t).isNone }

end DeclaredField

namespace SourceClass

/-- The classes that a run looks at. -/
def locate : Discovery → Text → List SourceClass
  | .single, t => (first? t).toList
  | .multi, t => all t

def declaredFields (c : SourceClass) : Extraction → List DeclaredField
  | .directiveAware => commentedFields c.body
  | .permissive => permissiveFields c.body

/-- The constructor that decides nullability, if the options let one decide. -/
def decidingConstructor? (c : SourceClass) : Nullability → Option Constructor
  | .byConstructor => Constructor.find? c.body c.name
  | .byMarker => none

end SourceClass

namespace DataClass

def ofSource? (o : Options) (c : SourceClass) : Option DataClass :=
  match c.declaredFields o.extraction with
  | [] => none
  | fs =>
    let constructor := c.decidingConstructor? o.nullability
    some
      { name := c.name
        body := c.body
        span := c.span
        usesEquatable := c.usesEquatable
        fields := fs.map (·.resolve o constructor) }

end DataClass

end DartTransfer

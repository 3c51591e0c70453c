import DartTransfer.Text.Word

/-!
# Directives

A comment may direct how its field crosses the map boundary: `Type: enum` makes it enum-valued, and
`Parsing: decode, encode` gives the two conversions as templates in which the word `value` stands
for the value that is converted. `Directive.parse?` reads one comment, `Metadata.ofComments` all
comments of a field, and `substitute` fills a template in.
-/

namespace DartTransfer

inductive Directive
  | enumMarker
  | parsing (decode encode : Text)
  deriving DecidableEq, Repr

namespace Directive

/-- Where a scan for the separating comma stands: how many brackets and which quote are open. -/
structure Nesting where
  depth : Nat := 0
  quote : Option Char := none
  deriving DecidableEq, Repr

namespace Nesting

def isTop (n : Nesting) : Bool := n.depth == 0 && n.quote.isNone

/-- All four kinds of brackets share one depth, which a closing bracket never takes below zero. -/
def step (n : Nesting) (c : Char) : Nesting :=
  match n.quote with
  | some q => if c == q then { n with quote := none } else n
  | none =>
    if c == '\'' || c == '"' then { n with quote := some c }
    else if c == '(' || c == '[' || c == '\x7b' || c == '<' then { n with depth := n.depth + 1 }
    else if c == ')' || c == ']' || c == '\x7d' || c == '>' then { n with depth := n.depth - 1 }
    else n

end Nesting

/-- The two sides of the first comma that stands outside brackets and quotes. -/
def splitAtComma? (n : Nesting) : Text → Option (Text × Text)
  | [] => none
  | c :: t =>
    if c == ',' && n.isTop then some ([], t)
    else (splitAtComma? (n.step c) t).map fun (s, r) => (c :: s, r)

/-- Equality up to the case of ASCII letters. -/
def sameLetters (s t : Text) : Bool := s.map Char.toLower == t.map Char.toLower

/-- The key and the payload of a comment of the form `key: payload`, both without blanks around
them. -/
def keyAndPayload? (comment : Text) : Option (Text × Text) :=
  let t := Text.trimStart comment
  let key := t.takeWhile Char.isAlpha
  match Text.trimStart (t.dropWhile Char.isAlpha) with
  | ':' :: r =>
    let payload := Text.trim r
    if key.isEmpty || payload.contains '\n' then none else some (key, payload)
  | _ => none

def parse? (comment : Text) : Option Directive :=
  match keyAndPayload? comment with
  | none => none
  | some (key, payload) =>
    if sameLetters key "type" then
      if sameLetters payload "enum" then some enumMarker else none
    else if sameLetters key "parsing" then
      match splitAtComma? {} payload with
      | none => none
      | some (s, r) =>
        if s.trim.isEmpty || r.trim.isEmpty then none else some (parsing s.trim r.trim)
    else none

end Directive

/-- Every whole word `value` of the text gives way to `replacement`, which is not looked at
again. -/
def substituteAfter (before : Option Char) (replacement : Text) (t : Text) : Text :=
  match _h : Text.wordAt? "value" before t with
  | some r => replacement ++ substituteAfter (some 'e') replacement r
  | none =>
    match t with
    | [] => []
    | c :: r => c :: substituteAfter (some c) replacement r
termination_by t.length
decreasing_by
  · have := Text.length_of_wordAt? _h; simp at this; omega
  · simp

/-- The template with `replacement` for the value. -/
def substitute (template replacement : Text) : Text := substituteAfter none replacement template

/-- The conversions that a field's comments give. -/
structure Templates where
  decode : Option Text := none
  encode : Option Text := none
  deriving DecidableEq, Repr

namespace Templates

def isEmpty (t : Templates) : Bool := t.decode.isNone && t.encode.isNone

def decodeOf (t : Templates) (source : Text) : Option Text := t.decode.map (substitute · source)

def encodeOf (t : Templates) (source : Text) : Option Text := t.encode.map (substitute · source)

def ofDirective? : Directive → Option Templates
  | .enumMarker => none
  | .parsing d e => some ⟨some d, some e⟩

end Templates

structure Metadata where
  isEnum : Bool := false
  templates : Templates := {}
  deriving DecidableEq, Repr

/-- Any enum marker counts; of several `Parsing` directives the first does. -/
def Metadata.ofComments (comments : List Text) : Metadata :=
  let directives := comments.filterMap Directive.parse?
  ⟨directives.contains .enumMarker, (directives.findSome? Templates.ofDirective?).getD {}⟩

end DartTransfer

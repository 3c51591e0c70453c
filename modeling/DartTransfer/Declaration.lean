import DartTransfer.Text.Lines
import DartTransfer.Text.Word

/-!
# Field declarations

A declaration is a line `modifiers type? name; rest`, read from its first semicolon leftwards, where
every part is the longest that fits: `Declaration.parse?`. A class body yields its declarations line
by line: all of them, without comments (`permissiveFields`), or the final ones, each with the
comments that belong to it (`commentedFields`). To a field belong the comment after its semicolon,
the `//` lines right below it, and the run of comment lines above it that no earlier field has
taken.
-/

namespace DartTransfer

def modifierWords : List Text := ["final", "late", "static", "const", "var", "covariant", "external"]

/-- Modifiers of declarations that are no instance fields to transfer. -/
def excludedModifiers : List Text := ["static", "const", "late"]

/-- The words that start a statement of two words without being a type. -/
def statementWords : List Text :=
  ["return", "throw", "await", "yield", "else", "case", "break", "continue", "assert",
    "new", "import", "export", "part", "library", "typedef", "get", "set", "operator",
    "final", "late", "var", "const", "static"]

structure Declaration where
  type : Text
  name : Text
  /-- Whether a `?` follows the type. -/
  isMarked : Bool
  isFinal : Bool
  /-- The line after the semicolon. -/
  rest : Text
  deriving DecidableEq, Repr

namespace Declaration

def isTypePart (c : Char) : Bool := isIdentifierPart c || c == '.'

/-- Type arguments: none, or anything between angle brackets that has no `=` in it. -/
def areTypeArguments (t : Text) : Bool := t.isEmpty || (t.getLast? == some '>' && !t.contains '=')

/-- The modifier words and the type that make up the text. -/
def modifiersAndType? (t : Text) : Option (List Text × Text) :=
  let front := t.takeWhile (· != '<')
  let arguments := t.dropWhile (· != '<')
  let (lead, name) := Text.splitEnd isTypePart front
  let modifiers := Text.words lead
  if areTypeArguments arguments && name.head?.any isIdentifierStart &&
      modifiers.all modifierWords.contains then
    some (modifiers, name ++ arguments)
  else none

/-- The text less a `?` at its end, and whether there was one. -/
def splitMark (t : Text) : Text × Bool :=
  if t.getLast? == some '?' then (t.dropLast, true) else (t, false)

def parse? (line : Text) : Option Declaration :=
  match line.dropWhile (· != ';') with
  | [] => none
  | _ :: rest =>
    let (lead, name) := Text.splitEnd isIdentifierPart (Text.trimEnd (line.takeWhile (· != ';')))
    let (front, isMarked) := splitMark (Text.trimEnd lead)
    match modifiersAndType? front with
    | none => none
    | some (modifiers, type) =>
      if name.head?.any isIdentifierStart && lead.getLast?.any isBlank &&
          !modifiers.any excludedModifiers.contains && !statementWords.contains type then
        some ⟨type, name, isMarked, modifiers.contains "final", rest⟩
      else none

end Declaration

/-- The text of a line that is a `//` or `///` comment. -/
def commentText? (line : Text) : Option Text :=
  (Text.stripPrefix? "//" (Text.trimStart line)).map fun t => Text.trim (t.dropWhile (· == '/'))

/-- The text of a `//` comment; a `///` comment documents what follows it. -/
def ownCommentText? (line : Text) : Option Text :=
  if List.isPrefixOf "///" (Text.trimStart line) then none else commentText? line

/-- A declared field with its comments, before directives are looked at. -/
structure DeclaredField where
  type : Text
  name : Text
  isMarked : Bool
  leading : List Text
  trailing : List Text
  deriving DecidableEq, Repr

namespace DeclaredField

def ofDeclaration (d : Declaration) (leading trailing : List Text) : DeclaredField :=
  ⟨d.type, d.name, d.isMarked, leading, trailing⟩

def comments (f : DeclaredField) : List Text := f.leading ++ f.trailing

end DeclaredField

/-- The texts of the `//` comments at the head of the lines. -/
def ownCommentRun : List Text → List Text
  | [] => []
  | l :: ls =>
    match ownCommentText? l with
    | some t => t :: ownCommentRun ls
    | none => []

/-- The final fields that the lines declare; `above` is the run of comments that ends above them. -/
def commentedFieldsAfter (above : List Text) : List Text → List DeclaredField
  | [] => []
  | l :: ls =>
    match (Declaration.parse? l).filter (·.isFinal) with
    | some d =>
      let below := ownCommentRun ls
      .ofDeclaration d above ((commentText? d.rest).toList ++ below) ::
        commentedFieldsAfter [] (ls.drop below.length)
    | none =>
      match commentText? l with
      | some t => commentedFieldsAfter (above ++ [t]) ls
      | none => commentedFieldsAfter [] ls
termination_by ls => ls.length
decreasing_by
  · simp only [List.length_drop, List.length_cons]; omega
  · simp
  · simp

def commentedFields (body : Text) : List DeclaredField := commentedFieldsAfter [] (Text.lines body)

def permissiveFields (body : Text) : List DeclaredField :=
  (Text.lines body).filterMap fun l => (Declaration.parse? l).map (.ofDeclaration · [] [])

end DartTransfer

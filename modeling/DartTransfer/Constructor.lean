import DartTransfer.Text.Word

/-!
# Constructors

The unnamed constructor of a class is taken to be the first place in the body where the class name
is followed by an opening parenthesis, unless something before the name makes it part of another
name. What counts about it is which fields it requires: `required this.name` among its parameters.
A name may be of any length here; that a pattern for one of millions of characters may be too large to
be built, and then finds nothing, is left out.
-/

namespace DartTransfer

structure Constructor where
  /-- The names that the parameters require. -/
  required : List Text
  deriving DecidableEq, Repr

namespace Constructor

/-- Whether a character continues a name to its right, as a qualifier does. -/
def joinsName (c : Char) : Bool := isIdentifierPart c || c == '.'

/-- What follows the parenthesis that a call of `name` at the head of the text opens. -/
def callAt? (name : Text) (before : Option Char) (t : Text) : Option Text :=
  if before.any joinsName then none
  else match (Text.stripPrefix? name t).map Text.trimStart with
    | some ('(' :: r) => some r
    | _ => none

/-- What follows the parenthesis of the first call of `name`. -/
def firstCall? (name : Text) (before : Option Char) : Text → Option Text
  | [] => none
  | c :: t =>
    match callAt? name before (c :: t) with
    | some r => some r
    | none => firstCall? name (some c) t

/-- The text up to the parenthesis that closes the one before it, or all of it; `depth` more are
open. -/
def upToClose (depth : Nat) : Text → Text
  | [] => []
  | c :: t =>
    if c == '(' then c :: upToClose (depth + 1) t
    else if c == ')' then
      match depth with
      | 0 => []
      | d + 1 => c :: upToClose d t
    else c :: upToClose depth t

/-- The name in `required this.name` at the head of the text, and the rest. -/
def requiredAt? (before : Option Char) (t : Text) : Option (Text × Text) :=
  (Text.wordAt? "required" before t).bind fun r =>
    (Text.afterBlanks? r).bind fun r =>
      (Text.stripPrefix? "this." r).bind Text.identifier?

theorem length_of_requiredAt? {before : Option Char} {t n r : Text} (h : requiredAt? before t = some (n, r)) :
    r.length < t.length := by
  obtain ⟨r₁, h₁, h⟩ := Option.bind_eq_some_iff.mp h
  obtain ⟨r₂, h₂, h⟩ := Option.bind_eq_some_iff.mp h
  obtain ⟨r₃, h₃, h⟩ := Option.bind_eq_some_iff.mp h
  have l₁ := Text.length_of_wordAt? h₁
  have l₂ := Text.length_of_afterBlanks? h₂
  have l₃ := Text.length_of_stripPrefix? h₃
  have l₄ := congrArg List.length (Text.append_of_identifier? h)
  simp at l₁ l₃ l₄
  omega

/-- The required names, from left to right. -/
def requiredNames (before : Option Char) (t : Text) : List Text :=
  match _h : requiredAt? before t with
  | some (n, r) => n :: requiredNames n.getLast? r
  | none =>
    match t with
    | [] => []
    | c :: r => requiredNames (some c) r
termination_by t.length
decreasing_by
  · exact length_of_requiredAt? _h
  · simp

def find? (body className : Text) : Option Constructor :=
  (firstCall? className none body).map fun r => ⟨requiredNames none (upToClose 0 r)⟩

def requires (c : Constructor) (name : Text) : Bool := c.required.contains name

end Constructor

end DartTransfer

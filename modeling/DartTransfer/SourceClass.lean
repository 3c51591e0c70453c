import DartTransfer.Edit
import DartTransfer.Text.Word

/-!
# Classes in a source text

`SourceClass.first?` takes the first `class Name` of a text and lets the class run to the end of the
text; `SourceClass.all` finds every `class Name ... { ... }`, each body ending at its first closing
brace. Braces are not balanced, and the header of a class is whatever stands between its name and
the next opening brace.
-/

namespace DartTransfer

/-- `class`, blanks and a name, as they stand in a text. -/
structure Heading where
  /-- The keyword and the blanks after it. -/
  lead : Text
  name : Text
  /-- The text after the name. -/
  rest : Text
  deriving DecidableEq, Repr

namespace Heading

def at? (before : Option Char) (t : Text) : Option Heading :=
  match Text.wordAt? "class" before t with
  | none => none
  | some r =>
    let gap := r.takeWhile isBlank
    if gap.isEmpty then none
    else match Text.identifier? (r.dropWhile isBlank) with
      | some (name, rest) => some ⟨"class" ++ gap, name, rest⟩
      | none => none

/-- The first heading, and the text ahead of it. -/
def find? (before : Option Char) : Text → Option (Text × Heading)
  | [] => none
  | c :: t =>
    match at? before (c :: t) with
    | some h => some ([], h)
    | none => (find? (some c) t).map fun (s, h) => (c :: s, h)

theorem length_of_at? {before : Option Char} {t : Text} {h : Heading} (e : at? before t = some h) :
    h.rest.length < t.length := by
  simp only [at?] at e
  split at e
  · simp at e
  · next r hr =>
    split at e
    · simp at e
    · split at e
      · next n s hs =>
        cases e
        have l₁ := Text.length_of_wordAt? hr
        have l₂ := Text.length_trimStart_le r
        have l₃ := congrArg List.length (Text.append_of_identifier? hs)
        simp [Text.trimStart] at l₁ l₂ l₃ ⊢
        omega
      · simp at e

theorem length_of_find? {before : Option Char} {t s : Text} {h : Heading} (e : find? before t = some (s, h)) :
    h.rest.length < t.length := by
  induction t generalizing before s with
  | nil => simp [find?] at e
  | cons c t ih =>
    simp only [find?] at e
    split at e
    · next h' hh => cases e; exact length_of_at? hh
    · obtain ⟨⟨s', h'⟩, e', e''⟩ := Option.map_eq_some_iff.mp e
      cases e''
      exact Nat.lt_succ_of_lt (ih e')

end Heading

/-- The two sides of the first `c`, which goes. -/
def Text.splitAt? (c : Char) (t : Text) : Option (Text × Text) :=
  match t.dropWhile (· != c) with
  | [] => none
  | _ :: r => some (t.takeWhile (· != c), r)

theorem Text.length_of_splitAt? {c : Char} {t s r : Text} (h : splitAt? c t = some (s, r)) :
    s.length + r.length + 1 = t.length := by
  have l := congrArg List.length (List.takeWhile_append_dropWhile (p := (· != c)) (l := t))
  simp only [splitAt?] at h
  split at h
  · simp at h
  · next d r' e =>
    cases h
    rw [e] at l
    simp at l
    omega

structure SourceClass where
  name : Text
  /-- The text between the name and the opening brace. -/
  header : Text
  body : Text
  /-- The place of the declaration in the text. -/
  span : Span
  deriving DecidableEq, Repr

namespace SourceClass

/-- The first class; its body is all that follows the opening brace. -/
def first? (t : Text) : Option SourceClass :=
  (Heading.find? none t).map fun (skipped, h) =>
    { name := h.name
      header := h.rest.takeWhile (· != '\x7b')
      body := (h.rest.dropWhile (· != '\x7b')).drop 1
      span := ⟨skipped.byteLength, t.byteLength⟩ }

/-- The classes of `t`, a text that starts at `position` after the character `before`. -/
def allFrom (position : Nat) (before : Option Char) (t : Text) : List SourceClass :=
  match _h : Heading.find? before t with
  | none => []
  | some (skipped, h) =>
    match _hb : h.rest.splitAt? '\x7b' with
    | none => []
    | some (header, r) =>
      match _hc : Text.splitAt? '\x7d' r with
      | none => []
      | some (body, r) =>
        let start := position + skipped.byteLength
        let stop := start + Text.byteLength (h.lead ++ h.name ++ header ++ "\x7b" ++ body ++ "\x7d")
        ⟨h.name, header, body, ⟨start, stop⟩⟩ :: allFrom stop (some '\x7d') r
termination_by t.length
decreasing_by
  have := Heading.length_of_find? _h
  have := Text.length_of_splitAt? _hb
  have := Text.length_of_splitAt? _hc
  omega

def all (t : Text) : List SourceClass := allFrom 0 none t

/-- Whether `extends Equatable` stands at the head of the text. -/
def extendsEquatableAt (before : Option Char) (t : Text) : Bool :=
  match (Text.wordAt? "extends" before t).bind Text.afterBlanks? with
  | some r => (Text.wordAt? "Equatable" none r).isSome
  | none => false

def mentionsEquatable (before : Option Char) : Text → Bool
  | [] => false
  | c :: t =>
    (Text.wordAt? "EquatableMixin" before (c :: t)).isSome || extendsEquatableAt before (c :: t) ||
      mentionsEquatable (some c) t

/-- Whether the header brings in value equality, by the mixin or by the base class. -/
def usesEquatable (c : SourceClass) : Bool := mentionsEquatable none c.header

end SourceClass

end DartTransfer

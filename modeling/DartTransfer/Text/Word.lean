import DartTransfer.Text.Word.Ranges
import DartTransfer.Text.Blank

/-!
# Words and identifiers

A word is a maximal run of word characters (Unicode letters, marks, decimal digits, connectors and
joiners). `wordAt?` finds a given word at the head of a text and needs the character before, because
a word does not start inside another one. Identifiers start with an ASCII letter, `_` or `$` and go
on with word characters and `$`.
-/

namespace DartTransfer

def isWord (c : Char) : Bool := c.isAlphanum || c == '_' || wordRanges.has c

def isIdentifierStart (c : Char) : Bool := c.isAlpha || c == '_' || c == '$'

def isIdentifierPart (c : Char) : Bool := isWord c || c == '$'

theorem isIdentifierPart_of_isIdentifierStart {c : Char} (h : isIdentifierStart c = true) :
    isIdentifierPart c = true := by
  simp only [isIdentifierStart, Bool.or_eq_true] at h
  rcases h with (h | h) | h <;> simp [isIdentifierPart, isWord, Char.isAlphanum, h]

namespace Text

/-- What follows the word `w` at the head of `t`, where `before` is the character ahead of `t`, if
any. -/
def wordAt? (w : Text) (before : Option Char) (t : Text) : Option Text :=
  if before.any isWord then none
  else match stripPrefix? w t with
    | some r => if r.head?.any isWord then none else some r
    | none => none

/-- The longest identifier at the head of the text, and the rest. -/
def identifier? : Text → Option (Text × Text)
  | [] => none
  | c :: t =>
    if isIdentifierStart c then some (c :: t.takeWhile isIdentifierPart, t.dropWhile isIdentifierPart)
    else none

/-- The text after at least one blank, with all blanks gone. -/
def afterBlanks? : Text → Option Text
  | [] => none
  | c :: t => if isBlank c then some (trimStart t) else none

theorem append_of_identifier? {t n r : Text} (h : identifier? t = some (n, r)) : t = n ++ r := by
  cases t with
  | nil => simp [identifier?] at h
  | cons c t =>
    simp only [identifier?] at h
    split at h
    · obtain ⟨rfl, rfl⟩ := Prod.mk.inj (Option.some.inj h)
      simp
    · simp at h

theorem length_of_wordAt? {w t r : Text} {b : Option Char} (h : wordAt? w b t = some r) :
    r.length + w.length = t.length := by
  simp only [wordAt?] at h
  split at h
  · simp at h
  · split at h
    · next r' hr =>
      split at h
      · simp at h
      · cases h; exact length_of_stripPrefix? hr
    · simp at h

theorem length_trimStart_le (t : Text) : (trimStart t).length ≤ t.length := by
  induction t with
  | nil => simp [trimStart]
  | cons c t ih =>
    rw [trimStart, List.dropWhile_cons]
    split
    · exact Nat.le_succ_of_le ih
    · simp

theorem length_of_afterBlanks? {t r : Text} (h : afterBlanks? t = some r) : r.length < t.length := by
  cases t with
  | nil => simp [afterBlanks?] at h
  | cons c t =>
    simp only [afterBlanks?] at h
    split at h
    · cases h; exact Nat.lt_succ_of_le (length_trimStart_le t)
    · simp at h

end Text

end DartTransfer

import DartTransfer.Text.Basic

/-!
# Blanks

A blank is a character of Unicode's `White_Space`. The trimming functions take away the blanks at
one end or at both; what `trimEnd` takes away is `blankEnd`, so the two make up the text
(`trimEnd_append_blankEnd`).
-/

namespace DartTransfer

/-- Unicode's `White_Space`: the line and tab controls, the spaces and the two separators. -/
def isBlank (c : Char) : Bool :=
  let n := c.toNat
  (0x09 ≤ n && n ≤ 0x0D) || n == 0x20 || n == 0x85 || n == 0xA0 || n == 0x1680 ||
    (0x2000 ≤ n && n ≤ 0x200A) || n == 0x2028 || n == 0x2029 || n == 0x202F || n == 0x205F || n == 0x3000

namespace Text

def trimStart (t : Text) : Text := t.dropWhile isBlank

def trimEnd (t : Text) : Text := (splitEnd isBlank t).1

/-- The blanks at the end of the text. -/
def blankEnd (t : Text) : Text := (splitEnd isBlank t).2

def trim (t : Text) : Text := trimEnd (trimStart t)

theorem trimEnd_append_blankEnd (t : Text) : trimEnd t ++ blankEnd t = t :=
  splitEnd_append isBlank t

/-- The maximal runs of characters that are not blank. -/
def words : Text → List Text
  | [] => []
  | c :: t =>
    if isBlank c then words t
    else match t, words t with
      | d :: _, w :: ws => if isBlank d then [c] :: w :: ws else (c :: w) :: ws
      | _, ws => [c] :: ws

end Text

end DartTransfer

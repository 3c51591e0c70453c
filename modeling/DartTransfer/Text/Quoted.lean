import DartTransfer.Text.Basic
import DartTransfer.Text.Quoted.Ranges

/-!
# Quoted texts

A text between double quotes, as messages show it: the usual escapes, and `\u` with the code point
in braces for every character that is invisible or extends the one before it.
-/

namespace DartTransfer

/-- Whether a quoted text gives the character by its code point. -/
def isSpelledOut (c : Char) : Bool :=
  c.toNat < 32 || c.toNat == 127 || invisibleRanges.has c || extendingRanges.has c

namespace Text

def quotedChar (c : Char) : Text :=
  match c with
  | '\x00' => "\\0"
  | '\t' => "\\t"
  | '\r' => "\\r"
  | '\n' => "\\n"
  | '"' => "\\\""
  | '\\' => "\\\\"
  | c => if isSpelledOut c then "\\u\x7b" ++ Nat.toDigits 16 c.toNat ++ "\x7d" else [c]

def quoted (t : Text) : Text := '"' :: (t.flatMap quotedChar ++ ['"'])

end Text

end DartTransfer

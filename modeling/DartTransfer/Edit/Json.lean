import DartTransfer.Edit

/-!
# Edits as JSON

A batch of edits as an indented JSON array, characters beyond ASCII unescaped.
-/

namespace DartTransfer

namespace Text

/-- Two lowercase hexadecimal digits. -/
def hexByte (n : Nat) : Text := [Nat.digitChar (n / 16), Nat.digitChar (n % 16)]

def jsonChar (c : Char) : Text :=
  match c with
  | '"' => "\\\""
  | '\\' => "\\\\"
  | '\x08' => "\\b"
  | '\x0c' => "\\f"
  | '\n' => "\\n"
  | '\r' => "\\r"
  | '\t' => "\\t"
  | c => if c.toNat < 32 then "\\u00" ++ hexByte c.toNat else [c]

def jsonString (t : Text) : Text := '"' :: (t.flatMap jsonChar ++ ['"'])

end Text

namespace Edit

def json (e : Edit) : Text :=
  "  \x7b\n    \"range\": \x7b\n      \"start\": " ++ Text.ofNat e.span.start ++ ",\n      \"end\": " ++
    Text.ofNat e.span.stop ++ "\n    \x7d,\n    \"replacement_text\": " ++ e.replacement.jsonString ++ "\n  \x7d"

def jsonArray (es : List Edit) : Text :=
  if es.isEmpty then "[]" else "[\n" ++ Text.joinWith ",\n" (es.map json) ++ "\n]"

end Edit

end DartTransfer

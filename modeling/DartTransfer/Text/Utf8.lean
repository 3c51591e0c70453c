import DartTransfer.Text.Basic

/-!
# UTF-8

Between texts and the bytes of files and input streams.
-/

namespace DartTransfer

abbrev Bytes := List UInt8

/-- The text whose UTF-8 form the bytes are. -/
def Text.ofUtf8? (bs : Bytes) : Option Text :=
  (String.fromUTF8? ⟨bs.toArray⟩).map String.toList

def Text.toUtf8 (t : Text) : Bytes := (String.ofList t).toUTF8.toList

end DartTransfer

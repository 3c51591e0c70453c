import DartTransfer.Toml.Layout

/-!
# TOML documents

`Toml.document` reads a text into the table that it describes: the layout first, then line by line
the tokens of each line and the place of what it says. The first fault counts, but one of layout
counts before all others.
-/

namespace DartTransfer.Toml

/-- Why a text is no document. -/
inductive Fault
  /-- The layout, a token or a name that is given twice. -/
  | malformed
  /-- More than `maxDepth` parts in a key. -/
  | deepKey
  deriving DecidableEq, Repr

/-- What is there, unless the text is malformed. -/
def orMalformed {α : Type} : Option α → Except Fault α
  | some a => .ok a
  | none => .error .malformed

/-! ### Keys and values -/

/-- The names of a key but the last, and the last. -/
def names (key : List Text) : Except Fault (List Text × Text) := do
  let ns ← orMalformed ((key.take maxDepth).mapM name?)
  if maxDepth < key.length then .error .deepKey
  else match ns.getLast? with
    | some n => .ok (ns.dropLast, n)
    | none => .error .malformed

mutual

def Written.read : Written → Except Fault Value
  | .token t => orMalformed (scalar? t)
  | .array ws => return .array false (← readItems ws)
  | .table es => return .table .inline (← readEntries [] es)

def readItems : List Written → Except Fault (List Value)
  | [] => .ok []
  | w :: ws => do
    let v ← w.read
    return v :: (← readItems ws)

/-- The entries of an inline table, after those that are read already. -/
def readEntries (es : Entries) : List (List Text × Written) → Except Fault Entries
  | [] => .ok es
  | (k, w) :: rest => do
    let (path, key) ← names k
    let v ← w.read
    readEntries (← orMalformed (es.putDotted? path key v .header)) rest

end

/-! ### Lines -/

/-- What is read so far, and the header under which the next lines stand. -/
structure Reading where
  entries : Entries := []
  header : List Text := []

def Reading.add (r : Reading) : Line → Except Fault Reading
  | .header ofItem key => do
    let (path, key) ← names key
    let opened := if ofItem then r.entries.openItem? path key else r.entries.openTable? path key
    return ⟨← orMalformed opened, path ++ [key]⟩
  | .entry key value => do
    let (path, key) ← names key
    let v ← value.read
    return { r with entries := ← orMalformed (r.entries.putUnder? r.header path key v) }

/-- The entries of the document. -/
def document (t : Text) : Except Fault Entries := do
  let r ← (← orMalformed (layout? t)).foldlM Reading.add {}
  return r.entries

end DartTransfer.Toml

import DartTransfer.Text.Basic
import DartTransfer.Text.Case.Tables

/-!
# Upper and lower case

The full case mappings of Unicode: a character may map to several (`ß` to `SS`, `İ` to `i` and a dot
above), and a capital sigma becomes the final `ς` exactly where a word ends. ASCII characters never
reach the tables.
-/

namespace DartTransfer

/-- The image under the run that covers the character; a character outside all runs stays. -/
def mapByRuns (rs : List CaseRun) (c : Char) : Char :=
  match rs.find? (·.covers c.toNat) with
  | some r => Char.ofNat (r.image c.toNat)
  | none => c

def upperOf (c : Char) : Text :=
  if c.toNat < 128 then [c.toUpper]
  else match upperExpansions.lookup c.toNat with
    | some ns => ns.map Char.ofNat
    | none => [mapByRuns upperRuns c]

/-- The lower case of a character on its own. -/
def lowerOf (c : Char) : Text :=
  if c.toNat < 128 then [c.toLower]
  else if c == 'İ' then ['i', '\u0307']
  else [mapByRuns lowerRuns c]

def isCased (c : Char) : Bool := c.isAlpha || casedRanges.has c

def isCaseIgnorable (c : Char) : Bool := caseIgnorableRanges.has c

namespace Text

/-- Whether the first character that counts for casing is cased. -/
def startsCased (t : Text) : Bool := (t.dropWhile isCaseIgnorable).head?.any isCased

/-- `before` is the text already passed, last character first. -/
def lowerAfter (before : Text) : Text → Text
  | [] => []
  | c :: t =>
    let image := if c == 'Σ' then [if startsCased before && !startsCased t then 'ς' else 'σ'] else lowerOf c
    image ++ lowerAfter (c :: before) t

def toLower (t : Text) : Text := lowerAfter [] t

end Text

end DartTransfer

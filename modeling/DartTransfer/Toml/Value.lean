import DartTransfer.Text.Basic

/-!
# TOML values

A document is a table. How a table came about is kept, because it decides which later lines may add
to it: a table of a header may not be named by another header, a table that a header only implies
may, and dotted keys add only to tables that dotted keys made. What a number amounts to does not
matter here, only whether it can be read: one that is out of range is a value like any other until
somebody looks at it.
-/

namespace DartTransfer.Toml

inductive Origin
  /-- Named by a header of its own. -/
  | header
  /-- On the way to a table that a header names. -/
  | implied
  /-- On the way to a dotted key. -/
  | dotted
  | inline
  deriving DecidableEq, Repr

inductive Value
  | string (t : Text)
  | boolean (b : Bool)
  | number (isReadable : Bool)
  | date
  | array (ofTables : Bool) (items : List Value)
  | table (origin : Origin) (entries : List (Text × Value))

abbrev Entries := List (Text × Value)

def changeLast? (f : Value → Option Value) : List Value → Option (List Value)
  | [] => none
  | [v] => (f v).map ([·])
  | v :: vs => (changeLast? f vs).map (v :: ·)

namespace Value

mutual

/-- Whether every number in the value can be read. -/
def isReadable : Value → Bool
  | .string _ | .boolean _ | .date => true
  | .number r => r
  | .array _ vs => areReadable vs
  | .table _ es => haveReadable es

def areReadable : List Value → Bool
  | [] => true
  | v :: vs => isReadable v && areReadable vs

def haveReadable : Entries → Bool
  | [] => true
  | (_, v) :: es => isReadable v && haveReadable es

end

/-- Changes a table, and nothing that is none. -/
def changeTable? (f : Origin → Entries → Option Entries) : Value → Option Value
  | .table o es => (f o es).map (.table o)
  | _ => none

/-- Changes the table to which a key leads: itself if its origin is open, or the last one of an
array of tables. -/
def changeUnder? (isOpen : Origin → Bool) (f : Origin → Entries → Option Entries) : Value → Option Value
  | .array true items => (changeLast? (changeTable? f) items).map (.array true)
  | v => v.changeTable? fun o es => if isOpen o then f o es else none

end Value

namespace Entries

def replace (es : Entries) (key : Text) (v : Value) : Entries :=
  es.map fun (k, w) => if k == key then (k, v) else (k, w)

def add? (es : Entries) (key : Text) (v : Value) : Option Entries :=
  match es.lookup key with
  | some _ => none
  | none => some (es ++ [(key, v)])

/-- Changes the table at the end of a path. Tables that are missing on the way come about as `made`,
and a table of an origin that is not open ends the way. -/
def changeAt? (made : Origin) (isOpen : Origin → Bool) (f : Origin → Entries → Option Entries) :
    List Text → Origin → Entries → Option Entries
  | [], o, es => f o es
  | key :: path, _, es =>
    match es.lookup key with
    | none => (changeAt? made isOpen f path made []).map fun sub => es ++ [(key, .table made sub)]
    | some v => (v.changeUnder? isOpen (changeAt? made isOpen f path)).map (replace es key)

/-- Adds the value of a dotted key to a table. The table that takes the last part is one that dotted
keys made, or the given one if there is no other part. -/
def putDotted? (path : List Text) (key : Text) (v : Value) (o : Origin) (es : Entries) : Option Entries :=
  changeAt? .dotted (fun o => o == .implied || o == .dotted)
    (fun o es => if (o == .dotted) == path.isEmpty then none else es.add? key v) path o es

def openTable? (path : List Text) (key : Text) (es : Entries) : Option Entries :=
  changeAt? .implied (· != .inline) (fun _ es =>
    match es.lookup key with
    | none => some (es ++ [(key, .table .header [])])
    | some (.table .implied sub) => some (replace es key (.table .header sub))
    | some _ => none) path .header es

/-- Opens the next table of the array of tables that a header names. -/
def openItem? (path : List Text) (key : Text) (es : Entries) : Option Entries :=
  changeAt? .implied (· != .inline) (fun _ es =>
    match es.lookup key with
    | none => some (es ++ [(key, .array true [.table .header []])])
    | some (.array true items) => some (replace es key (.array true (items ++ [.table .header []])))
    | some _ => none) path .header es

/-- Adds the value of a dotted key to the table that the last header opened. -/
def putUnder? (header : List Text) (path : List Text) (key : Text) (v : Value) (es : Entries) : Option Entries :=
  changeAt? .implied (fun _ => true) (fun _ es => putDotted? path key v .header es) header .header es

end Entries

end DartTransfer.Toml

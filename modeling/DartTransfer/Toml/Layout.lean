import DartTransfer.Toml.Scalar

/-!
# The layout of TOML documents

A document as it is written: headers and keys with their values, line by line, where dots, brackets,
commas and comments have done their work and names and scalars are still tokens. `Toml.layout?`
gives `none` where the pieces do not fit together; what the tokens mean, and whether the lines go
together, is no matter of layout.
-/

namespace DartTransfer.Toml

/-- A value as it is written, a key by its parts. -/
inductive Written
  | token (t : Text)
  | array (items : List Written)
  | table (entries : List (List Text × Written))

inductive Line
  /-- The header of a table, or of an item of an array of tables. -/
  | header (ofItem : Bool) (key : List Text)
  | entry (key : List Text) (value : Written)

/-! ### Blanks and comments -/

/-- The text after spaces, newlines and comments, or `none` in a bad comment. -/
def skipTrivia? (inComment : Bool) : Text → Option Text
  | [] => some []
  | '\n' :: t => skipTrivia? false t
  | '\r' :: '\n' :: t => skipTrivia? false t
  | c :: t =>
    if inComment then (if isPrintable c then skipTrivia? true t else none)
    else if isSpace c then skipTrivia? false t
    else if c == '#' then skipTrivia? true t
    else some (c :: t)

/-- The text after the end of a line that holds nothing more than a comment. -/
def endLine? (t : Text) : Option Text :=
  let t := skipSpaces t
  let r := if t.head? == some '#' then t.dropWhile isPrintable else t
  if r.isEmpty then some [] else newline? r

/-! ### Tokens -/

/-- A string on one line up to its closing quote, or to the end of the line where there is none. -/
def closeString (q : Char) : Text → Text × Text
  | [] => ([], [])
  | '\n' :: t => ([], '\n' :: t)
  | '\\' :: c :: t =>
    if q == '"' && (c == '\\' || c == '"') then prepend '\\' (prepend c (closeString q t))
    else prepend '\\' (closeString q (c :: t))
  | c :: t => if c == q then ([c], t) else prepend c (closeString q t)

def closeMultiline (q : Char) : Text → Text × Text
  | [] => ([], [])
  | '\\' :: c :: t =>
    if q == '"' && (c == '\\' || c == '"') then prepend '\\' (prepend c (closeMultiline q t))
    else prepend '\\' (closeMultiline q (c :: t))
  | c :: t =>
    let quotes := ((c :: t).takeWhile (· == q)).length
    if quotes < 3 then prepend c (closeMultiline q t)
    else ((c :: t).take (min quotes 5), (c :: t).drop (min quotes 5))

def stringToken? : Text → Option (Text × Text)
  | c :: t =>
    if c != '"' && c != '\'' then none
    else match t with
      | d :: e :: r =>
        if d == c && e == c then some (prepend c (prepend c (prepend c (closeMultiline c r))))
        else some (prepend c (closeString c t))
      | _ => some (prepend c (closeString c t))
  | [] => none

def isSeparator (c : Char) : Bool :=
  isSpace c || c == '\r' || c == '\n' || c == '#' || c == ',' || c == '=' || c == '[' || c == ']' || c == '\x7b' ||
    c == '\x7d'

/-- The token up to the first character that ends it, unless it is empty. -/
def bareToken? (ends : Char → Bool) (t : Text) : Option (Text × Text) :=
  match t.takeWhile (!ends ·) with
  | [] => none
  | token => some (token, t.dropWhile (!ends ·))

/-- The token of a value without quotes. A date and its time may have a space between them. -/
def bareValueToken? (t : Text) : Option (Text × Text) :=
  match bareToken? isSeparator t with
  | some (token, ' ' :: c :: r) =>
    if c.isDigit && date? token == some [] then
      (bareToken? isSeparator (c :: r)).map fun (more, r) => (token ++ " " ++ more, r)
    else some (token, ' ' :: c :: r)
  | r => r

/-! ### Keys -/

def keyPart? (t : Text) : Option (Text × Text) :=
  let t := skipSpaces t
  ((stringToken? t).or (bareToken? (fun c => isSeparator c || c == '.') t)).map fun (k, r) => (k, skipSpaces r)

def keyParts? (fuel : Nat) (t : Text) : Option (List Text × Text) :=
  match fuel, keyPart? t with
  | fuel + 1, some (k, '.' :: r) => (keyParts? fuel r).map fun (ks, r) => (k :: ks, r)
  | _, some (k, r) => some ([k], r)
  | _, none => none

/-- A key; each of its parts but the last takes up a dot. -/
def key? (t : Text) : Option (List Text × Text) := keyParts? t.length t

/-! ### Values -/

abbrev ValueReader := Text → Option (Written × Text)

/-- The items of an array after its bracket or a comma; each takes up a character. -/
def items? (value : ValueReader) : Nat → Text → Option (List Written × Text)
  | 0, _ => none
  | fuel + 1, t => do
    match ← skipTrivia? false t with
    | ']' :: r => some ([], r)
    | t =>
      let (v, r) ← value t
      match ← skipTrivia? false r with
      | ',' :: r => (items? value fuel r).map fun (vs, r) => (v :: vs, r)
      | ']' :: r => some ([v], r)
      | _ => none

/-- The entries of an inline table after its brace or a comma; each takes up a character. -/
def inlineEntries? (value : ValueReader) : Nat → Text → Option (List (List Text × Written) × Text)
  | 0, _ => none
  | fuel + 1, t => do
    match ← skipTrivia? false t with
    | '\x7d' :: r => some ([], r)
    | t =>
      let (k, r) ← key? t
      let r ← expect? '=' (← skipTrivia? false r)
      let (v, r) ← value (← skipTrivia? false r)
      match ← skipTrivia? false r with
      | ',' :: r => (inlineEntries? value fuel r).map fun (es, r) => ((k, v) :: es, r)
      | '\x7d' :: r => some ([(k, v)], r)
      | _ => none

/-- A value in which arrays and inline tables are nested at most so deep. -/
def value? : Nat → ValueReader
  | depth, t =>
    match depth, t with
    | depth + 1, '[' :: r => (items? (value? depth) (r.length + 1) r).map fun (vs, r) => (.array vs, r)
    | depth + 1, '\x7b' :: r =>
      (inlineEntries? (value? depth) (r.length + 1) r).map fun (es, r) => (.table es, r)
    | _, t => ((stringToken? t).or (bareValueToken? t)).map fun (token, r) => (.token token, r)

/-- The greatest depth of values, and the greatest number of parts in a key. -/
def maxDepth : Nat := 80

/-! ### Lines -/

def line? (t : Text) : Option (Line × Text) :=
  match t with
  | '[' :: '[' :: t => do
    let (k, r) ← key? t
    return (.header true k, ← expect? ']' (← expect? ']' r))
  | '[' :: t => do
    let (k, r) ← key? t
    return (.header false k, ← expect? ']' r)
  | t => do
    let (k, r) ← key? t
    let (v, r) ← value? maxDepth (skipSpaces (← expect? '=' r))
    return (.entry k v, r)

/-- The lines to the end of the text; each takes up a character. -/
def lines? : Nat → Text → Option (List Line)
  | 0, _ => none
  | fuel + 1, t => do
    match ← skipTrivia? false t with
    | [] => some []
    | t =>
      let (l, r) ← line? t
      return l :: (← lines? fuel (← endLine? r))

/-- The layout of a document; a byte order mark at its head does not count. -/
def layout? (t : Text) : Option (List Line) :=
  let t := match t with
    | '\uFEFF' :: r => r
    | r => r
  lines? (t.length + 1) t

end DartTransfer.Toml

import DartTransfer.Toml.Value

/-!
# TOML scalars

Strings of the four kinds, and the values written without quotes: booleans, numbers and dates. A
string reader gets the text that follows what opens the string and gives the string and the rest, or
`none` where the format is violated; `name?` and `scalar?` read whole tokens.
-/

namespace DartTransfer.Toml

def isSpace (c : Char) : Bool := c == ' ' || c == '\t'

def skipSpaces (t : Text) : Text := t.dropWhile isSpace

def newline? : Text → Option Text
  | '\n' :: t => some t
  | '\r' :: '\n' :: t => some t
  | _ => none

/-- What may stand in a string or comment besides line endings: anything but control characters, and
the tab. -/
def isPrintable (c : Char) : Bool := c == '\t' || (32 ≤ c.toNat && c.toNat != 127)

/-! ### Strings -/

def hexValue? (c : Char) : Option Nat :=
  if c.isDigit then some (c.toNat - '0'.toNat)
  else if 'a' ≤ c && c ≤ 'f' then some (c.toNat - 'a'.toNat + 10)
  else if 'A' ≤ c && c ≤ 'F' then some (c.toNat - 'A'.toNat + 10)
  else none

def isHexDigit (c : Char) : Bool := (hexValue? c).isSome

def hexNumber? (ds : Text) : Option Nat :=
  ds.foldl (fun n d => n.bind fun n => (hexValue? d).map (16 * n + ·)) (some 0)

def codePoint? (n : Nat) (t : Text) : Option (Char × Text) :=
  if t.length < n then none
  else match hexNumber? (t.take n) with
    | some v => if v.isValidChar then some (Char.ofNat v, t.drop n) else none
    | none => none

def letterEscape? (c : Char) : Option Char :=
  [('b', '\x08'), ('t', '\t'), ('n', '\n'), ('f', '\x0c'), ('r', '\r'), ('e', '\x1b'), ('"', '"'),
    ('\\', '\\')].lookup c

def escapeDigits? (c : Char) : Option Nat := [('x', 2), ('u', 4), ('U', 8)].lookup c

/-- The character that an escape stands for; the backslash is read already. -/
def escape? : Text → Option (Char × Text)
  | [] => none
  | c :: t =>
    match letterEscape? c with
    | some d => some (d, t)
    | none => (escapeDigits? c).bind fun n => codePoint? n t

theorem length_of_codePoint? {n : Nat} {t r : Text} {c : Char} (h : codePoint? n t = some (c, r)) :
    r.length ≤ t.length := by
  simp only [codePoint?] at h
  split at h
  · simp at h
  · split at h
    · split at h
      · cases h; simp
      · simp at h
    · simp at h

theorem length_of_escape? {t r : Text} {c : Char} (h : escape? t = some (c, r)) : r.length ≤ t.length := by
  cases t with
  | nil => simp [escape?] at h
  | cons d t =>
    simp only [escape?] at h
    split at h
    · cases h; simp
    · obtain ⟨n, -, h⟩ := Option.bind_eq_some_iff.mp h
      exact Nat.le_succ_of_le (length_of_codePoint? h)

def prepend (c : Char) (r : Text × Text) : Text × Text := (c :: r.1, r.2)

def basicString? (t : Text) : Option (Text × Text) :=
  match t with
  | [] => none
  | '"' :: r => some ([], r)
  | '\\' :: r =>
    match _h : escape? r with
    | some (c, r) => (basicString? r).map (prepend c)
    | none => none
  | c :: r => if isPrintable c then (basicString? r).map (prepend c) else none
termination_by t.length
decreasing_by
  · have := length_of_escape? _h; simp; omega
  · simp

def literalString? : Text → Option (Text × Text)
  | [] => none
  | '\'' :: r => some ([], r)
  | c :: r => if isPrintable c then (literalString? r).map (prepend c) else none

/-- The end of a string between triple quotes: up to two quotes before the closing ones belong to
the string. -/
def closeTriple? (q : Char) (t : Text) : Option (Text × Text) :=
  let quotes := (t.takeWhile (· == q)).length
  if quotes < 3 then none
  else some (List.replicate (min quotes 5 - 3) q, t.drop (min quotes 5))

def skipBlankLines : Text → Text
  | [] => []
  | '\n' :: t => skipBlankLines t
  | '\r' :: '\n' :: t => skipBlankLines t
  | c :: t => if isSpace c then skipBlankLines t else c :: t

/-- The text after a backslash that ends a line, with the blank lines and the indentation gone. -/
def joinedLine? (t : Text) : Option Text := (newline? (skipSpaces t)).map skipBlankLines

theorem length_skipBlankLines_le (t : Text) : (skipBlankLines t).length ≤ t.length := by
  fun_induction skipBlankLines t with
  | case1 => simp
  | case2 t ih => exact Nat.le_succ_of_le ih
  | case3 t ih => exact Nat.le_succ_of_le (Nat.le_succ_of_le ih)
  | case4 c t _ _ _ ih => exact Nat.le_succ_of_le ih
  | case5 c t _ _ _ => simp

theorem length_of_newline? {t r : Text} (h : newline? t = some r) : r.length ≤ t.length := by
  unfold newline? at h
  split at h
  · cases h; simp
  · cases h; simp only [List.length_cons]; omega
  · simp at h

theorem length_of_joinedLine? {t r : Text} (h : joinedLine? t = some r) : r.length ≤ t.length := by
  obtain ⟨u, hu, rfl⟩ := Option.map_eq_some_iff.mp h
  have h₁ := length_of_newline? hu
  have h₂ : (skipSpaces t).length ≤ t.length := (List.dropWhile_sublist _).length_le
  have h₃ := length_skipBlankLines_le u
  omega

def multilineBasic? (t : Text) : Option (Text × Text) :=
  match closeTriple? '"' t with
  | some r => some r
  | none =>
    match t with
    | [] => none
    | '\n' :: r => (multilineBasic? r).map (prepend '\n')
    | '\r' :: '\n' :: r => (multilineBasic? r).map fun r => prepend '\r' (prepend '\n' r)
    | '\\' :: r =>
      match _h : joinedLine? r with
      | some r => multilineBasic? r
      | none =>
        match _h : escape? r with
        | some (c, r) => (multilineBasic? r).map (prepend c)
        | none => none
    | c :: r => if isPrintable c then (multilineBasic? r).map (prepend c) else none
termination_by t.length
decreasing_by
  · simp
  · simp only [List.length_cons]; omega
  · have := length_of_joinedLine? _h; simp; omega
  · have := length_of_escape? _h; simp; omega
  · simp

def multilineLiteral? (t : Text) : Option (Text × Text) :=
  match closeTriple? '\'' t with
  | some r => some r
  | none =>
    match t with
    | [] => none
    | '\n' :: r => (multilineLiteral? r).map (prepend '\n')
    | '\r' :: '\n' :: r => (multilineLiteral? r).map fun r => prepend '\r' (prepend '\n' r)
    | c :: r => if isPrintable c then (multilineLiteral? r).map (prepend c) else none
termination_by t.length

def afterFirstNewline (t : Text) : Text := (newline? t).getD t

/-- A string on one line, as keys allow it. -/
def quotedKey? : Text → Option (Text × Text)
  | '"' :: t => basicString? t
  | '\'' :: t => literalString? t
  | _ => none

def string? : Text → Option (Text × Text)
  | '"' :: '"' :: '"' :: t => multilineBasic? (afterFirstNewline t)
  | '\'' :: '\'' :: '\'' :: t => multilineLiteral? (afterFirstNewline t)
  | t => quotedKey? t

/-! ### Numbers -/

/-- The digits of a number in which single underscores may stand between digits. -/
def digits? (isDigit : Char → Bool) (t : Text) : Option Text :=
  let ps := Text.splitOn '_' t
  if ps.all fun p => !p.isEmpty && p.all isDigit then some ps.flatten else none

/-- Decimal digits of which the first is zero only if it is the only one. -/
def decimalDigits? (t : Text) : Option Text :=
  (digits? Char.isDigit t).filter fun ds => ds.length == 1 || ds.head? != some '0'

def unsigned (t : Text) : Text :=
  match t with
  | '+' :: r => r
  | '-' :: r => r
  | r => r

def numberIn (base : Nat) (ds : Text) : Nat :=
  ds.foldl (fun n d => base * n + (hexValue? d).getD 0) 0

/-- Whether groups between underscores have digits, hexadecimal ones included, next to each
underscore. -/
def areGroups : List Text → Bool
  | [] => false
  | [g] => g.head?.any isHexDigit
  | g :: gs => g.head?.any isHexDigit && g.getLast?.any isHexDigit && areGroups gs

/-- Whether the text, which has no sign, has the outer form of an integer, though not digits only: a
digit group without a zero ahead, then groups with other characters in them. -/
def isMixedInteger (t : Text) : Bool :=
  (t.dropWhile Char.isDigit).head? == some '_' && t.head? != some '0' && areGroups (Text.splitOn '_' t) &&
    !t.any fun c => c == '.' || c == 'e' || c == 'E'

/-- Whether the digits of an integer without a sign, which may be missing, make a number of 128
bits. -/
def fitsUnsigned (base : Nat) (ds : Text) : Bool := !ds.isEmpty && numberIn base ds < Nat.pow 2 128

/-- The same for decimal digits after the sign of `t`, if there is one. -/
def fitsSigned (t ds : Text) : Bool :=
  numberIn 10 ds < if t.head? == some '-' then Nat.pow 2 127 + 1 else Nat.pow 2 128

/-- The digits after the letter of an integer that is not decimal. None at all has the outer form of
an integer. -/
def radixDigits? (isDigit : Char → Bool) (t : Text) : Option Text :=
  if t.isEmpty then some [] else digits? isDigit t

/-- Whether an integer can be read; `none` if the text has not the form of one. -/
def integer? (t : Text) : Option Bool :=
  match t with
  | '0' :: 'x' :: r => (radixDigits? isHexDigit r).map (fitsUnsigned 16)
  | '0' :: 'o' :: r => (radixDigits? (fun c => '0' ≤ c && c ≤ '7') r).map (fitsUnsigned 8)
  | '0' :: 'b' :: r => (radixDigits? (fun c => c == '0' || c == '1') r).map (fitsUnsigned 2)
  | t =>
    match decimalDigits? (unsigned t) with
    | some ds => some (fitsSigned t ds)
    | none => if isMixedInteger (unsigned t) then some false else none

/-- Whether `digits * 10 ^ exponent` is below the least number that rounds past the largest
double. -/
def isFinite (digits : Nat) (exponent : Int) : Bool :=
  let bound := Nat.pow 2 1024 - Nat.pow 2 970
  let size := (Nat.toDigits 10 digits).length + exponent
  if digits == 0 || size < 300 then true
  else if 320 < size then false
  else if 0 ≤ exponent then digits * Nat.pow 10 exponent.toNat < bound
  else digits < bound * Nat.pow 10 (-exponent).toNat

def exponent? (t : Text) : Option Int :=
  (digits? Char.isDigit (unsigned t)).map fun ds =>
    if t.head? == some '-' then -(numberIn 10 ds : Int) else numberIn 10 ds

/-- Whether a float without its sign can be read; `none` if the text is not a whole part with a
fraction, an exponent or both. -/
def unsignedFloat? (t : Text) : Option Bool := do
  let isExponentLetter (c : Char) := c == 'e' || c == 'E'
  let mantissa := t.takeWhile (!isExponentLetter ·)
  let e ← match t.dropWhile (!isExponentLetter ·) with
    | [] => some 0
    | _ :: r => exponent? r
  let fs ← match mantissa.dropWhile (· != '.') with
    | [] => some []
    | _ :: r => digits? Char.isDigit r
  let ds ← decimalDigits? (mantissa.takeWhile (· != '.'))
  if mantissa.length < t.length || mantissa.contains '.' then
    some (isFinite (numberIn 10 (ds ++ fs)) (e - fs.length))
  else none

def float? (t : Text) : Option Bool :=
  let r := unsigned t
  if r == "inf" || r == "nan" then some true else unsignedFloat? r

/-! ### Dates and times -/

def fixedNumber? (n : Nat) (t : Text) : Option (Nat × Text) :=
  let ds := t.take n
  if ds.length == n && ds.all Char.isDigit then some (numberIn 10 ds, t.drop n) else none

def expect? (c : Char) : Text → Option Text
  | [] => none
  | d :: t => if d == c then some t else none

def daysIn (year month : Nat) : Nat :=
  if month == 2 then (if year % 4 == 0 && (year % 100 != 0 || year % 400 == 0) then 29 else 28)
  else if month == 4 || month == 6 || month == 9 || month == 11 then 30
  else 31

def date? (t : Text) : Option Text := do
  let (year, t) ← fixedNumber? 4 t
  let (month, t) ← fixedNumber? 2 (← expect? '-' t)
  let (day, t) ← fixedNumber? 2 (← expect? '-' t)
  if 1 ≤ month && month ≤ 12 && 1 ≤ day && day ≤ daysIn year month then some t else none

/-- The text after the seconds of a time, which may be left out, and their fraction. -/
def seconds? (t : Text) : Option Text :=
  match t with
  | ':' :: t => do
    let (second, t) ← fixedNumber? 2 t
    if 60 < second then none
    else match t with
      | '.' :: t => if t.head?.any Char.isDigit then some (t.dropWhile Char.isDigit) else none
      | t => some t
  | t => some t

def hourAndMinute? (t : Text) : Option Text := do
  let (hour, t) ← fixedNumber? 2 t
  let (minute, t) ← fixedNumber? 2 (← expect? ':' t)
  if hour ≤ 23 && minute ≤ 59 then some t else none

def time? (t : Text) : Option Text := (hourAndMinute? t).bind seconds?

/-- Whether the text is an offset from universal time, or empty. -/
def isOffset : Text → Bool
  | [] => true
  | [c] => c == 'Z' || c == 'z'
  | c :: t => (c == '+' || c == '-') && hourAndMinute? t == some []

def isDateTime (t : Text) : Bool :=
  match date? t with
  | some [] => true
  | some (c :: r) => (c == 'T' || c == 't' || c == ' ') && (time? r).any isOffset
  | none => time? t == some []

/-! ### Tokens -/

def isBareKeyPart (c : Char) : Bool := c.isAlphanum || c == '_' || c == '-'

def whole? (r : Option (Text × Text)) : Option Text :=
  match r with
  | some (s, []) => some s
  | _ => none

def name? (token : Text) : Option Text :=
  match token with
  | '"' :: _ | '\'' :: _ => whole? (quotedKey? token)
  | _ => if !token.isEmpty && token.all isBareKeyPart then some token else none

def scalar? (token : Text) : Option Value :=
  match token with
  | '"' :: _ | '\'' :: _ => (whole? (string? token)).map .string
  | _ =>
    if token == "true" then some (.boolean true)
    else if token == "false" then some (.boolean false)
    else match (integer? token).or (float? token) with
      | some r => some (.number r)
      | none => if isDateTime token then some .date else none

end DartTransfer.Toml

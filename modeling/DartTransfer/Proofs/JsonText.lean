import DartTransfer.Edit.Json
import DartTransfer.Proofs.Runs

/-!
# Reading JSON

A reader of JSON texts: blanks, strings with their escapes, numbers as they are written, lists and
objects, nested as deep as readers of JSON are asked to follow. It knows nothing of how a batch of edits is
laid out, and gets back each batch that is printed (`Edit.batch?_jsonArray`): what `jsonChar` escapes is one
piece of a string, and the pieces of a string, of a list and of an object are read one after another.
-/

namespace DartTransfer

inductive Json
  | null
  | boolean (b : Bool)
  /-- A number by the characters that stand for it. -/
  | number (lexeme : Text)
  | string (t : Text)
  | list (items : List Json)
  | object (members : List (Text × Json))

namespace Json

def isSpace (c : Char) : Bool := c == ' ' || c == '\t' || c == '\n' || c == '\r'

def skipSpace (t : Text) : Text := t.dropWhile isSpace

/-! ### Strings -/

/-- A part of a string: a character, or a UTF-16 code unit that is given by its number. -/
inductive Piece
  | character (c : Char)
  | unit (n : Nat)

def hexDigit? (c : Char) : Option Nat :=
  if '0' ≤ c && c ≤ '9' then some (c.toNat - '0'.toNat)
  else if 'a' ≤ c && c ≤ 'f' then some (c.toNat - 'a'.toNat + 10)
  else if 'A' ≤ c && c ≤ 'F' then some (c.toNat - 'A'.toNat + 10)
  else none

def hexNumber? (t : Text) : Option Nat := t.foldlM (fun n c => (hexDigit? c).map (16 * n + ·)) 0

/-- What a letter stands for after a backslash. -/
def escaped? : Char → Option Char
  | '"' => some '"'
  | '\\' => some '\\'
  | '/' => some '/'
  | 'b' => some '\x08'
  | 'f' => some '\x0c'
  | 'n' => some '\n'
  | 'r' => some '\r'
  | 't' => some '\t'
  | _ => none

def prepend {α : Type} (a : α) : List α × Text → List α × Text
  | (as, r) => (a :: as, r)

/-- The pieces of a string up to its closing quote, and the text after that. -/
def pieces? : Text → Option (List Piece × Text)
  | [] => none
  | c :: t =>
    if c == '"' then some ([], t)
    else if c == '\\' then
      match t with
      | 'u' :: d :: e :: f :: g :: t => do return prepend (.unit (← hexNumber? [d, e, f, g])) (← pieces? t)
      | d :: t => do return prepend (.character (← escaped? d)) (← pieces? t)
      | [] => none
    else if c.toNat < 32 then none
    else (pieces? t).map (prepend (.character c))

/-- The text of the pieces, where two surrogates in a row make a character and one alone makes none. -/
def textOf? : List Piece → Option Text
  | [] => some []
  | .character c :: ps => (textOf? ps).map (c :: ·)
  | .unit n :: ps =>
    if 0xD800 ≤ n && n < 0xDC00 then
      match ps with
      | .unit m :: ps =>
        if 0xDC00 ≤ m && m < 0xE000 then
          (textOf? ps).map (Char.ofNat (0x10000 + 0x400 * (n - 0xD800) + (m - 0xDC00)) :: ·)
        else none
      | _ => none
    else if 0xDC00 ≤ n && n < 0xE000 then none
    else (textOf? ps).map (Char.ofNat n :: ·)

/-- The string up to its closing quote, and the text after that. -/
def string? (t : Text) : Option (Text × Text) := do
  let (ps, r) ← pieces? t
  return (← textOf? ps, r)

/-! ### Numbers -/

/-- At least one digit. -/
def digits? (t : Text) : Option (Text × Text) :=
  let digits := t.takeWhile Char.isDigit
  if digits.isEmpty then none else some (digits, t.dropWhile Char.isDigit)

/-- A zero on its own, or digits. -/
def integer? : Text → Option (Text × Text)
  | '0' :: t => some (['0'], t)
  | t => digits? t

def fraction? : Text → Option (Text × Text)
  | '.' :: t => (digits? t).map fun (ds, r) => ('.' :: ds, r)
  | t => some ([], t)

def exponent? : Text → Option (Text × Text)
  | c :: t =>
    if c == 'e' || c == 'E' then
      let sign := t.take 1 |>.filter fun d => d == '+' || d == '-'
      (digits? (t.drop sign.length)).map fun (ds, r) => (c :: sign ++ ds, r)
    else some ([], c :: t)
  | [] => some ([], [])

def unsigned? (t : Text) : Option (Text × Text) := do
  let (whole, t) ← integer? t
  let (fraction, t) ← fraction? t
  let (exponent, t) ← exponent? t
  return (whole ++ fraction ++ exponent, t)

def number? : Text → Option (Text × Text)
  | '-' :: t => (unsigned? t).map fun (l, r) => ('-' :: l, r)
  | t => unsigned? t

/-! ### Values -/

section
variable {α : Type} (item? : Text → Option (α × Text)) (closing : Char)

/-- One item or more with commas in between, and the closing character. An item uses up some of the text. -/
def items? (t : Text) : Option (List α × Text) :=
  match item? t with
  | none => none
  | some (a, r) =>
    match skipSpace r with
    | [] => none
    | c :: r =>
      if c == closing then some ([a], r)
      else if c == ',' && r.length < t.length then (items? r).map (prepend a)
      else none
termination_by t.length
decreasing_by simp_all

def list? (t : Text) : Option (List α × Text) :=
  match skipSpace t with
  | [] => none
  | c :: r => if c == closing then some ([], r) else items? item? closing t

end

/-- A name and the value that it has. -/
def member? (value? : Text → Option (Json × Text)) (t : Text) : Option ((Text × Json) × Text) :=
  match skipSpace t with
  | '"' :: t => do
    let (name, t) ← string? t
    match skipSpace t with
    | ':' :: t => do
      let (v, r) ← value? t
      return ((name, v), r)
    | _ => none
  | _ => none

/-- A value that is neither a string nor holds others. -/
def scalar? (t : Text) : Option (Json × Text) :=
  (Text.stripPrefix? "true" t).map (boolean true, ·) <|> (Text.stripPrefix? "false" t).map (boolean false, ·) <|>
    (Text.stripPrefix? "null" t).map (null, ·) <|> (number? t).map fun (l, r) => (number l, r)

/-- A value that holds others at most `depth` deep, and the text after it. -/
def value? (depth : Nat) (t : Text) : Option (Json × Text) :=
  match skipSpace t with
  | [] => none
  | c :: r =>
    if c == '"' then (string? r).map fun (s, r) => (string s, r)
    else if c == '[' || c == '\x7b' then
      match depth with
      | 0 => none
      | depth + 1 =>
        if c == '[' then (list? (value? depth) ']' r).map fun (vs, r) => (list vs, r)
        else (list? (member? (value? depth)) '\x7d' r).map fun (ms, r) => (object ms, r)
    else scalar? (c :: r)

def maxDepth : Nat := 127

/-- The one value that a text holds. -/
def document? (t : Text) : Option Json := do
  let (v, r) ← value? maxDepth t
  if (skipSpace r).isEmpty then some v else none

/-! ### What a value holds -/

def member (name : Text) : Json → Option Json
  | object ms => ms.lookup name
  | _ => none

/-- The number of a lexeme that is nothing but digits. -/
def natural? : Json → Option Nat
  | number l => if l.all Char.isDigit then some (Nat.ofDigitChars 10 l 0) else none
  | _ => none

def text? : Json → Option Text
  | string t => some t
  | _ => none

end Json

namespace Edit

def ofJson? (v : Json) : Option Edit := do
  let range ← v.member "range"
  let start ← (← range.member "start").natural?
  let stop ← (← range.member "end").natural?
  let replacement ← (← v.member "replacement_text").text?
  return ⟨⟨start, stop⟩, replacement⟩

/-- The batch that a JSON text lists. -/
def batch? (t : Text) : Option (List Edit) :=
  match Json.document? t with
  | some (.list vs) => vs.mapM ofJson?
  | _ => none

end Edit

namespace Json

theorem skipSpace_append {b : Text} (hb : b.all isSpace = true) (t : Text) : skipSpace (b ++ t) = skipSpace t := by
  rw [skipSpace, List.dropWhile_append_of_pos (List.all_eq_true.mp hb), skipSpace]

theorem skipSpace_cons {c : Char} (hc : isSpace c = false) (t : Text) : skipSpace (c :: t) = c :: t :=
  List.dropWhile_cons_of_neg (by simp [hc])

/-! ### Strings that are printed -/

theorem hexNumber?_hexByte : ∀ n < 32, hexNumber? ('0' :: '0' :: Text.hexByte n) = some n := by decide

theorem pieces?_quote (t : Text) : pieces? ('"' :: t) = some ([], t) := by
  rw [pieces?.eq_def]
  rfl

theorem pieces?_unit {d e f g : Char} {n : Nat} (hn : hexNumber? [d, e, f, g] = some n) (t : Text) :
    pieces? ('\\' :: 'u' :: d :: e :: f :: g :: t) = (pieces? t).map (prepend (.unit n)) := by
  rw [pieces?, if_neg (by decide), if_pos (by decide), hn]
  cases pieces? t <;> rfl

theorem pieces?_escape {c d : Char} (hc : escaped? d = some c) (t : Text) :
    pieces? ('\\' :: d :: t) = (pieces? t).map (prepend (.character c)) := by
  have hd : d ≠ 'u' := by
    rintro rfl
    exact absurd hc nofun
  rw [pieces?, if_neg (by decide), if_pos (by decide), hc]
  · cases pieces? t <;> rfl
  · exact fun _ _ _ _ _ h _ => hd h

theorem pieces?_character {c : Char} (hquote : c ≠ '"') (hbackslash : c ≠ '\\') (hc : ¬ c.toNat < 32)
    (t : Text) : pieces? (c :: t) = (pieces? t).map (prepend (.character c)) := by
  rw [pieces?.eq_def]
  simp only [beq_iff_eq, hquote, hbackslash, hc, if_false]

/-- A character is printed as one piece. -/
theorem pieces?_jsonChar (c : Char) :
    ∃ p, (∀ t, pieces? (Text.jsonChar c ++ t) = (pieces? t).map (prepend p)) ∧
      ∀ ps, textOf? (p :: ps) = (textOf? ps).map (c :: ·) := by
  unfold Text.jsonChar
  split
  · exact ⟨.character '"', pieces?_escape rfl, fun _ => rfl⟩
  · exact ⟨.character '\\', pieces?_escape rfl, fun _ => rfl⟩
  · exact ⟨.character '\x08', pieces?_escape rfl, fun _ => rfl⟩
  · exact ⟨.character '\x0c', pieces?_escape rfl, fun _ => rfl⟩
  · exact ⟨.character '\n', pieces?_escape rfl, fun _ => rfl⟩
  · exact ⟨.character '\r', pieces?_escape rfl, fun _ => rfl⟩
  · exact ⟨.character '\t', pieces?_escape rfl, fun _ => rfl⟩
  · next hquote hbackslash _ _ _ _ _ =>
    split
    · next hcontrol =>
      refine ⟨.unit c.toNat, pieces?_unit (hexNumber?_hexByte c.toNat hcontrol), fun ps => ?_⟩
      rw [textOf?.eq_def]
      simp only [Char.ofNat_toNat]
      rw [if_neg (by simp; omega), if_neg (by simp; omega)]
    · next hcontrol => exact ⟨.character c, pieces?_character hquote hbackslash hcontrol, fun _ => rfl⟩

theorem pieces?_jsonString (t r : Text) :
    ∃ ps, pieces? (t.flatMap Text.jsonChar ++ '"' :: r) = some (ps, r) ∧ textOf? ps = some t := by
  induction t with
  | nil => exact ⟨[], pieces?_quote r, rfl⟩
  | cons c t ih =>
    obtain ⟨ps, hps, htext⟩ := ih
    obtain ⟨p, hp, hc⟩ := pieces?_jsonChar c
    refine ⟨p :: ps, ?_, ?_⟩
    · rw [List.flatMap_cons, List.append_assoc, hp, hps]
      rfl
    · rw [hc, htext]
      rfl

theorem string?_jsonString (t r : Text) : string? (t.flatMap Text.jsonChar ++ '"' :: r) = some (t, r) := by
  obtain ⟨ps, hps, htext⟩ := pieces?_jsonString t r
  rw [string?, hps]
  show (do return (← textOf? ps, r)) = _
  rw [htext]
  rfl

/-! ### Numbers that are printed -/

theorem all_isDigit_ofNat (n : Nat) : ∀ c ∈ Text.ofNat n, c.isDigit = true :=
  fun _ => Nat.isDigit_of_mem_toDigits (by decide) (by decide)

/-- No number but zero starts with a zero. -/
theorem exists_ofNat (n : Nat) : ∃ d ds, Text.ofNat n = d :: ds ∧ (0 < n → d ≠ '0') := by
  induction n using Nat.strongRecOn with
  | _ n ih =>
    by_cases hn : n < 10
    · refine ⟨n.digitChar, [], Nat.toDigits_of_lt_base hn, fun hpos hzero => ?_⟩
      have hvalue := Nat.toNat_digitChar_of_lt_ten hn
      rw [hzero] at hvalue
      exact absurd hvalue (by simp; omega)
    · obtain ⟨d, ds, hds, hd⟩ := ih (n / 10) (by omega)
      refine ⟨d, ds ++ [(n % 10).digitChar], ?_, fun _ => hd (by omega)⟩
      rw [Text.ofNat, Nat.toDigits_of_base_le (by decide) (by omega), ← Text.ofNat, hds]
      rfl

theorem digits?_run {ds r : Text} (hne : ds ≠ []) (hds : ∀ c ∈ ds, c.isDigit = true)
    (hr : ∀ c ∈ r.head?, c.isDigit = false) : digits? (ds ++ r) = some (ds, r) := by
  rw [digits?, Text.takeWhile_run hds hr, Text.dropWhile_run hds hr]
  exact if_neg (by simpa using hne)

theorem integer?_ofNat (n : Nat) {r : Text} (hr : ∀ c ∈ r.head?, c.isDigit = false) :
    integer? (Text.ofNat n ++ r) = some (Text.ofNat n, r) := by
  have hrun : digits? (Text.ofNat n ++ r) = _ := digits?_run Nat.toDigits_ne_nil (all_isDigit_ofNat n) hr
  obtain ⟨d, ds, hds, hd⟩ := exists_ofNat n
  rcases Nat.eq_zero_or_pos n with rfl | hpos
  · rfl
  · rw [hds] at hrun ⊢
    rw [List.cons_append, integer?]
    · exact hrun
    · exact fun t h => hd hpos (List.cons.inj h).1

theorem ne_of_isDigit {c d : Char} (hc : c.isDigit = true) (hd : d.isDigit = false) : c ≠ d := by
  rintro rfl
  rw [hc] at hd
  exact Bool.noConfusion hd

theorem skipSpace_ofNat (n : Nat) (r : Text) : skipSpace (' ' :: (Text.ofNat n ++ r)) = Text.ofNat n ++ r := by
  have hdigits := all_isDigit_ofNat n
  obtain ⟨d, ds, hds, -⟩ := exists_ofNat n
  have hd : d.isDigit = true := hdigits d (hds ▸ List.mem_cons_self)
  have hspace : isSpace d = false := by
    simp only [isSpace, Bool.or_eq_false_iff, beq_eq_false_iff_ne]
    exact ⟨⟨⟨ne_of_isDigit hd rfl, ne_of_isDigit hd rfl⟩, ne_of_isDigit hd rfl⟩, ne_of_isDigit hd rfl⟩
  rw [hds]
  exact skipSpace_cons hspace _

/-- What follows a number ends it. -/
def Ends (r : Text) : Prop := ∃ c ∈ r.head?, c = ',' ∨ c = '\n'

theorem unsigned?_ofNat (n : Nat) {r : Text} (hr : Ends r) :
    unsigned? (Text.ofNat n ++ r) = some (Text.ofNat n, r) := by
  obtain ⟨c, hc, hends⟩ := hr
  obtain ⟨r, rfl⟩ : ∃ r', r = c :: r' := List.head?_eq_some_iff.mp hc
  have hstop : ∀ e ∈ (c :: r).head?, e.isDigit = false := by
    intro e he
    obtain rfl : c = e := Option.some.inj he
    rcases hends with rfl | rfl <;> rfl
  have hfraction : fraction? (c :: r) = some ([], c :: r) := by rcases hends with rfl | rfl <;> rfl
  have hexponent : exponent? (c :: r) = some ([], c :: r) := by rcases hends with rfl | rfl <;> rfl
  simp [unsigned?, integer?_ofNat n hstop, hfraction, hexponent]

theorem scalar?_ofNat (n : Nat) {r : Text} (hr : Ends r) :
    scalar? (Text.ofNat n ++ r) = some (number (Text.ofNat n), r) := by
  have hunsigned := unsigned?_ofNat n hr
  have hdigits := all_isDigit_ofNat n
  obtain ⟨d, ds, hds, -⟩ := exists_ofNat n
  have hd : d.isDigit = true := hdigits d (hds ▸ List.mem_cons_self)
  rw [hds, List.cons_append] at hunsigned ⊢
  have hnumber : number? (d :: (ds ++ r)) = some (d :: ds, r) := by
    rw [number?]
    · exact hunsigned
    · exact fun t h => ne_of_isDigit hd rfl (List.cons.inj h).1
  have hword {c : Char} (hc : c.isDigit = false) (w : Text) : Text.stripPrefix? (c :: w) (d :: (ds ++ r)) = none :=
    if_neg (ne_of_isDigit hd hc).symm
  rw [scalar?, hnumber]
  show (Option.map _ (Text.stripPrefix? ('t' :: _) _) <|> Option.map _ (Text.stripPrefix? ('f' :: _) _) <|>
    Option.map _ (Text.stripPrefix? ('n' :: _) _) <|> _) = _
  rw [hword (by decide), hword (by decide), hword (by decide)]
  rfl

/-! ### Values that are printed -/

section
variable {depth : Nat} {t r u : Text}

theorem value?_string {s : Text} (h : skipSpace t = s.jsonString ++ r) : value? depth t = some (string s, r) := by
  rw [Text.jsonString, List.cons_append, List.append_assoc, List.singleton_append] at h
  rw [value?, h]
  simp only [beq_self_eq_true, if_true, string?_jsonString]
  rfl

theorem value?_number {n : Nat} (h : skipSpace t = Text.ofNat n ++ r) (hr : Ends r) :
    value? depth t = some (number (Text.ofNat n), r) := by
  have hscalar := scalar?_ofNat n hr
  have hdigits := all_isDigit_ofNat n
  obtain ⟨d, ds, hds, -⟩ := exists_ofNat n
  have hd : d.isDigit = true := hdigits d (hds ▸ List.mem_cons_self)
  have hne {c : Char} (hc : c.isDigit = false) : (d == c) = false := beq_eq_false_iff_ne.mpr (ne_of_isDigit hd hc)
  rw [hds, List.cons_append] at h hscalar
  rw [value?, h]
  simp only [hne (c := '"') (by decide), hne (c := '[') (by decide), hne (c := '\x7b') (by decide), Bool.or_false,
    Bool.false_eq_true, if_false, hds, hscalar]

theorem value?_object {ms : List (Text × Json)} (h : skipSpace t = '\x7b' :: r)
    (hms : list? (member? (value? depth)) '\x7d' r = some (ms, u)) :
    value? (depth + 1) t = some (object ms, u) := by
  rw [value?, h]
  simp [hms]

theorem value?_list {vs : List Json} (h : skipSpace t = '[' :: r)
    (hvs : list? (value? depth) ']' r = some (vs, u)) : value? (depth + 1) t = some (list vs, u) := by
  rw [value?, h]
  simp [hvs]

theorem member?_eq {v? : Text → Option (Json × Text)} {name : Text} {v : Json}
    (h : skipSpace t = name.jsonString ++ ':' :: r) (hv : v? r = some (v, u)) :
    member? v? t = some ((name, v), u) := by
  rw [Text.jsonString, List.cons_append, List.append_assoc, List.singleton_append] at h
  rw [member?, h]
  simp [string?_jsonString, skipSpace_cons (c := ':') (by decide), hv]

variable {α : Type} {item? : Text → Option (α × Text)} {closing : Char} {a : α}

theorem items?_last (ha : item? t = some (a, r)) (h : skipSpace r = closing :: u) :
    items? item? closing t = some ([a], u) := by
  rw [items?, ha]
  simp [h]

theorem items?_cons (hclosing : ',' ≠ closing) (ha : item? t = some (a, r)) (h : skipSpace r = ',' :: u)
    (hu : u.length < t.length) : items? item? closing t = (items? item? closing u).map (prepend a) := by
  rw [items?, ha]
  simp [h, hclosing, hu]

theorem list?_of_items {c : Char} (h : skipSpace t = c :: r) (hc : c ≠ closing) :
    list? item? closing t = items? item? closing t := by
  rw [list?, h]
  simp [hc]

end

/-- The text of an object with two members, given the texts of the values and the space before each member
and before the closing brace. -/
def pairText (inner outer name x name' x' : Text) : Text :=
  '\x7b' :: (inner ++ (name.jsonString ++ ':' :: ' ' :: (x ++ ',' ::
    (inner ++ (name'.jsonString ++ ':' :: ' ' :: (x' ++ (outer ++ ['\x7d'])))))))

/-- The first member ends at the comma, the second one in front of the space before the brace. -/
theorem value?_pairText {inner outer name x name' x' : Text} {v v' : Json} {depth : Nat} {t u : Text}
    (hinner : inner.all isSpace = true) (houter : outer.all isSpace = true)
    (hx : ∀ r, value? depth (' ' :: (x ++ ',' :: r)) = some (v, ',' :: r))
    (hx' : ∀ r, value? depth (' ' :: (x' ++ (outer ++ r))) = some (v', outer ++ r))
    (h : skipSpace t = pairText inner outer name x name' x' ++ u) :
    value? (depth + 1) t = some (object [(name, v), (name', v')], u) := by
  have hskip (n r : Text) : skipSpace (inner ++ (n.jsonString ++ r)) = n.jsonString ++ r := by
    rw [skipSpace_append hinner]
    exact skipSpace_cons (by decide) _
  have hclose : skipSpace (outer ++ '\x7d' :: u) = '\x7d' :: u := by
    rw [skipSpace_append houter]
    exact skipSpace_cons (by decide) _
  simp only [pairText, List.append_assoc, List.cons_append, List.nil_append] at h
  refine value?_object h ?_
  rw [list?_of_items (hskip _ _) (by decide), items?_cons (by decide) (member?_eq (hskip _ _) (hx _))
    (skipSpace_cons (by decide) _) (by simp; omega), items?_last (member?_eq (hskip _ _) (hx' _)) hclose]
  rfl

theorem natural?_ofNat (n : Nat) : (number (Text.ofNat n)).natural? = some n := by
  rw [natural?, if_pos (List.all_eq_true.mpr (all_isDigit_ofNat n)), Text.ofNat, Nat.ofDigitChars_ten_toDigits]

end Json

/-! ### Batches -/

namespace Edit

open Json

/-- The value that an edit is printed as. -/
def toJson (e : Edit) : Json :=
  .object [("range",
      .object [("start", .number (Text.ofNat e.span.start)), ("end", .number (Text.ofNat e.span.stop))]),
    ("replacement_text", .string e.replacement)]

theorem ofJson?_toJson (e : Edit) : ofJson? e.toJson = some e := by
  have hrange : e.toJson.member "range" =
      some (.object
        [("start", .number (Text.ofNat e.span.start)), ("end", .number (Text.ofNat e.span.stop))]) := rfl
  have htext : e.toJson.member "replacement_text" = some (.string e.replacement) := rfl
  rw [ofJson?, hrange, htext]
  show (do
    let start ← (number (Text.ofNat e.span.start)).natural?
    let stop ← (number (Text.ofNat e.span.stop)).natural?
    let replacement ← some e.replacement
    return (⟨⟨start, stop⟩, replacement⟩ : Edit)) = _
  rw [natural?_ofNat, natural?_ofNat]
  rfl

/-- An edit is printed as an object in an object. -/
theorem json_eq (e : Edit) : e.json = "  ".toList ++ pairText "\n    " "\n  " "range"
    (pairText "\n      " "\n    " "start" (Text.ofNat e.span.start) "end" (Text.ofNat e.span.stop))
    "replacement_text" e.replacement.jsonString := by
  have hstart : "  \x7b\n    \"range\": \x7b\n      \"start\": ".toList =
      "  ".toList ++ '\x7b' :: ("\n    ".toList ++ (Text.jsonString "range" ++ ':' :: ' ' :: '\x7b' ::
        ("\n      ".toList ++ (Text.jsonString "start" ++ [':', ' '])))) := by decide
  have hstop : ",\n      \"end\": ".toList =
      ',' :: ("\n      ".toList ++ (Text.jsonString "end" ++ [':', ' '])) := by decide
  have hreplacement : "\n    \x7d,\n    \"replacement_text\": ".toList = "\n    ".toList ++ '\x7d' :: ',' ::
      ("\n    ".toList ++ (Text.jsonString "replacement_text" ++ [':', ' '])) := by decide
  have hend : "\n  \x7d".toList = "\n  ".toList ++ ['\x7d'] := by decide
  delta json
  rw [hstart, hstop, hreplacement, hend]
  simp only [pairText, List.append_assoc, List.cons_append, List.nil_append]

theorem skipSpace_json (e : Edit) (r : Text) : skipSpace ('\n' :: (e.json ++ r)) = pairText "\n    " "\n  " "range"
    (pairText "\n      " "\n    " "start" (Text.ofNat e.span.start) "end" (Text.ofNat e.span.stop))
    "replacement_text" e.replacement.jsonString ++ r := by
  rw [json_eq]
  rfl

theorem value?_json (e : Edit) (depth : Nat) (r : Text) :
    value? (depth + 2) ('\n' :: (e.json ++ r)) = some (e.toJson, r) := by
  refine value?_pairText rfl rfl (fun r => ?_) (fun r => value?_string rfl) (skipSpace_json e r)
  refine value?_pairText (by decide) (by decide) (fun r => ?_) (fun r => ?_) rfl
  · exact value?_number (skipSpace_ofNat _ _) ⟨',', rfl, .inl rfl⟩
  · exact value?_number (skipSpace_ofNat _ _) ⟨'\n', rfl, .inr rfl⟩

/-- The edits of a list, each on lines of its own, by induction on the edits. -/
theorem items?_json (e : Edit) (es : List Edit) (depth : Nat) (r : Text) :
    items? (value? (depth + 2)) ']' ('\n' :: (Text.joinWith ",\n" ((e :: es).map json) ++ '\n' :: ']' :: r)) =
      some ((e :: es).map toJson, r) := by
  induction es generalizing e with
  | nil =>
    rw [List.map_singleton, List.map_singleton, Text.joinWith_singleton]
    exact items?_last (value?_json e depth _) rfl
  | cons f es ih =>
    have hsep : ",\n".toList = [',', '\n'] := rfl
    have hnext :
        skipSpace (',' :: '\n' :: (Text.joinWith ",\n" ((f :: es).map json) ++ '\n' :: ']' :: r)) = _ := rfl
    rw [List.map_cons, Text.joinWith_cons _ _ (by simp), hsep, List.append_assoc, List.append_assoc]
    refine (items?_cons (by decide) (value?_json e depth _) hnext (by simp; omega)).trans ?_
    rw [ih f]
    rfl

theorem document?_jsonArray (es : List Edit) :
    document? (jsonArray es ++ "\n") = some (.list (es.map toJson)) := by
  have hvalue : value? maxDepth (jsonArray es ++ "\n") = some (.list (es.map toJson), "\n".toList) := by
    cases es with
    | nil => rfl
    | cons e es =>
      have harray : jsonArray (e :: es) ++ "\n".toList =
          '[' :: '\n' :: (Text.joinWith ",\n" ((e :: es).map json) ++ '\n' :: ']' :: "\n".toList) := by
        rw [jsonArray, if_neg (by simp), List.append_assoc, List.append_assoc]
        rfl
      rw [harray]
      refine value?_list (skipSpace_cons (by decide) _) ?_
      obtain ⟨tail, htail⟩ : ∃ tail, Text.joinWith ",\n" ((e :: es).map json) = e.json ++ tail := by
        cases es with
        | nil => exact ⟨[], rfl⟩
        | cons f es => exact ⟨_, (Text.joinWith_cons _ _ (by simp)).trans (List.append_assoc _ _ _)⟩
      have hfirst := skipSpace_json e (tail ++ '\n' :: ']' :: "\n".toList)
      rw [← List.append_assoc, ← htail] at hfirst
      exact (list?_of_items hfirst (by decide)).trans (items?_json e es _ _)
  rw [document?, hvalue]
  rfl

/-- A printed batch is read back as it was. -/
theorem batch?_jsonArray (es : List Edit) : batch? (jsonArray es ++ "\n") = some es := by
  rw [batch?, document?_jsonArray]
  show (es.map toJson).mapM ofJson? = some es
  induction es with
  | nil => rfl
  | cons e es ih =>
    rw [List.map_cons, List.mapM_cons, ofJson?_toJson, ih]
    rfl

end Edit

end DartTransfer

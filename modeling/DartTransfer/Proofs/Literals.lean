import DartTransfer.Proofs.SectionKeys
import DartTransfer.Proofs.SettledNames

/-!
# Strings in generated classes

What stands between single quotes is read part by part: characters that stand for themselves, and code behind a `$`
whose value is put in (`StringPart.ofQuoted?`). The keys of a class and the text of its `toString` are put in quotes as
they are, so they are read as they are meant where nothing in them is live (`StringPart.reads_chars`). Of what is live
in a string an identifier can only have a `$`, and a key has one exactly when the name of its field has
(`KeyStyle.dollar_mem_convert_iff`). Hence the strings of a class are inert exactly when there is no `$` in its name
or the name of a field, and nothing in the suffix that a string cannot hold (`Generation.strings_inert_iff`).
-/

namespace DartTransfer

/-- A part of a string: a character that stands for itself, or code whose value is put in. -/
inductive StringPart
  | char (c : Char)
  | value (code : Text)
  deriving DecidableEq, Repr

namespace StringPart

/-- What means something else than itself between quotes: the sign of a value, the quotes, and the sign of an
escape. -/
def isLive (c : Char) : Bool := c == '$' || c == '\'' || c == '"' || c == '\\'

def isLineEnd (c : Char) : Bool := c == '\n' || c == '\r'

/-- A character that stands for itself. -/
def IsInert (c : Char) : Prop := isLive c = false ∧ isLineEnd c = false

instance (c : Char) : Decidable (IsInert c) := inferInstanceAs (Decidable (_ ∧ _))

/-- A text of such characters. -/
def AllInert (t : Text) : Prop := ∀ c ∈ t, IsInert c

instance (t : Text) : Decidable (AllInert t) := List.decidableBAll IsInert t

theorem AllInert.append {s t : Text} (hs : AllInert s) (ht : AllInert t) : AllInert (s ++ t) :=
  List.forall_mem_append.mpr ⟨hs, ht⟩

def isNameStart (c : Char) : Bool := c.isAlpha || c == '_'

def isNamePart (c : Char) : Bool := c.isAlphanum || c == '_'

/-- The code up to the brace that closes it, inside `depth` braces of its own, and what follows that brace. -/
def code? (depth : Nat) : Text → Option (Text × Text)
  | [] => none
  | c :: t =>
    if c == '\x7d' && depth == 0 then some ([], t)
    else
      let depth := if c == '\x7b' then depth + 1 else if c == '\x7d' then depth - 1 else depth
      (code? depth t).map fun (code, r) => (c :: code, r)

/-- The code that a `$` puts in: what stands in braces, or a name, which has no `$` in it. -/
def value? : Text → Option (Text × Text)
  | [] => none
  | c :: t =>
    if c == '\x7b' then code? 0 t
    else if isNameStart c then some (c :: t.takeWhile isNamePart, t.dropWhile isNamePart)
    else none

theorem length_of_code? {depth : Nat} {t code r : Text} (h : code? depth t = some (code, r)) :
    r.length < t.length := by
  induction t generalizing depth code with
  | nil => exact absurd h.symm (Option.some_ne_none _)
  | cons c t ih =>
    rw [code?] at h
    split at h
    · obtain ⟨-, rfl⟩ := Prod.mk.inj (Option.some.inj h)
      exact Nat.lt_succ_self _
    · obtain ⟨⟨code', r'⟩, hcode, hr⟩ := Option.map_eq_some_iff.mp h
      obtain ⟨-, rfl⟩ := Prod.mk.inj hr
      exact Nat.lt_succ_of_lt (ih hcode)

theorem length_of_value? {t code r : Text} (h : value? t = some (code, r)) : r.length < t.length := by
  cases t with
  | nil => exact absurd h.symm (Option.some_ne_none _)
  | cons c t =>
    rw [value?] at h
    split at h
    · exact Nat.lt_succ_of_lt (length_of_code? h)
    · split at h
      · obtain ⟨-, rfl⟩ := Prod.mk.inj (Option.some.inj h)
        exact Nat.lt_succ_of_le (List.length_dropWhile_le _ _)
      · exact absurd h.symm (Option.some_ne_none _)

/-- The parts of a string up to the quote that ends it, and what follows that quote. A string that has escapes is not
read, nor one that does not end on its line. -/
def ofQuoted? : Text → Option (List StringPart × Text)
  | [] => none
  | c :: t =>
    if c == '\'' then some ([], t)
    else if c == '\\' || isLineEnd c then none
    else if c == '$' then
      match _h : value? t with
      | some (code, r) => (ofQuoted? r).map fun (ps, r) => (value code :: ps, r)
      | none => none
    else (ofQuoted? t).map fun (ps, r) => (char c :: ps, r)
termination_by t => t.length
decreasing_by
  · exact Nat.lt_succ_of_lt (length_of_value? _h)
  · exact Nat.lt_succ_self _

/-- The parts of a text that stands for itself. -/
def chars (t : Text) : List StringPart := t.map char

theorem char_mem_chars {c : Char} {t : Text} : .char c ∈ chars t ↔ c ∈ t := by
  rw [chars, List.mem_map_of_injective fun _ _ => StringPart.char.inj]

/-- The text holds, between the two others, a string in single quotes with these parts. -/
def Shows (t before : Text) (ps : List StringPart) (after : Text) : Prop :=
  ∃ quoted, t = before ++ '\'' :: quoted ∧ ∀ rest, ofQuoted? (quoted ++ rest) = some (ps, after ++ rest)

variable {c : Char} {s t r code : Text} {ps : List StringPart}

theorem ofQuoted?_quote (t : Text) : ofQuoted? ('\'' :: t) = some ([], t) := by
  rw [ofQuoted?]
  rfl

theorem ofQuoted?_char (h : IsInert c) (t : Text) :
    ofQuoted? (c :: t) = (ofQuoted? t).map fun (ps, r) => (char c :: ps, r) := by
  obtain ⟨hlive, hend⟩ := h
  simp only [isLive, Bool.or_eq_false_iff] at hlive
  obtain ⟨⟨⟨hdollar, hquote⟩, -⟩, hescape⟩ := hlive
  rw [ofQuoted?, hquote, hescape, hend, hdollar]
  rfl

theorem ofQuoted?_value (h : value? t = some (code, r)) :
    ofQuoted? ('$' :: t) = (ofQuoted? r).map fun (ps, r) => (value code :: ps, r) := by
  rw [ofQuoted?, if_neg (by decide), if_neg (by decide), if_pos (by decide)]
  split
  · next code' r' h' =>
    obtain ⟨rfl, rfl⟩ := Prod.mk.inj (Option.some.inj (h.symm.trans h'))
    rfl
  · next h' => exact absurd (h.symm.trans h') nofun

/-- The text is read as these parts, whatever follows it. -/
def Reads (s : Text) (ps : List StringPart) : Prop :=
  ∀ t, ofQuoted? (s ++ t) = (ofQuoted? t).map fun (qs, r) => (ps ++ qs, r)

theorem Reads.nil : Reads [] [] := by
  intro t
  cases h : ofQuoted? t <;> simp [h]

theorem Reads.append {s' : Text} {ps' : List StringPart} (h : Reads s ps) (h' : Reads s' ps') :
    Reads (s ++ s') (ps ++ ps') := by
  intro t
  rw [List.append_assoc, h, h', Option.map_map]
  cases ofQuoted? t <;> simp

/-- A text without live characters is read as it stands. -/
theorem reads_chars (h : AllInert s) : Reads s (chars s) := by
  induction s with
  | nil => exact .nil
  | cons c s ih =>
    obtain ⟨hc, hs⟩ := List.forall_mem_cons.mp h
    intro t
    rw [List.cons_append, ofQuoted?_char hc, ih hs, Option.map_map]
    rfl

/-- And what is read as it stands has no sign of a value in it, and no end of a line. -/
theorem inert_of_ofQuoted? (h : ofQuoted? (s ++ t) = some (chars s ++ ps, r)) :
    ∀ c ∈ s, c ≠ '$' ∧ isLineEnd c = false := by
  induction s with
  | nil => exact fun c hc => absurd hc List.not_mem_nil
  | cons c s ih =>
    rw [List.cons_append, ofQuoted?] at h
    split at h
    · exact absurd (Prod.mk.inj (Option.some.inj h)).1 nofun
    · split at h
      · exact absurd h nofun
      · next hend =>
        split at h
        · split at h
          · obtain ⟨q, -, hq⟩ := Option.map_eq_some_iff.mp h
            exact absurd (List.cons.inj (Prod.mk.inj hq).1).1 nofun
          · exact absurd h nofun
        · next hdollar =>
          obtain ⟨⟨ps', r'⟩, hps, hq⟩ := Option.map_eq_some_iff.mp h
          obtain ⟨hparts, rfl⟩ := Prod.mk.inj hq
          obtain rfl : ps' = chars s ++ ps := (List.cons.inj hparts).2
          refine List.forall_mem_cons.mpr ⟨⟨by simpa using hdollar, ?_⟩, ih hps⟩
          rw [Bool.not_eq_true, Bool.or_eq_false_iff] at hend
          exact hend.2

/-- Code without braces ends at the first brace. -/
theorem code?_append (h : '\x7b' ∉ s ∧ '\x7d' ∉ s) (t : Text) : code? 0 (s ++ '\x7d' :: t) = some (s, t) := by
  induction s with
  | nil => rfl
  | cons c s ih =>
    simp only [List.mem_cons, not_or] at h
    obtain ⟨⟨hopen, hopens⟩, hclose, hcloses⟩ := h
    rw [List.cons_append, code?]
    simp only [beq_eq_false_iff_ne.mpr (Ne.symm hopen), beq_eq_false_iff_ne.mpr (Ne.symm hclose),
      Bool.false_and, Bool.false_eq_true, if_false, ih ⟨hopens, hcloses⟩]
    rfl

theorem reads_braced (h : '\x7b' ∉ s ∧ '\x7d' ∉ s) : Reads ("$\x7b".toList ++ s ++ "\x7d".toList) [value s] := by
  intro t
  rw [List.append_assoc]
  exact ofQuoted?_value (code?_append h t)

theorem shows_of_reads {before after : Text} (h : Reads s ps) :
    Shows (before ++ '\'' :: (s ++ '\'' :: after)) before ps after := by
  refine ⟨s ++ '\'' :: after, rfl, fun rest => ?_⟩
  rw [List.append_assoc, h, List.cons_append, ofQuoted?_quote, Option.map_some]
  exact congrArg (fun ps => some (ps, after ++ rest)) (List.append_nil ps)

/-- A name behind a `$` is not shown: its value is. -/
theorem shows_value_of_name {before after n : Text} (hs : AllInert s) (hc : isNameStart c = true)
    (hn : n.all isNamePart = true) :
    Shows (before ++ '\'' :: ((s ++ '$' :: c :: n) ++ '\'' :: after)) before (chars s ++ [value (c :: n)]) after := by
  refine ⟨_, rfl, fun rest => ?_⟩
  rw [List.all_eq_true] at hn
  have hbrace : (c == '\x7b') = false := by
    rw [beq_eq_false_iff_ne]
    rintro rfl
    exact absurd hc (by decide)
  have hvalue : value? (c :: (n ++ '\'' :: (after ++ rest))) = some (c :: n, '\'' :: (after ++ rest)) := by
    rw [value?, hbrace, if_neg Bool.false_ne_true, if_pos hc, List.takeWhile_append_of_pos hn,
      List.dropWhile_append_of_pos hn, List.takeWhile_cons_of_neg (by decide), List.dropWhile_cons_of_neg (by decide),
      List.append_nil]
  simp only [List.append_assoc, List.cons_append]
  rw [reads_chars hs, ofQuoted?_value hvalue, ofQuoted?_quote]
  rfl

theorem inert_of_shows {before after : Text} (h : Shows (before ++ '\'' :: (s ++ t)) before (chars s ++ ps) after) :
    ∀ c ∈ s, c ≠ '$' ∧ isLineEnd c = false := by
  obtain ⟨quoted, hquoted, hread⟩ := h
  obtain rfl : s ++ t = quoted := (List.cons.inj (List.append_cancel_left hquoted)).2
  have hnil := hread []
  rw [List.append_nil] at hnil
  exact inert_of_ofQuoted? hnil

end StringPart

open StringPart

/-! ### Keys -/

namespace KeyStyle
variable {d : Char} {t : Text}

/-- A character that every conversion keeps. -/
structure IsKept (d : Char) : Prop where
  raised : IsRaised d
  lowered : IsLowered d
  not_lower : d.isLower = false
  ne_underscore : d ≠ '_'

theorem isKept_dollar : IsKept '$' := by constructor <;> decide

theorem mem_joinWords (hd : IsKept d) (h : d ∈ t) : d ∈ joinWords t := by
  fun_induction joinWords t with
  | case1 c t hc ih =>
    rcases List.mem_cons.mp h with rfl | h
    · exact absurd rfl hd.ne_underscore
    · rcases List.mem_cons.mp h with rfl | h
      · exact absurd (hd.not_lower.symm.trans hc) Bool.false_ne_true
      · exact List.mem_cons_of_mem _ (ih h)
  | case2 c t hc ih =>
    rcases List.mem_cons.mp h with rfl | h
    · exact absurd rfl hd.ne_underscore
    · exact List.mem_cons_of_mem _ (ih h)
  | case3 c t _ ih =>
    rcases List.mem_cons.mp h with rfl | h
    · exact List.mem_cons_self
    · exact List.mem_cons_of_mem _ (ih h)
  | case4 => exact absurd h List.not_mem_nil

theorem mem_splitWords {sep : Char} (h : d ∈ t) : d ∈ splitWords sep t := by
  fun_induction splitWords sep t with
  | case1 c e t hc ih =>
    rcases List.mem_cons.mp h with rfl | h
    · exact List.mem_cons_self
    · exact List.mem_cons_of_mem _ (List.mem_cons_of_mem _ (ih h))
  | case2 c e t hc ih =>
    rcases List.mem_cons.mp h with rfl | h
    · exact List.mem_cons_self
    · exact List.mem_cons_of_mem _ (ih h)
  | case3 t _ => exact h

theorem mem_toLower (hd : IsKept d) (h : d ∈ t) : d ∈ t.toLower := by
  rw [Text.toLower]
  generalize ([] : Text) = before
  induction t generalizing before with
  | nil => exact absurd h List.not_mem_nil
  | cons c t ih =>
    rw [Text.lowerAfter]
    rcases List.mem_cons.mp h with rfl | h
    · refine List.mem_append_left _ ?_
      rw [if_neg (by simpa using hd.lowered.1), hd.lowered.2]
      exact List.mem_singleton_self d
    · exact List.mem_append_right _ (ih h _)

theorem mem_capitalizeWords (hd : IsKept d) (atStart : Bool) (h : d ∈ t) : d ∈ capitalizeWords atStart t := by
  induction t generalizing atStart with
  | nil => exact absurd h List.not_mem_nil
  | cons c t ih =>
    rw [capitalizeWords]
    rcases List.mem_cons.mp h with rfl | h
    · rw [if_neg (by simpa using hd.ne_underscore)]
      split
      · rw [show upperOf d = [d] from hd.raised]
        exact List.mem_cons_self
      · exact List.mem_cons_self
    · split
      · exact ih true h
      · split
        · exact List.mem_append_right _ (ih false h)
        · exact List.mem_cons_of_mem _ (ih false h)

theorem mem_convert (s : KeyStyle) (hd : IsKept d) (h : d ∈ t) : d ∈ s.convert t := by
  cases s with
  | camel => exact mem_joinWords hd h
  | snake => exact mem_toLower hd (mem_splitWords h)
  | pascal => exact mem_capitalizeWords hd true h
  | kebab => exact mem_toLower hd (mem_splitWords h)
  | asDeclared => exact h

/-- No conversion takes a `$` away or brings one in. -/
theorem dollar_mem_convert_iff (s : KeyStyle) : '$' ∈ s.convert t ↔ '$' ∈ t := by
  refine ⟨fun h => ?_, s.mem_convert isKept_dollar⟩
  by_contra hnot
  exact s.notMem_convert (by decide) (by decide) (by decide) hnot h

end KeyStyle

/-- Besides `$`, what means something else in a string is no part of an identifier, and no conversion brings it in. -/
theorem foreign_of_not_isInert {c : Char} (h : ¬ IsInert c) (hd : c ≠ '$') :
    NoImage c ∧ c ≠ '_' ∧ c ≠ '-' ∧ isIdentifierPart c = false := by
  have hlisted : c = '\'' ∨ c = '"' ∨ c = '\\' ∨ c = '\n' ∨ c = '\r' := by
    simp only [IsInert, isLive, isLineEnd, Bool.or_eq_false_iff, beq_eq_false_iff_ne] at h
    tauto
  rcases hlisted with rfl | rfl | rfl | rfl | rfl <;> decide +kernel

theorem isInert_of_isIdentifier {n : Text} (h : n.IsIdentifier) (hd : '$' ∉ n) : AllInert n := by
  intro c hc
  by_contra hnot
  have hne : c ≠ '$' := fun e => hd (e ▸ hc)
  exact h.notMem (foreign_of_not_isInert hnot hne).2.2.2 hc

theorem KeyStyle.isInert_convert (s : KeyStyle) {n : Text} (h : n.IsIdentifier) {c : Char} (hc : c ∈ s.convert n)
    (hd : c ≠ '$') : IsInert c := by
  by_contra hnot
  obtain ⟨himage, hsnake, hkebab, hpart⟩ := foreign_of_not_isInert hnot hd
  exact s.notMem_convert himage hsnake hkebab (h.notMem hpart) hc

/-! ### The strings of a class -/

/-- What `toString` is to show of a field. -/
def Field.shownParts (f : Field) : List StringPart := chars (f.name ++ ": ") ++ [.value f.name]

namespace TransferClass

/-- The line of `toString`. -/
def shownLine (name : Text) (fs : List Field) : Text :=
  "  String toString() => '" ++ name ++ "(" ++ Text.joinWith ", " (fs.map Field.interpolation) ++ ")';"

/-- What `toString` is to show. -/
def shownParts (name : Text) (fs : List Field) : List StringPart :=
  chars (name ++ "(") ++ (chars ", ").intercalate (fs.map Field.shownParts) ++ chars ")"

theorem reads_interpolation {f : Field} (hn : f.name.IsIdentifier) (hd : '$' ∉ f.name) :
    Reads f.interpolation f.shownParts := by
  have hname : Reads (f.name ++ ": ".toList) (chars (f.name ++ ": ".toList)) :=
    reads_chars ((isInert_of_isIdentifier hn hd).append (by decide))
  have hvalue := reads_braced (s := f.name) ⟨hn.notMem (isIdentifierPart_of_mem_marks (by decide)),
    hn.notMem (isIdentifierPart_of_mem_marks (by decide))⟩
  have happ : f.interpolation = (f.name ++ ": ".toList) ++ ("$\x7b".toList ++ f.name ++ "\x7d".toList) := by
    show f.name ++ ": $\x7b".toList ++ f.name ++ "\x7d".toList = _
    simp only [List.append_assoc]
    rfl
  rw [happ]
  exact hname.append hvalue

/-- By induction on the fields, with a comma between each two. -/
theorem reads_interpolations {fs : List Field} (hfs : ∀ f ∈ fs, f.name.IsIdentifier ∧ '$' ∉ f.name) :
    Reads (Text.joinWith ", " (fs.map Field.interpolation))
      ((chars ", ").intercalate (fs.map Field.shownParts)) := by
  induction fs with
  | nil => exact .nil
  | cons f fs ih =>
    obtain ⟨⟨hn, hd⟩, hfs⟩ := List.forall_mem_cons.mp hfs
    cases fs with
    | nil => simpa using reads_interpolation hn hd
    | cons f' fs =>
      have hcomma : Reads ", ".toList (chars ", ".toList) := reads_chars (by decide)
      rw [List.map_cons, Text.joinWith_cons _ _ (by simp), List.map_cons, List.map_cons,
        List.map_cons, List.intercalate_cons_cons]
      exact ((reads_interpolation hn hd).append hcomma).append (ih hfs)

theorem reads_shownParts {name : Text} {fs : List Field} (hname : AllInert name)
    (hfs : ∀ f ∈ fs, f.name.IsIdentifier ∧ '$' ∉ f.name) :
    Reads (name ++ "(".toList ++ Text.joinWith ", " (fs.map Field.interpolation) ++ ")".toList)
      (shownParts name fs) := by
  have hopening : Reads (name ++ "(".toList) (chars (name ++ "(".toList)) :=
    reads_chars (hname.append (by decide))
  exact (hopening.append (reads_interpolations hfs)).append (reads_chars (s := ")".toList) (by decide))

theorem shownLine_eq (name : Text) (fs : List Field) : shownLine name fs = "  String toString() => ".toList ++
    '\'' :: ((name ++ "(".toList ++ Text.joinWith ", " (fs.map Field.interpolation) ++ ")".toList) ++
      '\'' :: ";".toList) := by
  have hopen : "  String toString() => '".toList = "  String toString() => ".toList ++ ['\''] := rfl
  have hclose : ")';".toList = ")".toList ++ '\'' :: ";".toList := rfl
  show "  String toString() => '".toList ++ name ++ "(".toList ++
    Text.joinWith ", " (fs.map Field.interpolation) ++ ")';".toList = _
  simp only [hopen, hclose, List.append_assoc, List.cons_append, List.nil_append]

theorem entryLine_mem_lines {c : DataClass} {f : Field} (o : Options) (hf : f ∈ c.fields) :
    f.entryLine ∈ lines c o := by
  have hmap : f.entryLine ∈ toMapLines c.fields := by
    rw [toMapLines, between]
    exact List.mem_append_left _ (List.mem_append_right _ (List.mem_map_of_mem hf))
  simp only [lines_eq, linesToEquality, linesToToString, List.mem_append]
  exact .inl (.inl (.inr (.inl hmap)))

theorem toStringLines_eq (name : Text) (fs : List Field) :
    toStringLines name fs = ["".toList, "  @override".toList, shownLine name fs] := rfl

theorem shownLine_mem_lines (c : DataClass) (o : Options) : shownLine (nameFor c.name o) c.fields ∈ lines c o := by
  have hshown : shownLine (nameFor c.name o) c.fields ∈ toStringLines (nameFor c.name o) c.fields := by
    rw [toStringLines_eq]
    exact List.mem_cons_of_mem _ (List.mem_cons_of_mem _ (List.mem_singleton_self _))
  simp only [lines_eq, linesToEquality, List.mem_append]
  exact .inl (.inr hshown)

/-- The strings of the class stand for what they are made of: each key for itself, wherever it is put in quotes, and
the text of `toString` for itself and the values of the fields. -/
structure StringsInert (c : DataClass) (o : Options) : Prop where
  keys : ∀ f ∈ c.fields, ∀ d ∈ f.key, isLive d = false
  texts : ∀ d, .char d ∈ shownParts (nameFor c.name o) c.fields → isLive d = false
  access : ∀ f ∈ c.fields, Shows f.mapAccess "map[" (chars f.key) "]"
  fallback : ∀ f ∈ c.fields, f.nullable = false →
    Shows f.nullFallback "throw ArgumentError.notNull(" (chars f.key) ")"
  entry : ∀ f ∈ c.fields, f.entryLine ∈ lines c o ∧
    Shows f.entryLine "      " (chars f.key) (": ".toList ++ f.encodeExpr ++ ",".toList)
  shown : shownLine (nameFor c.name o) c.fields ∈ lines c o ∧
    Shows (shownLine (nameFor c.name o) c.fields) "  String toString() => "
      (shownParts (nameFor c.name o) c.fields) ";"

end TransferClass

namespace Field
variable {f : Field}

theorem mapAccess_eq (f : Field) : f.mapAccess = "map[".toList ++ '\'' :: (f.key ++ '\'' :: "]".toList) := by
  show "map['".toList ++ f.key ++ "']".toList = _
  simp only [List.append_assoc]
  rfl

theorem shows_mapAccess (h : AllInert f.key) : Shows f.mapAccess "map[" (chars f.key) "]" := by
  rw [mapAccess_eq]
  exact shows_of_reads (reads_chars h)

theorem shows_nullFallback (h : AllInert f.key) (hnull : f.nullable = false) :
    Shows f.nullFallback "throw ArgumentError.notNull(" (chars f.key) ")" := by
  have hthrow : f.nullFallback =
      "throw ArgumentError.notNull(".toList ++ '\'' :: (f.key ++ '\'' :: ")".toList) := by
    have hopen : "throw ArgumentError.notNull('".toList = "throw ArgumentError.notNull(".toList ++ ['\''] := rfl
    have hclose : "')".toList = '\'' :: ")".toList := rfl
    rw [nullFallback, hnull, if_neg Bool.false_ne_true]
    simp only [hopen, hclose, List.append_assoc, List.cons_append, List.nil_append]
  rw [hthrow]
  exact shows_of_reads (reads_chars h)

theorem shows_entryLine (h : AllInert f.key) :
    Shows f.entryLine "      " (chars f.key) (": ".toList ++ f.encodeExpr ++ ",".toList) := by
  have hentry : f.entryLine =
      "      ".toList ++ '\'' :: (f.key ++ '\'' :: (": ".toList ++ f.encodeExpr ++ ",".toList)) := by
    show "      '".toList ++ f.key ++ "': ".toList ++ f.encodeExpr ++ ",".toList = _
    simp only [List.append_assoc]
    rfl
  rw [hentry]
  exact shows_of_reads (reads_chars h)

end Field

namespace TransferClass
variable {c : DataClass} {o : Options} {d : Char}

/-- Nothing that a string cannot hold as it is comes in with a name or the suffix. -/
structure HasInertNames (c : DataClass) (o : Options) : Prop where
  name : '$' ∉ c.name
  fields : ∀ f ∈ c.fields, '$' ∉ f.name
  suffix : AllInert o.suffix

theorem HasInertNames.nameFor (h : HasInertNames c o) (hc : c.WellFormed) : AllInert (nameFor c.name o) :=
  (isInert_of_isIdentifier hc.name h.name).append h.suffix

theorem of_mem_intercalate {p : StringPart} {sep : List StringPart} {pss : List (List StringPart)}
    (h : p ∈ sep.intercalate pss) : p ∈ sep ∨ ∃ ps ∈ pss, p ∈ ps := by
  induction pss with
  | nil => exact absurd h List.not_mem_nil
  | cons ps pss ih =>
    cases pss with
    | nil => exact .inr ⟨ps, List.mem_singleton_self _, by simpa using h⟩
    | cons ps' pss =>
      rw [List.intercalate_cons_cons, List.mem_append, List.mem_append] at h
      obtain (h | h) | h := h
      · exact .inr ⟨ps, List.mem_cons_self, h⟩
      · exact .inl h
      · exact (ih h).imp_right fun ⟨qs, hqs, hp⟩ => ⟨qs, List.mem_cons_of_mem _ hqs, hp⟩

/-- What `toString` is to show as it stands are the names, and inert marks between them. -/
theorem char_mem_shownParts {name : Text} {fs : List Field} (h : .char d ∈ shownParts name fs) :
    d ∈ name ∨ (∃ f ∈ fs, d ∈ f.name) ∨ IsInert d := by
  have hmarks : ∀ t ∈ ["(", ", ", ": ", ")"], AllInert t.toList := by decide
  rw [shownParts, List.mem_append, List.mem_append] at h
  obtain (h | h) | h := h
  · obtain h | h := List.mem_append.mp (char_mem_chars.mp h)
    · exact .inl h
    · exact .inr (.inr (hmarks "(" (by decide) d h))
  · obtain h | ⟨ps, hps, h⟩ := of_mem_intercalate h
    · exact .inr (.inr (hmarks ", " (by decide) d (char_mem_chars.mp h)))
    · obtain ⟨f, hf, rfl⟩ := List.mem_map.mp hps
      obtain h | h := List.mem_append.mp h
      · obtain h | h := List.mem_append.mp (char_mem_chars.mp h)
        · exact .inr (.inl ⟨f, hf, h⟩)
        · exact .inr (.inr (hmarks ": " (by decide) d h))
      · exact absurd (List.mem_singleton.mp h) nofun
  · exact .inr (.inr (hmarks ")" (by decide) d (char_mem_chars.mp h)))

/-- A line that is read as it is meant does not end within the name. -/
theorem isLineEnd_of_shows {name : Text} {fs : List Field}
    (h : Shows (shownLine name fs) "  String toString() => " (shownParts name fs) ";") :
    ∀ d ∈ name, isLineEnd d = false := by
  rw [shownLine_eq] at h
  simp only [shownParts, chars, List.map_append, List.append_assoc] at h
  exact fun d hd => (inert_of_shows h d hd).2

end TransferClass

namespace Generation
open TransferClass
variable {t : Text} {o : Options} {g : Generation}

theorem dollar_mem_key_iff (h : generate t o = .ok g) {c : DataClass} (hc : c ∈ g.classes) {f : Field}
    (hf : f ∈ c.fields) : '$' ∈ f.key ↔ '$' ∈ f.name := by
  rw [key_eq h hc hf, o.style.dollar_mem_convert_iff]

theorem isInert_key (h : generate t o = .ok g) {c : DataClass} (hc : c ∈ g.classes) {f : Field}
    (hf : f ∈ c.fields) (hdollar : '$' ∉ f.name) : AllInert f.key := by
  intro d hd
  have hne : d ≠ '$' := fun heq => hdollar ((dollar_mem_key_iff h hc hf).mp (heq ▸ hd))
  rw [key_eq h hc hf] at hd
  exact o.style.isInert_convert ((classes_wellFormed h c hc).fields f hf).name hd hne

/-- A key is read as it is exactly when the name of its field has no `$`. -/
theorem shows_mapAccess_iff (h : generate t o = .ok g) {c : DataClass} (hc : c ∈ g.classes) {f : Field}
    (hf : f ∈ c.fields) : Shows f.mapAccess "map[" (chars f.key) "]" ↔ '$' ∉ f.name := by
  refine ⟨fun hshows hd => ?_, fun hd => Field.shows_mapAccess (isInert_key h hc hf hd)⟩
  rw [Field.mapAccess_eq, ← List.append_nil (chars f.key)] at hshows
  exact (inert_of_shows hshows '$' ((dollar_mem_key_iff h hc hf).mpr hd)).1 rfl

theorem hasInertNames_of_stringsInert (h : generate t o = .ok g) {c : DataClass} (hc : c ∈ g.classes)
    (hinert : StringsInert c o) : HasInertNames c o := by
  have hlive : ∀ d ∈ nameFor c.name o, isLive d = false := fun d hd =>
    hinert.texts d (List.mem_append_left _ (List.mem_append_left _
      (char_mem_chars.mpr (List.mem_append_left _ hd))))
  constructor
  case name => exact fun hd => absurd (hlive _ (List.mem_append_left _ hd)) (by decide)
  case fields =>
    intro f hf hd
    exact absurd (hinert.keys f hf '$' ((dollar_mem_key_iff h hc hf).mpr hd)) (by decide)
  case suffix =>
    intro d hd
    have hmem := List.mem_append_right c.name hd
    exact ⟨hlive d hmem, isLineEnd_of_shows hinert.shown.2 d hmem⟩

theorem stringsInert_of_hasInertNames (h : generate t o = .ok g) {c : DataClass} (hc : c ∈ g.classes)
    (hnames : HasInertNames c o) : StringsInert c o := by
  have hwell := classes_wellFormed h c hc
  have hkey : ∀ f ∈ c.fields, AllInert f.key := fun f hf => isInert_key h hc hf (hnames.fields f hf)
  have hfields : ∀ f ∈ c.fields, f.name.IsIdentifier ∧ '$' ∉ f.name := fun f hf =>
    ⟨(hwell.fields f hf).name, hnames.fields f hf⟩
  constructor
  case keys => exact fun f hf d hd => (hkey f hf d hd).1
  case texts =>
    intro d hd
    obtain hd | ⟨f, hf, hd⟩ | hd := char_mem_shownParts hd
    · exact (hnames.nameFor hwell d hd).1
    · exact (isInert_of_isIdentifier (hfields f hf).1 (hfields f hf).2 d hd).1
    · exact hd.1
  case access => exact fun f hf => Field.shows_mapAccess (hkey f hf)
  case fallback => exact fun f hf hnull => Field.shows_nullFallback (hkey f hf) hnull
  case entry => exact fun f hf => ⟨entryLine_mem_lines o hf, Field.shows_entryLine (hkey f hf)⟩
  case shown =>
    refine ⟨shownLine_mem_lines c o, ?_⟩
    rw [shownLine_eq]
    exact shows_of_reads (reads_shownParts (hnames.nameFor hwell) hfields)

/-- The strings of a generated class are inert exactly when its name, the names of its fields and the suffix are; a
single key needs no more than the name of its field. -/
theorem strings_inert_iff (h : generate t o = .ok g) {c : DataClass} (hc : c ∈ g.classes) :
    (StringsInert c o ↔ HasInertNames c o) ∧
      ∀ f ∈ c.fields, Shows f.mapAccess "map[" (chars f.key) "]" ↔ '$' ∉ f.name :=
  ⟨⟨hasInertNames_of_stringsInert h hc, stringsInert_of_hasInertNames h hc⟩,
    fun _ hf => shows_mapAccess_iff h hc hf⟩

/-- A field with a name of two words. -/
def wordsField : Text := "class User {
  final String userName;
}
"

theorem strings_inert_wordsField :
    ∃ g, generate wordsField { style := .snake } = .ok g ∧ ∃ c ∈ g.classes,
      c.fields.map (·.key) = ["user_name".toList] ∧ StringsInert c { style := .snake } := by
  obtain ⟨g, hg, hp⟩ := exists_generation_of_any (t := wordsField) (o := { style := .snake })
    (p := fun g => g.classes.any fun c => decide ('$' ∉ c.name) && decide (∀ f ∈ c.fields, '$' ∉ f.name) &&
      c.fields.map (·.key) == ["user_name".toList]) (by decide +kernel)
  obtain ⟨c, hc, hp⟩ := List.any_eq_true.mp hp
  simp only [Bool.and_eq_true, decide_eq_true_eq] at hp
  obtain ⟨⟨hname, hfields⟩, hkeys⟩ := hp
  exact ⟨g, hg, c, hc, beq_iff_eq.mp hkeys, (strings_inert_iff hg hc).1.mpr ⟨hname, hfields, by decide⟩⟩

/-- A field with a `$` in its name. -/
def pricedField : Text := "class A {
  final int price$usd;
}
"

/-- The key of this field is read as `price` and the value of `usd`. -/
theorem strings_notInert_pricedField :
    ∃ g, generate pricedField {} = .ok g ∧ ∃ c ∈ g.classes, ¬ StringsInert c {} ∧
      ∃ f ∈ c.fields, Shows f.mapAccess "map[" (chars "price" ++ [.value "usd"]) "]" := by
  obtain ⟨g, hg, hp⟩ := exists_generation_of_any (t := pricedField) (o := {})
    (p := fun g => g.classes.any fun c => c.fields.any fun f => f.key == "price$usd") (by decide +kernel)
  obtain ⟨c, hc, hp⟩ := List.any_eq_true.mp hp
  obtain ⟨f, hf, hp⟩ := List.any_eq_true.mp hp
  have hkey : f.key = "price$usd".toList := beq_iff_eq.mp hp
  refine ⟨g, hg, c, hc, fun hinert => ?_, f, hf, ?_⟩
  · exact absurd (hinert.keys f hf '$' (hkey ▸ by decide)) (by decide)
  · rw [Field.mapAccess_eq, hkey]
    exact shows_value_of_name (s := "price") (c := 'u') (n := "sd") (by decide) (by decide) (by decide)

end Generation

end DartTransfer

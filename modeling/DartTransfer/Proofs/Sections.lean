import DartTransfer.Proofs.Runs

/-!
# Reading the sections of a class

A reader of generated classes that knows where a section starts and ends and what its lines look like, but
nothing of fields: the arguments of `fromMap` with the keys that each reads from `map`, the entries of
`toMap`, and the names that `toString`, `props`, `==` and `hashCode` list. It gives up on a section with any
other line in it.
-/

namespace DartTransfer

theorem Text.stripPrefix?_append (p r : Text) : stripPrefix? p (p ++ r) = some r :=
  stripPrefix?_eq_some_iff.mpr rfl

namespace Section

/-- The lines below the heading, up to the closing line. -/
def body (heading closing : Text) (ls : List Text) : List Text :=
  ((ls.dropWhile (· != heading)).drop 1).takeWhile (· != closing)

/-- The lines between the first and the last, if these are as they should be. -/
def enclosed? (first last : Text) : List Text → Option (List Text)
  | [] => none
  | l :: ls => if l == first && ls.getLast? == some last then some ls.dropLast else none

/-- What stands between the start and the end of a text. -/
def framed? (start stop t : Text) : Option Text :=
  (Text.stripPrefix? start t).bind fun r => (Text.stripPrefix? stop.reverse r.reverse).map List.reverse

/-- Every key that follows `map[` and a quote, up to the next quote of its kind. -/
def keysRead : Text → List Text
  | [] => []
  | c :: t =>
    match Text.stripPrefix? "map[" (c :: t) with
    | some (q :: r) => if q == '\'' || q == '"' then r.takeWhile (· != q) :: keysRead t else keysRead t
    | _ => keysRead t

/-! ### Lines -/

/-- A named argument and its expression. -/
def argument? (l : Text) : Option (Text × Text) := do
  let (name, r) ← Text.identifier? (← Text.stripPrefix? "      " l)
  return (name, ← framed? ": " "," r)

/-- An entry of a map, its key in quotes, and the value. -/
def written? (l : Text) : Option (Text × Text) := do
  let r ← Text.stripPrefix? "      '" l
  return (r.takeWhile (· != '\''), ← framed? "': " "," (r.dropWhile (· != '\'')))

/-- The name that is compared with that of the other object. -/
def compared? (l : Text) : Option Text := do
  let (name, r) ← Text.identifier? (← Text.stripPrefix? "        other." l)
  if r == " == " ++ name ++ " &&" || r == " == " ++ name ++ ";" then some name else none

def hashed? (l : Text) : Option Text := do
  let (name, r) ← Text.identifier? (← Text.stripPrefix? "      " l)
  if r == ".hashCode ^" then some name else none

/-- The name that is shown with its value. -/
def shown? (t : Text) : Option Text := do
  let (name, r) ← Text.identifier? t
  if r == ": $\x7b" ++ name ++ "\x7d" then some name else none

/-- What stands between the commas, without the blanks ahead. -/
def listed (t : Text) : List Text := (Text.splitOn ',' t).map Text.trimStart

/-! ### Sections -/

def fromMapHeading (name : Text) : Text := "  factory " ++ name ++ ".fromMap(Map<String, dynamic> map) \x7b"

def toMapHeading : Text := "  Map<String, dynamic> toMap() \x7b"

def equalsHeading : Text := "  bool operator ==(Object other) \x7b"

def hashCodeHeading : Text := "  int get hashCode =>"

def memberEnd : Text := "  \x7d"

def hashCodeEnd : Text := "      17;"

section
variable (name t : Text)

/-- The arguments of `fromMap` in the text of the class of the given name. -/
def arguments : Option (List (Text × Text)) :=
  (enclosed? ("    return " ++ name ++ "(") "    );"
    (body (fromMapHeading name) memberEnd (Text.splitOn '\n' t))).bind fun ls => ls.mapM argument?

/-- The entries of `toMap`. -/
def entries : Option (List (Text × Text)) :=
  (enclosed? "    return \x7b" "    \x7d;" (body toMapHeading memberEnd (Text.splitOn '\n' t))).bind fun ls =>
    ls.mapM written?

/-- The names that `==` compares, below the tests for identity and type. -/
def comparedNames : Option (List Text) :=
  ((body equalsHeading memberEnd (Text.splitOn '\n' t)).drop 3).mapM compared?

def hashedNames : Option (List Text) :=
  (body hashCodeHeading hashCodeEnd (Text.splitOn '\n' t)).mapM hashed?

def shownNames : Option (List Text) :=
  ((Text.splitOn '\n' t).findSome? (framed? ("  String toString() => '" ++ name ++ "(") ")';")).bind fun r =>
    (listed r).mapM shown?

def propNames : Option (List Text) :=
  ((Text.splitOn '\n' t).findSome? (framed? "  List<Object?> get props => [" "];")).map listed

end

/-! ### What is read -/

theorem body_eq {heading closing : Text} {before inner after : List Text} (hb : ∀ l ∈ before, l ≠ heading)
    (hi : ∀ l ∈ inner, l ≠ closing) :
    body heading closing (before ++ heading :: (inner ++ closing :: after)) = inner := by
  rw [body, List.dropWhile_append_of_pos (fun l hl => bne_iff_ne.mpr (hb l hl)),
    List.dropWhile_cons_of_neg (by simp), List.drop_succ_cons, List.drop_zero,
    List.takeWhile_append_of_pos (fun l hl => bne_iff_ne.mpr (hi l hl)),
    List.takeWhile_cons_of_neg (by simp), List.append_nil]

theorem enclosed?_eq (first last : Text) (ls : List Text) :
    enclosed? first last (first :: (ls ++ [last])) = some ls := by
  simp [enclosed?]

theorem framed?_eq_some_iff {start stop t m : Text} : framed? start stop t = some m ↔ t = start ++ m ++ stop := by
  rw [framed?, Option.bind_eq_some_iff]
  constructor
  · rintro ⟨r, hr, hm⟩
    obtain ⟨m', hm', rfl⟩ := Option.map_eq_some_iff.mp hm
    rw [Text.stripPrefix?_eq_some_iff] at hr hm'
    rw [hr, ← List.reverse_reverse r, hm', List.reverse_append, List.reverse_reverse, List.append_assoc]
  · rintro rfl
    refine ⟨m ++ stop, ?_, ?_⟩
    · rw [Text.stripPrefix?_eq_some_iff, List.append_assoc]
    · rw [List.reverse_append, Text.stripPrefix?_eq_some_iff.mpr rfl, Option.map_some, List.reverse_reverse]

theorem framed?_append (start m stop : Text) : framed? start stop (start ++ m ++ stop) = some m :=
  framed?_eq_some_iff.mpr rfl

/-! ### Keys -/

/-- No quote stands in the text. -/
def Quoteless (t : Text) : Prop := '\'' ∉ t ∧ '"' ∉ t

instance (t : Text) : Decidable (Quoteless t) := inferInstanceAs (Decidable (_ ∧ _))

theorem Quoteless.append {s t : Text} (hs : Quoteless s) (ht : Quoteless t) : Quoteless (s ++ t) :=
  ⟨List.not_mem_append hs.1 ht.1, List.not_mem_append hs.2 ht.2⟩

/-- No key starts where `map[` is missing, or has no quote behind it. -/
theorem keysRead_cons {c : Char} {t : Text} (h : ∀ q r, c :: t = "map[".toList ++ q :: r → q ≠ '\'' ∧ q ≠ '"') :
    keysRead (c :: t) = keysRead t := by
  rw [keysRead]
  split
  · next q r hr =>
    obtain ⟨hsingle, hdouble⟩ := h q r (Text.stripPrefix?_eq_some_iff.mp hr)
    exact if_neg (by simp [hsingle, hdouble])
  · rfl

theorem keysRead_of_quoteless {t : Text} (h : Quoteless t) : keysRead t = [] := by
  induction t with
  | nil => rfl
  | cons c t ih =>
    rw [keysRead_cons]
    · exact ih ⟨fun hm => h.1 (List.mem_cons_of_mem _ hm), fun hm => h.2 (List.mem_cons_of_mem _ hm)⟩
    · intro q r e
      have hq : q ∈ c :: t := e ▸ List.mem_append_right _ List.mem_cons_self
      exact ⟨fun e => h.1 (e ▸ hq), fun e => h.2 (e ▸ hq)⟩

/-- Up to a quote a key is read exactly where `map[` comes right before it. -/
theorem keysRead_quote {x : Text} (hx : Quoteless x) (r : Text) : keysRead (x ++ '\'' :: r) =
    (if "map[".toList <:+ x then [r.takeWhile (· != '\'')] else []) ++ keysRead r := by
  induction x with
  | nil => exact keysRead_cons fun q r' e => absurd (List.cons.inj e).1 (by decide)
  | cons c x ih =>
    have ih := ih ⟨fun hm => hx.1 (List.mem_cons_of_mem _ hm), fun hm => hx.2 (List.mem_cons_of_mem _ hm)⟩
    by_cases hmap : "map[".toList = c :: x
    · obtain ⟨rfl, rfl⟩ := List.cons.inj hmap
      rw [if_neg (by decide), List.nil_append] at ih
      rw [if_pos (by decide), ← ih]
      rfl
    · have hsuffix : "map[".toList <:+ c :: x ↔ "map[".toList <:+ x := by
        rw [List.suffix_cons_iff, or_iff_right hmap]
      rw [List.cons_append, keysRead_cons, ih]
      · simp only [hsuffix]
      · intro q r' e
        have e' : (c :: x) ++ '\'' :: r = "map[".toList ++ q :: r' := e
        rcases List.append_eq_append_iff.mp e' with ⟨a, ha, hr⟩ | ⟨a, ha, hr⟩
        · cases a with
          | nil => exact absurd (ha.trans (List.append_nil _)) hmap
          | cons d a =>
            obtain rfl : '\'' = d := (List.cons.inj hr).1
            exact absurd (ha ▸ List.mem_append_right _ List.mem_cons_self : '\'' ∈ "map[".toList) (by decide)
        · cases a with
          | nil => exact absurd (ha.trans (List.append_nil _)).symm hmap
          | cons d a =>
            obtain rfl : q = d := (List.cons.inj hr).1
            have hq : q ∈ c :: x := ha ▸ List.mem_append_right _ List.mem_cons_self
            exact ⟨fun e => hx.1 (e ▸ hq), fun e => hx.2 (e ▸ hq)⟩

end Section

end DartTransfer

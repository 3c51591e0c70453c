/-!
# Texts

A text is the list of its characters, so that scanners are plain recursions and "the input splits
as" is `++`. Positions are counted in bytes of the UTF-8 form: `byteLength` of the part before the
cut, so a text can be cut where `isBoundary` holds and nowhere else (`isBoundary_iff`).
-/

namespace DartTransfer

abbrev Text := List Char

instance : Coe String Text := ⟨String.toList⟩

namespace Text

/-- Size in bytes of the UTF-8 form. -/
def byteLength : Text → Nat
  | [] => 0
  | c :: t => c.utf8Size + byteLength t

@[simp] theorem byteLength_nil : byteLength [] = 0 := rfl

@[simp] theorem byteLength_cons (c : Char) (t : Text) :
    byteLength (c :: t) = c.utf8Size + byteLength t := rfl

@[simp] theorem byteLength_append (s t : Text) :
    byteLength (s ++ t) = byteLength s + byteLength t := by
  induction s with
  | nil => simp
  | cons c s ih => simp [ih, Nat.add_assoc]

theorem byteLength_eq_zero_iff {t : Text} : byteLength t = 0 ↔ t = [] := by
  cases t with
  | nil => simp
  | cons c t => simp [Nat.ne_of_gt c.utf8Size_pos]

/-- A position at which the text can be cut: not past the end and not inside a character. -/
def isBoundary : Text → Nat → Bool
  | _, 0 => true
  | [], _ + 1 => false
  | c :: t, n + 1 => c.utf8Size ≤ n + 1 && isBoundary t (n + 1 - c.utf8Size)

theorem isBoundary_byteLength (s t : Text) : isBoundary (s ++ t) (byteLength s) = true := by
  induction s with
  | nil => cases t <;> rfl
  | cons c s ih =>
    obtain ⟨n, hn⟩ : ∃ n, byteLength (c :: s) = n + 1 :=
      ⟨c.utf8Size - 1 + byteLength s, by have := c.utf8Size_pos; simp; omega⟩
    rw [byteLength_cons] at hn
    rw [byteLength_cons, hn, List.cons_append, isBoundary, show n + 1 - c.utf8Size = byteLength s by omega, ih]
    simp; omega

theorem exists_append_of_isBoundary {t : Text} {n : Nat} (h : isBoundary t n = true) :
    ∃ s r, t = s ++ r ∧ byteLength s = n := by
  induction t generalizing n with
  | nil => cases n <;> simp_all [isBoundary]
  | cons c t ih =>
    cases n with
    | zero => exact ⟨[], c :: t, rfl, rfl⟩
    | succ n =>
      simp only [isBoundary, Bool.and_eq_true, decide_eq_true_eq] at h
      obtain ⟨s, r, rfl, hs⟩ := ih h.2
      exact ⟨c :: s, r, rfl, by simp [hs]; omega⟩

theorem isBoundary_iff {t : Text} {n : Nat} :
    isBoundary t n = true ↔ ∃ s r, t = s ++ r ∧ byteLength s = n :=
  ⟨exists_append_of_isBoundary, by rintro ⟨s, r, rfl, rfl⟩; exact isBoundary_byteLength s r⟩

/-- The characters that lie wholly within the first `n` bytes. -/
def takeBytes : Nat → Text → Text
  | _, [] => []
  | n, c :: t => if c.utf8Size ≤ n then c :: takeBytes (n - c.utf8Size) t else []

/-- What `takeBytes` leaves. -/
def dropBytes : Nat → Text → Text
  | _, [] => []
  | n, c :: t => if c.utf8Size ≤ n then dropBytes (n - c.utf8Size) t else c :: t

theorem takeBytes_append_dropBytes (n : Nat) (t : Text) : takeBytes n t ++ dropBytes n t = t := by
  induction t generalizing n with
  | nil => rfl
  | cons c t ih => simp only [takeBytes, dropBytes]; split <;> simp [ih]

@[simp] theorem takeBytes_byteLength (s t : Text) : takeBytes (byteLength s) (s ++ t) = s := by
  induction s with
  | nil => cases t <;> simp [takeBytes, Nat.not_le.mpr (Char.utf8Size_pos _)]
  | cons c s ih => simp [takeBytes, ih]

@[simp] theorem dropBytes_byteLength (s t : Text) : dropBytes (byteLength s) (s ++ t) = t := by
  induction s with
  | nil => cases t <;> simp [dropBytes, Nat.not_le.mpr (Char.utf8Size_pos _)]
  | cons c s ih => simp [dropBytes, ih]

/-- What follows `p` at the head of the text. -/
def stripPrefix? : Text → Text → Option Text
  | [], t => some t
  | _ :: _, [] => none
  | c :: p, d :: t => if c = d then stripPrefix? p t else none

theorem stripPrefix?_eq_some_iff {p t r : Text} : stripPrefix? p t = some r ↔ t = p ++ r := by
  induction p generalizing t with
  | nil => simp [stripPrefix?]
  | cons c p ih =>
    cases t with
    | nil => simp [stripPrefix?]
    | cons d t =>
      simp only [stripPrefix?, List.cons_append, List.cons.injEq]
      split
      · next h => rw [ih]; exact ⟨fun e => ⟨h.symm, e⟩, And.right⟩
      · next h => exact ⟨nofun, fun e => absurd e.1.symm h⟩

theorem length_of_stripPrefix? {p t r : Text} (h : stripPrefix? p t = some r) :
    r.length + p.length = t.length := by
  rw [stripPrefix?_eq_some_iff.mp h, List.length_append, Nat.add_comm]

/-- Whether `p` stands somewhere in the text. -/
def occursIn (p : Text) : Text → Bool
  | [] => p.isEmpty
  | c :: t => p.isPrefixOf (c :: t) || occursIn p t

/-- The text less its longest ending of `p`-characters, and that ending. -/
def splitEnd (p : Char → Bool) (t : Text) : Text × Text :=
  ((t.reverse.dropWhile p).reverse, (t.reverse.takeWhile p).reverse)

theorem splitEnd_append (p : Char → Bool) (t : Text) : (splitEnd p t).1 ++ (splitEnd p t).2 = t := by
  rw [splitEnd, ← List.reverse_append, List.takeWhile_append_dropWhile, List.reverse_reverse]

/-- The parts between the separators, of which there is one more than there are separators. -/
def splitOn (sep : Char) : Text → List Text
  | [] => [[]]
  | c :: t =>
    if c == sep then [] :: splitOn sep t
    else match splitOn sep t with
      | [] => [[c]]
      | p :: ps => (c :: p) :: ps

/-- A number in decimal digits. -/
def ofNat (n : Nat) : Text := Nat.toDigits 10 n

/-- The pieces with `sep` between each two of them. -/
def joinWith (sep : Text) (ts : List Text) : Text := (ts.intersperse sep).flatten

@[simp] theorem joinWith_singleton (sep t : Text) : joinWith sep [t] = t := List.append_nil t

theorem joinWith_cons {ts : List Text} (sep t : Text) (hne : ts ≠ []) :
    joinWith sep (t :: ts) = t ++ sep ++ joinWith sep ts := by
  obtain ⟨u, us, rfl⟩ := List.exists_cons_of_ne_nil hne
  exact List.intercalate_cons_cons

end Text

end DartTransfer

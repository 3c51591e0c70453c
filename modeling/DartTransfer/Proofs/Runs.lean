import DartTransfer.SourceClass

/-!
# Runs of characters

Scanners take the longest run of a kind of characters off one end of a text. Where a text is given
as two parts of which one is such a run and the other does not go on with it, the scanners return
the two parts; and what they return is always such a split. `Text.IsIdentifier` says which texts are
identifiers, and `Text.identifier?_eq_some_iff` that these are what is read.
-/

namespace DartTransfer

namespace Text
variable {p : Char → Bool} {a b t : Text}

/-! ### Runs at the front -/

theorem takeWhile_run (ha : ∀ c ∈ a, p c = true) (hb : ∀ c ∈ b.head?, p c = false) :
    (a ++ b).takeWhile p = a := by
  rw [List.takeWhile_append_of_pos ha]
  cases b with
  | nil => simp
  | cons c b => rw [List.takeWhile_cons, hb c rfl]; simp

theorem dropWhile_run (ha : ∀ c ∈ a, p c = true) (hb : ∀ c ∈ b.head?, p c = false) :
    (a ++ b).dropWhile p = b := by
  rw [List.dropWhile_append_of_pos ha]
  cases b with
  | nil => simp
  | cons c b => rw [List.dropWhile_cons, hb c rfl]; simp

/-- A text has one split into a run and a rest that does not go on with it. -/
theorem run_inj {a' b' : Text} (h : a ++ b = a' ++ b') (ha : ∀ c ∈ a, p c = true)
    (hb : ∀ c ∈ b.head?, p c = false) (ha' : ∀ c ∈ a', p c = true) (hb' : ∀ c ∈ b'.head?, p c = false) :
    a = a' ∧ b = b' := by
  refine ⟨?_, ?_⟩
  · rw [← takeWhile_run ha hb, h, takeWhile_run ha' hb']
  · rw [← dropWhile_run ha hb, h, dropWhile_run ha' hb']

theorem takeWhile_all {c : Char} (hc : c ∈ t.takeWhile p) : p c = true := by
  induction t with
  | nil => simp at hc
  | cons d t ih =>
    rw [List.takeWhile_cons] at hc
    split at hc
    · next hd =>
      rcases List.mem_cons.mp hc with rfl | hc
      · exact hd
      · exact ih hc
    · simp at hc

theorem head?_dropWhile {c : Char} (hc : c ∈ (t.dropWhile p).head?) : p c = false := by
  have h := List.head?_dropWhile_not p t
  rw [Option.mem_def.mp hc] at h
  exact h

theorem splitAt?_eq_some_iff {c : Char} {s r : Text} :
    splitAt? c t = some (s, r) ↔ t = s ++ c :: r ∧ c ∉ s := by
  have hne : ∀ {u : Text}, c ∉ u → ∀ d ∈ u, (d != c) = true := by
    intro u hu d hd
    exact bne_iff_ne.mpr fun e => hu (e ▸ hd)
  constructor
  · intro h
    rw [splitAt?] at h
    split at h
    · simp at h
    · next d r' e =>
      obtain ⟨rfl, rfl⟩ := Prod.mk.inj (Option.some.inj h)
      obtain rfl : d = c := by
        have := head?_dropWhile (c := d) (t := t) (by rw [e]; rfl)
        simpa using this
      refine ⟨?_, fun hc => by simpa using takeWhile_all hc⟩
      rw [← e, List.takeWhile_append_dropWhile]
  · rintro ⟨rfl, hc⟩
    rw [splitAt?, dropWhile_run (hne hc) (by simp), takeWhile_run (hne hc) (by simp)]

theorem splitAt?_eq_none_iff {c : Char} : splitAt? c t = none ↔ c ∉ t := by
  constructor
  · intro h hc
    obtain ⟨s, r, rfl, hs⟩ := List.eq_append_cons_of_mem hc
    rw [splitAt?_eq_some_iff.mpr ⟨rfl, hs⟩] at h
    exact absurd h nofun
  · intro hc
    rw [← Option.not_isSome_iff_eq_none]
    intro h
    obtain ⟨⟨s, r⟩, h⟩ := Option.isSome_iff_exists.mp h
    refine hc ?_
    rw [(splitAt?_eq_some_iff.mp h).1]
    simp

/-- A character that the first part lacks stands behind it. -/
theorem exists_of_append_eq_cons {c : Char} {s r : Text} (h : a ++ b = s ++ c :: r) (hc : c ∉ a) :
    ∃ u, s = a ++ u ∧ b = u ++ c :: r := by
  rcases List.append_eq_append_iff.mp h with ⟨u, hs, hb⟩ | ⟨u, ha, hr⟩
  · exact ⟨u, hs, hb⟩
  · cases u with
    | nil => exact ⟨[], by simpa using ha.symm, by simpa using hr.symm⟩
    | cons d u =>
      obtain ⟨rfl, -⟩ := List.cons.inj hr
      exact absurd (by rw [ha]; simp) hc

/-! ### Runs at the end -/

theorem splitEnd_run (ha : ∀ c ∈ a.getLast?, p c = false) (hb : ∀ c ∈ b, p c = true) :
    splitEnd p (a ++ b) = (a, b) := by
  have hb' : ∀ c ∈ b.reverse, p c = true := fun c hc => hb c (List.mem_reverse.mp hc)
  have ha' : ∀ c ∈ a.reverse.head?, p c = false := by rw [List.head?_reverse]; exact ha
  rw [splitEnd, List.reverse_append, dropWhile_run hb' ha', takeWhile_run hb' ha', List.reverse_reverse,
    List.reverse_reverse]

theorem splitEnd_inj {a' b' : Text} (h : a ++ b = a' ++ b') (ha : ∀ c ∈ a.getLast?, p c = false)
    (hb : ∀ c ∈ b, p c = true) (ha' : ∀ c ∈ a'.getLast?, p c = false) (hb' : ∀ c ∈ b', p c = true) :
    a = a' ∧ b = b' := by
  have := congrArg (splitEnd p) h
  rw [splitEnd_run ha hb, splitEnd_run ha' hb'] at this
  exact Prod.mk.inj this

theorem splitEnd_fst_getLast? {c : Char} (hc : c ∈ (splitEnd p t).1.getLast?) : p c = false := by
  rw [splitEnd, List.getLast?_reverse] at hc
  exact head?_dropWhile hc

theorem splitEnd_snd_all {c : Char} (hc : c ∈ (splitEnd p t).2) : p c = true := by
  rw [splitEnd, List.mem_reverse] at hc
  exact takeWhile_all hc

theorem trimEnd_getLast? {c : Char} (hc : c ∈ (trimEnd t).getLast?) : isBlank c = false :=
  splitEnd_fst_getLast? hc

theorem blankEnd_all {c : Char} (hc : c ∈ blankEnd t) : isBlank c = true := splitEnd_snd_all hc

theorem trimEnd_run (ha : ∀ c ∈ a.getLast?, isBlank c = false) (hb : ∀ c ∈ b, isBlank c = true) :
    trimEnd (a ++ b) = a := by
  rw [trimEnd, splitEnd_run ha hb]

/-- Trimming stops at a visible character. -/
theorem trimEnd_append (ha : ∀ c ∈ a.getLast?, isBlank c = false) (b : Text) :
    trimEnd (a ++ b) = a ++ trimEnd b := by
  have hlast : ∀ c ∈ (a ++ trimEnd b).getLast?, isBlank c = false := by
    intro c hc
    rw [List.getLast?_append] at hc
    rcases Option.or_eq_some_iff.mp hc with hc | ⟨-, hc⟩
    · exact trimEnd_getLast? hc
    · exact ha c hc
  rw [← trimEnd_run hlast fun c hc => blankEnd_all (t := b) hc, List.append_assoc,
    trimEnd_append_blankEnd]

theorem trimEnd_ne_nil {c : Char} (hc : c ∈ t) (hb : isBlank c = false) : trimEnd t ≠ [] := by
  intro hnil
  have hsplit := trimEnd_append_blankEnd t
  rw [hnil, List.nil_append] at hsplit
  rw [← hsplit] at hc
  rw [blankEnd_all hc] at hb
  exact Bool.noConfusion hb

/-! ### Words -/

theorem words_cons (c : Char) (t : Text) : words (c :: t) =
    if isBlank c then words t
    else match t, words t with
      | d :: _, w :: ws => if isBlank d then [c] :: w :: ws else (c :: w) :: ws
      | _, ws => [c] :: ws := by
  delta words
  rfl

theorem words_blanks (ha : ∀ c ∈ a, isBlank c = true) : words (a ++ b) = words b := by
  induction a with
  | nil => rfl
  | cons c a ih =>
    rw [List.cons_append, words_cons, if_pos (ha c List.mem_cons_self)]
    exact ih fun d hd => ha d (List.mem_cons_of_mem _ hd)

theorem isBlank_of_words_eq_nil (h : words t = []) : ∀ c ∈ t, isBlank c = true := by
  induction t with
  | nil => simp
  | cons c t ih =>
    rw [words_cons] at h
    split at h
    · next hc =>
      intro d hd
      rcases List.mem_cons.mp hd with rfl | hd
      · exact hc
      · exact ih h d hd
    · split at h
      · split at h <;> exact absurd h (List.cons_ne_nil _ _)
      · exact absurd h (List.cons_ne_nil _ _)

/-- A run of other characters that a blank or the end follows is the first word. -/
theorem words_run (hne : a ≠ []) (ha : ∀ c ∈ a, isBlank c = false)
    (hb : ∀ c ∈ b.head?, isBlank c = true) : words (a ++ b) = a :: words b := by
  induction a with
  | nil => exact absurd rfl hne
  | cons c a ih =>
    have hc : ¬ isBlank c = true := by rw [ha c List.mem_cons_self]; exact Bool.false_ne_true
    rw [List.cons_append, words_cons, if_neg hc]
    cases a with
    | nil =>
      cases b with
      | nil => rfl
      | cons d b =>
        rw [List.nil_append]
        cases words (d :: b) with
        | nil => rfl
        | cons w ws => exact if_pos (hb d rfl)
    | cons d a =>
      rw [ih (List.cons_ne_nil d a) fun e he => ha e (List.mem_cons_of_mem _ he)]
      have hd : ¬ isBlank d = true := by
        rw [ha d (List.mem_cons_of_mem _ List.mem_cons_self)]
        exact Bool.false_ne_true
      exact if_neg hd

theorem words_eq_cons {w : Text} {ws : List Text} (h : words t = w :: ws) : ∃ b r, t = b ++ w ++ r ∧
    (∀ c ∈ b, isBlank c = true) ∧ w ≠ [] ∧ (∀ c ∈ w, isBlank c = false) ∧
      ∀ c ∈ r.head?, isBlank c = true := by
  have hfront : t = t.takeWhile isBlank ++ trimStart t := List.takeWhile_append_dropWhile.symm
  have hword :
      trimStart t = (trimStart t).takeWhile (!isBlank ·) ++ (trimStart t).dropWhile (!isBlank ·) :=
    List.takeWhile_append_dropWhile.symm
  have hw : ∀ c ∈ (trimStart t).takeWhile (!isBlank ·), isBlank c = false :=
    fun c hc => by simpa using takeWhile_all hc
  have hr : ∀ c ∈ ((trimStart t).dropWhile (!isBlank ·)).head?, isBlank c = true := fun c hc => by
    simpa using head?_dropWhile hc
  rw [hfront, words_blanks fun c hc => takeWhile_all hc] at h
  have hne : (trimStart t).takeWhile (!isBlank ·) ≠ [] := by
    intro e
    cases hs : trimStart t with
    | nil => rw [hs] at h; exact absurd h nofun
    | cons c s =>
      have hc : isBlank c = false := head?_dropWhile (t := t) (by rw [← trimStart, hs]; rfl)
      rw [hs, List.takeWhile_cons, if_pos (by simp [hc])] at e
      exact absurd e (List.cons_ne_nil _ _)
  rw [hword, words_run hne hw hr] at h
  obtain ⟨rfl, -⟩ := List.cons.inj h
  refine ⟨t.takeWhile isBlank, _, ?_, fun c hc => takeWhile_all hc, hne, hw, hr⟩
  rw [List.append_assoc, ← hword]
  exact hfront

/-! ### Identifiers -/

theorem notMem_of_isIdentifierPart (ht : ∀ c ∈ t, isIdentifierPart c = true) {c : Char}
    (hc : isIdentifierPart c = false) : c ∉ t := by
  intro hm
  rw [ht c hm] at hc
  exact Bool.noConfusion hc

/-- An identifier, which nothing else stands before or after. -/
def IsIdentifier (n : Text) : Prop :=
  (∃ c ∈ n.head?, isIdentifierStart c = true) ∧ ∀ c ∈ n, isIdentifierPart c = true

namespace IsIdentifier
variable {n : Text}

theorem ne_nil (h : IsIdentifier n) : n ≠ [] := by
  obtain ⟨⟨c, hc, -⟩, -⟩ := h
  rintro rfl
  simp at hc

theorem notMem (h : IsIdentifier n) {c : Char} (hc : isIdentifierPart c = false) : c ∉ n :=
  notMem_of_isIdentifierPart h.2 hc

/-- An identifier goes on with identifier characters. -/
theorem append (h : IsIdentifier n) {tail : Text} (ht : ∀ c ∈ tail, isIdentifierPart c = true) :
    IsIdentifier (n ++ tail) := by
  obtain ⟨⟨c, hc, hs⟩, hn⟩ := h
  refine ⟨⟨c, by rw [List.head?_append, Option.mem_def.mp hc]; rfl, hs⟩, ?_⟩
  intro d hd
  rcases List.mem_append.mp hd with hd | hd
  · exact hn d hd
  · exact ht d hd

end IsIdentifier

theorem identifier?_eq_some_iff {n r : Text} :
    identifier? t = some (n, r) ↔ t = n ++ r ∧ IsIdentifier n ∧
      ∀ c ∈ r.head?, isIdentifierPart c = false := by
  constructor
  · intro h
    refine ⟨append_of_identifier? h, ?_⟩
    cases t with
    | nil => simp [identifier?] at h
    | cons c t =>
      rw [identifier?] at h
      split at h
      · next hs =>
        obtain ⟨rfl, rfl⟩ := Prod.mk.inj (Option.some.inj h)
        refine ⟨⟨⟨c, rfl, hs⟩, ?_⟩, fun d hd => head?_dropWhile hd⟩
        intro d hd
        rcases List.mem_cons.mp hd with rfl | hd
        · exact isIdentifierPart_of_isIdentifierStart hs
        · exact takeWhile_all hd
      · simp at h
  · rintro ⟨rfl, ⟨⟨c, hc, hs⟩, hn⟩, hr⟩
    cases n with
    | nil => simp at hc
    | cons d n =>
      obtain rfl : d = c := by simpa using hc
      have hn' : ∀ e ∈ n, isIdentifierPart e = true := fun e he => hn e (List.mem_cons_of_mem _ he)
      rw [List.cons_append, identifier?, if_pos hs, takeWhile_run hn' hr, dropWhile_run hn' hr]

end Text

end DartTransfer

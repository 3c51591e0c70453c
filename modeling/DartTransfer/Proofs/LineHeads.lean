import Mathlib.Data.List.Infix
import DartTransfer.Proofs.Runs

/-!
# What stands at the head of a line

`Text.Heads p s P t`: `p` stands in `t` behind a text that `P` holds of, with blanks only back to the
last newline; whether the text itself starts at the head of a line is `s`. From the start of a text
this says that a line begins with `p`, blanks aside (`heads_iff_lines`). Where two texts meet, `p`
stands in one of them unless it stands across (`heads_append`), which a directive can do at few
places (`IsDirective`).
-/

namespace DartTransfer

namespace Text
variable {p a b t u v : Text} {s : Bool} {P Q : Text → Prop}

/-! ### Heads of lines -/

/-- Whether there are only blanks behind the last newline of the text, which has one ahead of it if
`s`. -/
def atHead (s : Bool) (t : Text) : Bool := t.foldl (fun s c => c == '\n' || s && isBlank c) s

@[simp] theorem atHead_nil (s : Bool) : atHead s [] = s := rfl

theorem atHead_cons (s : Bool) (c : Char) (t : Text) :
    atHead s (c :: t) = atHead (c == '\n' || s && isBlank c) t := rfl

theorem atHead_append (s : Bool) (a b : Text) : atHead s (a ++ b) = atHead (atHead s a) b :=
  List.foldl_append

/-- A line with a visible character is not left at its head. -/
theorem atHead_of_mem {c : Char} (hc : c ∈ t) (hb : isBlank c = false) (hn : '\n' ∉ t) (s : Bool) :
    atHead s t = false := by
  have hstay (t : Text) (hn : '\n' ∉ t) : atHead false t = false := by
    induction t with
    | nil => rfl
    | cons d t ih =>
      rw [List.mem_cons, not_or] at hn
      rw [atHead_cons, Bool.false_and, Bool.or_false, beq_eq_false_iff_ne.mpr (Ne.symm hn.1), ih hn.2]
  obtain ⟨front, rest, rfl⟩ := List.append_of_mem hc
  have hne : c ≠ '\n' := by rintro rfl; exact hn (by simp)
  rw [atHead_append, atHead_cons, hb, Bool.and_false, Bool.or_false, beq_eq_false_iff_ne.mpr hne]
  exact hstay rest fun h => hn (by simp [h])

theorem atHead_of_getLast? {c : Char} (hc : c ∈ t.getLast?) (hb : isBlank c = false) (s : Bool) :
    atHead s t = false := by
  obtain ⟨u, rfl⟩ := List.getLast?_eq_some_iff.mp hc
  rw [atHead_append, atHead_of_mem (List.mem_singleton_self c) hb]
  rw [List.mem_singleton]
  rintro rfl
  exact absurd hb (by decide)

/-! ### A text at the head of a line -/

/-- `p` stands in `t` at the head of a line, behind a text with `P`; `t` has a newline ahead of it
if `s`. -/
def Heads (p : Text) (s : Bool) (P : Text → Prop) (t : Text) : Prop :=
  ∃ u v, t = u ++ p ++ v ∧ atHead s u = true ∧ P u

theorem Heads.congr (h : ∀ u v, t = u ++ p ++ v → (P u ↔ Q u)) : Heads p s P t ↔ Heads p s Q t := by
  constructor
  · rintro ⟨u, v, ht, hu, hP⟩
    exact ⟨u, v, ht, hu, (h u v ht).mp hP⟩
  · rintro ⟨u, v, ht, hu, hQ⟩
    exact ⟨u, v, ht, hu, (h u v ht).mpr hQ⟩

theorem Heads.isInfix (h : Heads p s P t) : p <:+: t := by
  obtain ⟨u, v, ht, -⟩ := h
  exact ⟨u, v, ht.symm⟩

/-- Some of `p` stands at the end of `a`, and the rest of it at the start of `b`. -/
def Across (p a b : Text) : Prop := ∃ x y, p = x ++ y ∧ x ≠ [] ∧ y ≠ [] ∧ x <:+ a ∧ y <+: b

theorem heads_append (h : ¬ Across p a b) :
    Heads p s P (a ++ b) ↔ Heads p s P a ∨ Heads p (atHead s a) (fun u => P (a ++ u)) b := by
  constructor
  · rintro ⟨u, v, huv, hu, hP⟩
    rcases List.append_eq_append_iff.mp huv with ⟨c, hup, hb⟩ | ⟨c, ha, -⟩
    · rcases List.append_eq_append_iff.mp hup with ⟨x, rfl, hp⟩ | ⟨x, rfl, rfl⟩
      · by_cases hx : x = []
        · subst hx
          refine .inr ⟨[], v, by rw [hb, hp]; rfl, ?_, ?_⟩
          · rwa [List.append_nil]
          · simpa using hP
        · by_cases hc : c = []
          · exact .inl ⟨u, [], by rw [hp, hc, List.append_nil, List.append_nil], hu, hP⟩
          · exact absurd ⟨x, c, hp, hx, hc, ⟨u, rfl⟩, ⟨v, hb.symm⟩⟩ h
      · rw [atHead_append] at hu
        exact .inr ⟨x, v, hb, hu, hP⟩
    · exact .inl ⟨u, c, ha, hu, hP⟩
  · rintro (⟨u, v, rfl, hu, hP⟩ | ⟨u, v, rfl, hu, hP⟩)
    · exact ⟨u, v ++ b, by simp, hu, hP⟩
    · exact ⟨a ++ u, v, by simp, by rwa [atHead_append], hP⟩

theorem heads_cons {c : Char} : Heads p s P (c :: t) ↔
    s = true ∧ p <+: c :: t ∧ P [] ∨
      Heads p (c == '\n' || s && isBlank c) (fun u => P (c :: u)) t := by
  constructor
  · rintro ⟨u, v, huv, hu, hP⟩
    cases u with
    | nil => exact .inl ⟨hu, ⟨v, huv.symm⟩, hP⟩
    | cons d u =>
      obtain ⟨rfl, rfl⟩ := List.cons.inj huv
      exact .inr ⟨u, v, rfl, hu, hP⟩
  · rintro (⟨hs, ⟨v, hv⟩, hP⟩ | ⟨u, v, rfl, hu, hP⟩)
    · exact ⟨[], v, hv.symm, hs, hP⟩
    · exact ⟨c :: u, v, rfl, hu, hP⟩

/-- Text that comes first on its line counts for what is ahead of it only. -/
theorem heads_of_visible {c : Char} (hc : isBlank c = false) (hp : ¬ p <+: c :: t) :
    Heads p s P (c :: t) ↔ Heads p false P (c :: t) := by
  rw [heads_cons, heads_cons, hc, Bool.and_false, Bool.and_false]
  simp [hp]

theorem not_across_of_head (h : ∀ c ∈ b.head?, c ∉ p) : ¬ Across p a b := by
  rintro ⟨x, y, rfl, -, hy, -, ⟨v, rfl⟩⟩
  obtain ⟨c, y, rfl⟩ := List.exists_cons_of_ne_nil hy
  exact h c rfl (by simp)

theorem not_across_of_getLast? (h : ∀ c ∈ a.getLast?, c ∉ p) : ¬ Across p a b := by
  rintro ⟨x, y, rfl, hx, -, ⟨u, rfl⟩, -⟩
  refine h (x.getLast hx) ?_ (List.mem_append_left y (List.getLast_mem hx))
  rw [List.getLast?_append_of_ne_nil u hx]
  exact List.getLast?_eq_some_getLast hx

/-! ### Directives -/

/-- A line of its own, ended by its only semicolon. -/
structure IsDirective (p : Text) : Prop where
  head_visible : p.head?.any isBlank = false
  newline_notMem : '\n' ∉ p
  brace_notMem : '\x7d' ∉ p
  not_class : ¬ "class".toList <:+: p
  semicolon : ∃ q, p = q ++ [';'] ∧ ';' ∉ q

namespace IsDirective

theorem ne_nil (h : IsDirective p) : p ≠ [] := by
  obtain ⟨q, rfl, -⟩ := h.semicolon
  simp

theorem semicolon_mem (h : IsDirective p) {x y : Text} (hp : p = x ++ y) (hy : y ≠ []) : ';' ∈ y := by
  obtain ⟨q, hq, -⟩ := h.semicolon
  have hlast := congrArg List.getLast? (hp.symm.trans hq)
  rw [List.getLast?_append_of_ne_nil x hy, List.getLast?_concat] at hlast
  exact List.mem_of_getLast? hlast

theorem semicolon_notMem (h : IsDirective p) {x y : Text} (hp : p = x ++ y) (hy : y ≠ []) : ';' ∉ x := by
  obtain ⟨q, hq, hsemi⟩ := h.semicolon
  obtain ⟨y, c, rfl⟩ := List.eq_nil_or_concat' y |>.resolve_left hy
  rw [← List.append_assoc, hq] at hp
  obtain ⟨rfl, -⟩ := List.append_inj' hp rfl
  exact fun hx => hsemi (List.mem_append_left y hx)

theorem not_across_semicolon (h : IsDirective p) (ha : a.getLast? = some ';') : ¬ Across p a b := by
  rintro ⟨x, y, hp, hx, hy, ⟨u, rfl⟩, -⟩
  rw [List.getLast?_append_of_ne_nil u hx] at ha
  exact h.semicolon_notMem hp hy (List.mem_of_getLast? ha)

theorem not_across_class (h : IsDirective p) (hb : "class".toList <+: b) : ¬ Across p a b := by
  rintro ⟨x, y, hp, -, hy, -, hyb⟩
  rcases List.prefix_or_prefix_of_prefix hyb hb with hclass | hclass
  · exact absurd (hclass.subset (h.semicolon_mem hp hy)) (by decide)
  · exact h.not_class (hclass.isInfix.trans ⟨x, [], by rw [hp, List.append_nil]⟩)

theorem not_across_brace (h : IsDirective p) (ha : '\x7d' ∈ a.getLast?) : ¬ Across p a b :=
  not_across_of_getLast? fun _ hd => Option.mem_unique ha hd ▸ h.brace_notMem

theorem not_across_newline (h : IsDirective p) (hb : '\n' ∈ b.head?) : ¬ Across p a b :=
  not_across_of_head fun _ hd => Option.mem_unique hb hd ▸ h.newline_notMem

theorem not_across_newline_left (h : IsDirective p) (ha : '\n' ∈ a.getLast?) : ¬ Across p a b :=
  not_across_of_getLast? fun _ hd => Option.mem_unique ha hd ▸ h.newline_notMem

theorem not_across_blank_left (h : IsDirective p) (ha : ∀ c ∈ a, isBlank c = true) : ¬ Across p a b := by
  rintro ⟨x, y, rfl, hx, -, hxa, -⟩
  obtain ⟨c, x, rfl⟩ := List.exists_cons_of_ne_nil hx
  have hc : isBlank c = false := h.head_visible
  rw [ha c (hxa.subset List.mem_cons_self)] at hc
  exact Bool.noConfusion hc

theorem not_across_blank_right (h : IsDirective p) (hb : ∀ c ∈ b, isBlank c = true) :
    ¬ Across p a b := by
  rintro ⟨x, y, hp, -, hy, -, hyb⟩
  exact absurd (hb ';' (hyb.subset (h.semicolon_mem hp hy))) (by decide)

theorem not_heads_blank (h : IsDirective p) (ht : ∀ c ∈ t, isBlank c = true) : ¬ Heads p s P t := by
  intro hheads
  have hsemi : ';' ∈ p := h.semicolon_mem (List.nil_append p).symm h.ne_nil
  exact absurd (ht ';' (hheads.isInfix.subset hsemi)) (by decide)

theorem heads_blank_append (h : IsDirective p) (ha : ∀ c ∈ a, isBlank c = true) :
    Heads p s P (a ++ b) ↔ Heads p (atHead s a) (fun u => P (a ++ u)) b := by
  rw [heads_append (h.not_across_blank_left ha), or_iff_right (h.not_heads_blank ha)]

theorem heads_append_blank (h : IsDirective p) (hb : ∀ c ∈ b, isBlank c = true) :
    Heads p s P (a ++ b) ↔ Heads p s P a := by
  rw [heads_append (h.not_across_blank_right hb), or_iff_left (h.not_heads_blank hb)]

theorem heads_trimEnd (h : IsDirective p) (t : Text) : Heads p s P t.trimEnd ↔ Heads p s P t := by
  have hblank : Heads p s P (t.trimEnd ++ t.blankEnd) ↔ Heads p s P t.trimEnd :=
    h.heads_append_blank fun c hc => blankEnd_all hc
  rw [← hblank, trimEnd_append_blankEnd]

/-- A text in which `class` comes first can as well stand behind other text on its line. -/
theorem heads_class (h : IsDirective p) (ht : "class".toList <+: t) :
    Heads p s (fun _ => True) t ↔ Heads p false (fun _ => True) t := by
  obtain ⟨r, rfl⟩ := ht
  have hnot : ¬ p <+: "class".toList ++ r := by
    intro hp
    rcases List.prefix_or_prefix_of_prefix hp ⟨r, rfl⟩ with hclass | hclass
    · exact absurd (hclass.subset (h.semicolon_mem (List.nil_append p).symm h.ne_nil)) (by decide)
    · exact h.not_class hclass.isInfix
  exact heads_of_visible (c := 'c') (t := "lass".toList ++ r) (by decide) hnot

end IsDirective

theorem splitOn_eq_splitOn (sep : Char) (t : Text) : splitOn sep t = List.splitOn sep t := by
  induction t with
  | nil => rfl
  | cons c t ih =>
    rw [splitOn, ih, List.splitOn_cons_eq_if_modifyHead]
    obtain ⟨l, ls, h⟩ := List.exists_cons_of_ne_nil (List.splitOn_ne_nil sep t)
    rw [h]
    rfl

theorem exists_splitOn (sep : Char) (t : Text) : ∃ l ls, splitOn sep t = l :: ls := by
  rw [splitOn_eq_splitOn]
  exact List.exists_cons_of_ne_nil (List.splitOn_ne_nil sep t)

theorem splitOn_cons {sep : Char} {l : Text} {ls : List Text} (h : splitOn sep t = l :: ls) (c : Char) :
    splitOn sep (c :: t) = if c == sep then [] :: l :: ls else (c :: l) :: ls := by
  rw [splitOn, h]

theorem splitOn_joinWith {sep : Char} {ls : List Text} (hne : ls ≠ []) (hls : ∀ l ∈ ls, sep ∉ l) :
    splitOn sep (joinWith [sep] ls) = ls := by
  rw [splitOn_eq_splitOn]
  exact List.splitOn_intercalate sep hls hne

theorem splitOn_flatMap {sep : Char} {ls : List Text} (hls : ∀ l ∈ ls, sep ∉ l) :
    splitOn sep (ls.flatMap (· ++ [sep])) = ls ++ [[]] := by
  have hjoin : ls.flatMap (· ++ [sep]) = joinWith [sep] (ls ++ [[]]) := by
    clear hls
    induction ls with
    | nil => rfl
    | cons l ls ih => rw [List.flatMap_cons, ih, List.cons_append, joinWith_cons _ _ (by simp)]
  rw [hjoin, splitOn_joinWith (by simp)]
  exact List.forall_mem_append.mpr ⟨hls, by simp⟩

/-- A text without the separator can only stand at the start of the first part. -/
theorem prefix_iff_of_splitOn {sep : Char} {l : Text} {ls : List Text} (hp : sep ∉ p)
    (h : splitOn sep t = l :: ls) : p <+: t ↔ p <+: l := by
  induction t generalizing p l ls with
  | nil =>
    obtain ⟨rfl, -⟩ := List.cons.inj h
    exact Iff.rfl
  | cons c t ih =>
    obtain ⟨m, ms, hm⟩ := exists_splitOn sep t
    rw [splitOn_cons hm] at h
    cases p with
    | nil => simp
    | cons d p =>
      rw [List.mem_cons, not_or] at hp
      split at h
      · next hc =>
        obtain rfl : c = sep := beq_iff_eq.mp hc
        obtain ⟨rfl, -⟩ := List.cons.inj h
        simp [Ne.symm hp.1]
      · obtain ⟨rfl, -⟩ := List.cons.inj h
        rw [List.cons_prefix_cons, List.cons_prefix_cons, ih hp.2 hm]

/-- Whether a line of the text begins with `p`, blanks aside. -/
def HasLine (p t : Text) : Prop := ∃ l ∈ splitOn '\n' t, p <+: l.trimStart

instance (p t : Text) : Decidable (HasLine p t) := inferInstanceAs (Decidable (∃ _ ∈ _, _))

/-- At the head of a line is where a line begins, blanks aside. -/
theorem heads_iff (h : IsDirective p) : Heads p true (fun _ => True) t ↔ HasLine p t := by
  have hlines (s : Bool) : ∃ l ls, splitOn '\n' t = l :: ls ∧ (Heads p s (fun _ => True) t ↔
      s = true ∧ p <+: l.trimStart ∨ ∃ l ∈ ls, p <+: l.trimStart) := by
    induction t generalizing s with
    | nil =>
      refine ⟨[], [], rfl, iff_of_false (h.not_heads_blank (by simp)) ?_⟩
      simp [trimStart, h.ne_nil]
    | cons c t ih =>
      obtain ⟨l, ls, hl, hheads⟩ := ih (c == '\n' || s && isBlank c)
      rw [splitOn_cons hl, heads_cons, hheads]
      by_cases hb : isBlank c = true
      · -- a blank goes with what stands ahead of the line
        have hnot : ¬ p <+: c :: t := by
          rintro ⟨v, hv⟩
          obtain ⟨d, q, rfl⟩ := List.exists_cons_of_ne_nil h.ne_nil
          obtain ⟨rfl, -⟩ := List.cons.inj hv
          have hd : isBlank d = false := h.head_visible
          rw [hb] at hd
          exact Bool.noConfusion hd
        by_cases hc : c = '\n'
        · subst hc
          exact ⟨[], l :: ls, rfl, by simp [hnot, trimStart, h.ne_nil]⟩
        · refine ⟨c :: l, ls, if_neg (by simpa using hc), ?_⟩
          have htrim : trimStart (c :: l) = trimStart l := List.dropWhile_cons_of_pos hb
          rw [htrim]
          simp [hnot, hb, hc]
      · have hc : c ≠ '\n' := by rintro rfl; exact hb (by decide)
        have hfirst := prefix_iff_of_splitOn (t := c :: t) h.newline_notMem
          ((splitOn_cons hl c).trans (if_neg (by simpa using hc)))
        refine ⟨c :: l, ls, if_neg (by simpa using hc), ?_⟩
        have htrim : trimStart (c :: l) = c :: l := List.dropWhile_cons_of_neg hb
        rw [htrim, hfirst]
        simp [hb, hc]
  obtain ⟨l, ls, hl, hheads⟩ := hlines true
  rw [hheads, HasLine, hl, List.exists_mem_cons_iff]
  simp

/-! ### Directives as lines -/

namespace IsDirective

theorem eq_of_prefix {q : Text} (hp : IsDirective p) (hq : IsDirective q) (h : p <+: q) : p = q := by
  obtain ⟨v, hv⟩ := h
  by_cases hnil : v = []
  · rw [← hv, hnil, List.append_nil]
  · have hmem : ';' ∈ p := hp.semicolon_mem (List.nil_append p).symm hp.ne_nil
    exact absurd hmem (hq.semicolon_notMem hv.symm hnil)

theorem trimStart_eq (h : IsDirective p) : p.trimStart = p := by
  obtain ⟨c, q, rfl⟩ := List.exists_cons_of_ne_nil h.ne_nil
  have hc : isBlank c = false := h.head_visible
  exact List.dropWhile_cons_of_neg (by simp [hc])

/-- Directives that are joined line by line are the lines. -/
theorem heads_joinWith (hp : IsDirective p) {ls : List Text} (hne : ls ≠ [])
    (hls : ∀ l ∈ ls, IsDirective l) :
    Heads p true (fun _ => True) (joinWith ['\n'] ls) ↔ p ∈ ls := by
  rw [heads_iff hp, HasLine, splitOn_joinWith hne fun l hl => (hls l hl).newline_notMem]
  constructor
  · rintro ⟨l, hl, hpl⟩
    rw [(hls l hl).trimStart_eq] at hpl
    rwa [hp.eq_of_prefix (hls l hl) hpl]
  · intro hmem
    exact ⟨p, hmem, by rw [hp.trimStart_eq]⟩

theorem getLast?_joinWith {ls : List Text} (hne : ls ≠ []) (hls : ∀ l ∈ ls, IsDirective l) (sep : Text) :
    (joinWith sep ls).getLast? = some ';' := by
  induction ls with
  | nil => exact absurd rfl hne
  | cons l ls ih =>
    obtain ⟨hl, hls⟩ := List.forall_mem_cons.mp hls
    by_cases hnil : ls = []
    · obtain ⟨q, hq, -⟩ := hl.semicolon
      rw [hnil, joinWith_singleton, hq, List.getLast?_concat]
    · rw [joinWith_cons sep l hnil, List.getLast?_append, ih hnil hls, Option.some_or]

/-- Directives on lines below a line that goes on to its end. -/
theorem heads_below (hp : IsDirective p) {ls : List Text} (hne : ls ≠ [])
    (hls : ∀ l ∈ ls, IsDirective l) (ha : atHead s a = false) :
    Heads p s (fun _ => True) (a ++ (['\n'] ++ joinWith ['\n'] ls ++ b)) ↔
      Heads p s (fun _ => True) a ∨ p ∈ ls ∨ Heads p false (fun _ => True) b := by
  have hlast : (['\n'] ++ joinWith ['\n'] ls).getLast? = some ';' := by
    rw [List.getLast?_append, getLast?_joinWith hne hls, Option.some_or]
  have hnewline : ∀ c ∈ ['\n'], isBlank c = true := List.all_eq_true.mp (by decide)
  rw [heads_append (hp.not_across_newline rfl), ha, heads_append (hp.not_across_semicolon hlast),
    atHead_of_getLast? hlast (by decide), hp.heads_blank_append hnewline]
  exact or_congr_right (or_congr_left (hp.heads_joinWith hne hls))

/-- Directives at the top, with lines below them. -/
theorem heads_above (hp : IsDirective p) {ls : List Text} (hne : ls ≠ [])
    (hls : ∀ l ∈ ls, IsDirective l) :
    Heads p true (fun _ => True) (joinWith ['\n'] ls ++ ['\n', '\n'] ++ b) ↔
      p ∈ ls ∨ Heads p true (fun _ => True) b := by
  have hlast : '\n' ∈ (joinWith ['\n'] ls ++ ['\n', '\n']).getLast? := by
    rw [List.getLast?_append]
    rfl
  have hnewlines : ∀ c ∈ ['\n', '\n'], isBlank c = true := List.all_eq_true.mp (by decide)
  rw [heads_append (hp.not_across_newline_left hlast), atHead_append, hp.heads_append_blank hnewlines,
    hp.heads_joinWith hne hls]
  rfl

end IsDirective

end Text

end DartTransfer

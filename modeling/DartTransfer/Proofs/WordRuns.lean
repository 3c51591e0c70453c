import Mathlib.Data.List.SplitBy
import DartTransfer.Directive
import DartTransfer.Proofs.Headings

/-!
# Substitution by runs

`Text.wordRuns` are the maximal runs of word characters and of other characters in a text.
`Text.run_induction` goes over a text run by run. A run that is not the word `value` is kept by a
substitution (`substituteAfter_run`), and a run that is gives way to the replacement
(`substituteAfter_value`), so the substitution is the one that works on the runs
(`substituteAfter_eq_substituteRuns`). A word counts as often in two texts together as in both of them if
no word goes on from one to the other (`Text.count_wordRuns_append`). Since none does at the ends of a
replacement, the occurrences in a template multiply with those in the replacement
(`count_substituteRuns`).
-/

namespace DartTransfer

namespace Text

/-- The maximal runs of word characters and of other characters, in their order. -/
def wordRuns (t : Text) : List Text := t.splitBy fun c d => isWord c == isWord d

/-- The first run of `run ++ rest` is `run`, of word characters or of other characters. -/
structure LeadingRun (word : Bool) (run rest : Text) : Prop where
  ne_nil : run ≠ []
  same : ∀ c ∈ run, isWord c = word
  stop : ∀ c ∈ rest.head?, isWord c = !word

/-- No word goes on from the character before the text into the text. -/
def WordsApart (before : Option Char) (t : Text) : Prop :=
  before.any isWord = false ∨ t.head?.any isWord = false

section
variable {word : Bool} {run rest s t w : Text} {before : Option Char}

theorem exists_leadingRun (ht : t ≠ []) : ∃ word run rest, t = run ++ rest ∧ LeadingRun word run rest := by
  obtain ⟨c, t, rfl⟩ := List.exists_cons_of_ne_nil ht
  refine ⟨isWord c, (c :: t).takeWhile (isWord · == isWord c), (c :: t).dropWhile (isWord · == isWord c),
    List.takeWhile_append_dropWhile.symm, ?_, fun d hd => ?_, fun d hd => ?_⟩
  · rw [List.takeWhile_cons, if_pos (beq_self_eq_true _)]
    exact List.cons_ne_nil c _
  · exact beq_iff_eq.mp (takeWhile_all hd)
  · exact Bool.eq_not.mpr (beq_eq_false_iff_ne.mp (head?_dropWhile hd))

/-- A text is empty, or a run ahead of a text for which the property holds already. -/
@[elab_as_elim]
theorem run_induction {P : Text → Prop} (nil : P [])
    (run : ∀ word run rest, LeadingRun word run rest → P rest → P (run ++ rest)) (t : Text) : P t := by
  by_cases ht : t = []
  · exact ht ▸ nil
  · obtain ⟨word, first, rest, e, h⟩ := exists_leadingRun ht
    have hlt : rest.length < t.length := by
      have hpos := List.length_pos_iff.mpr h.ne_nil
      rw [e, List.length_append]
      omega
    exact e ▸ run word first rest h (run_induction nil run rest)
termination_by t.length

theorem wordRuns_run (h : LeadingRun word run rest) : wordRuns (run ++ rest) = run :: wordRuns rest := by
  have hchain : run.IsChain fun c d => (isWord c == isWord d) = true := by
    refine (List.pairwise_of_forall_mem_list fun c hc d hd => ?_).isChain
    rw [h.same c hc, h.same d hd, beq_self_eq_true]
  have hseam : ∀ c ∈ run.getLast?, ∀ d ∈ rest.head?, (isWord c == isWord d) = false := by
    intro c hc d hd
    rw [h.same c (List.mem_of_getLast? hc), h.stop d hd]
    cases word <;> rfl
  rw [wordRuns, List.splitBy_append hseam, List.splitBy_of_isChain h.ne_nil hchain]
  rfl

theorem wordRuns_of_same (hne : run ≠ []) (h : ∀ c ∈ run, isWord c = word) : wordRuns run = [run] := by
  have hrun : LeadingRun word run [] := ⟨hne, h, nofun⟩
  have hruns := wordRuns_run hrun
  rwa [List.append_nil] at hruns

theorem LeadingRun.head (h : LeadingRun word run rest) : ∃ c u, run = c :: u ∧ isWord c = word := by
  obtain ⟨c, u, rfl⟩ := List.exists_cons_of_ne_nil h.ne_nil
  exact ⟨c, u, rfl, h.same c List.mem_cons_self⟩

/-- No word goes on at the end of a run. -/
theorem LeadingRun.wordsApart (h : LeadingRun word run rest) (before : Option Char) :
    WordsApart (lastOr before run) rest := by
  cases word with
  | true => exact .inr ((Option.any_eq_false _ _).mpr h.stop)
  | false =>
    obtain ⟨c, hc, hlast⟩ := exists_lastOr before h.ne_nil
    refine .inl ?_
    rw [hlast]
    exact h.same c hc

/-- A run of other characters is no word. -/
theorem LeadingRun.ne_of_isWord (h : LeadingRun false run rest) (hw : ∀ c ∈ w, isWord c = true) :
    run ≠ w := by
  rintro rfl
  obtain ⟨c, u, rfl, hc⟩ := h.head
  rw [hw c List.mem_cons_self] at hc
  exact Bool.noConfusion hc

end

end Text

theorem isWord_of_mem_value {c : Char} (h : c ∈ "value".toList) : isWord c = true :=
  List.all_eq_true.mp (by decide : "value".toList.all isWord = true) c h

/-! ### What a substitution does to a run -/

section
variable {word : Bool} {run rest t replacement : Text} {before : Option Char}

theorem substituteAfter_of_wordAt? (h : Text.wordAt? "value" before t = some rest) :
    substituteAfter before replacement t = replacement ++ substituteAfter (some 'e') replacement rest := by
  rw [substituteAfter]
  split
  · next r hr =>
    rw [h] at hr
    rw [Option.some.inj hr]
  · next hnone => exact absurd (h.symm.trans hnone) (Option.some_ne_none rest)

theorem substituteAfter_cons {c : Char} (h : Text.wordAt? "value" before (c :: t) = none) :
    substituteAfter before replacement (c :: t) = c :: substituteAfter (some c) replacement t := by
  rw [substituteAfter]
  split
  · next r hr => exact absurd (hr.symm.trans h) (Option.some_ne_none r)
  · rfl

/-- A part in which no occurrence starts is kept. -/
theorem substituteAfter_append
    (h : ∀ u c v, run = u ++ c :: v → Text.wordAt? "value" (Text.lastOr before u) (c :: v ++ rest) = none) :
    substituteAfter before replacement (run ++ rest) =
      run ++ substituteAfter (Text.lastOr before run) replacement rest := by
  induction run generalizing before with
  | nil => rfl
  | cons c run ih =>
    have hrest : ∀ u d v, run = u ++ d :: v →
        Text.wordAt? "value" (Text.lastOr (some c) u) (d :: v ++ rest) = none := by
      intro u d v e
      rw [← Text.lastOr_cons before c u]
      exact h (c :: u) d v (congrArg (c :: ·) e)
    have hnone : Text.wordAt? "value" before (c :: (run ++ rest)) = none := h [] c run rfl
    rw [List.cons_append, substituteAfter_cons hnone, ih hrest, Text.lastOr_cons, List.cons_append]

/-- No occurrence starts in a run that is not the word itself. -/
theorem substituteAfter_run (h : Text.LeadingRun word run rest) (hne : run ≠ "value".toList) :
    substituteAfter before replacement (run ++ rest) =
      run ++ substituteAfter (Text.lastOr before run) replacement rest := by
  refine substituteAfter_append fun u c v e => Option.eq_none_iff_forall_ne_some.mpr fun r hr => ?_
  obtain ⟨hbefore, hvalue, hstop⟩ := Text.wordAt?_eq_some_iff.mp hr
  have hc : isWord c = true := by
    obtain ⟨rfl, -⟩ := List.cons.inj hvalue
    decide
  have hword : word = true := (h.same c (by rw [e]; simp)).symm.trans hc
  subst hword
  cases u with
  | nil =>
    obtain rfl : run = c :: v := e
    refine hne (Text.run_inj hvalue h.same h.stop (fun d hd => isWord_of_mem_value hd) ?_).1
    exact (Option.any_eq_false _ _).mp hstop
  | cons d u =>
    -- the occurrence would stand behind a word character
    obtain ⟨f, hf, hlast⟩ := Text.exists_lastOr before (List.cons_ne_nil d u)
    rw [hlast, Option.any_some, h.same f (by rw [e]; exact List.mem_append_left _ hf)] at hbefore
    exact Bool.noConfusion hbefore

theorem substituteAfter_value (hbefore : before.any isWord = false) (hrest : rest.head?.any isWord = false) :
    substituteAfter before replacement ("value" ++ rest) =
      replacement ++ substituteAfter (some 'e') replacement rest :=
  substituteAfter_of_wordAt? (Text.wordAt?_eq_some_iff.mpr ⟨hbefore, rfl, hrest⟩)

end

/-! ### The substitution on runs -/

/-- Each run that is the word `value` gives way to the replacement, and all others are kept. -/
def substituteRuns (t replacement : Text) : Text :=
  t.wordRuns.flatMap fun run => if run = "value".toList then replacement else run

section
variable {word : Bool} {run rest t replacement : Text} {before : Option Char}

theorem substituteRuns_run (h : Text.LeadingRun word run rest) : substituteRuns (run ++ rest) replacement =
    (if run = "value".toList then replacement else run) ++ substituteRuns rest replacement := by
  rw [substituteRuns, Text.wordRuns_run h, List.flatMap_cons]
  rfl

theorem substituteAfter_eq_substituteRuns (h : Text.WordsApart before t) :
    substituteAfter before replacement t = substituteRuns t replacement := by
  induction t using Text.run_induction generalizing before with
  | nil =>
    rw [substituteAfter]
    split
    · next r hr =>
      obtain ⟨-, e, -⟩ := Text.wordAt?_eq_some_iff.mp hr
      exact absurd e.symm (List.append_ne_nil_of_left_ne_nil (by decide) r)
    · rfl
  | run word run rest hrun ih =>
    rw [substituteRuns_run hrun]
    split
    · next hvalue =>
      subst hvalue
      have hbefore : before.any isWord = false := h.resolve_right (by simp; decide)
      have hapart : Text.WordsApart (some 'e') rest := hrun.wordsApart before
      rw [substituteAfter_value hbefore (hapart.resolve_left (by decide)), ih hapart]
    · next hne => rw [substituteAfter_run hrun hne, ih (hrun.wordsApart before)]

end

/-! ### Counting words -/

namespace Text

section
variable {run rest s t w : Text}

/-- Other characters ahead of a text add no word to it. -/
theorem count_wordRuns_of_notWord (hw : ∀ c ∈ w, isWord c = true) (hs : ∀ c ∈ s, isWord c = false) :
    (wordRuns (s ++ t)).count w = (wordRuns t).count w := by
  by_cases hnil : s = []
  · rw [hnil, List.nil_append]
  by_cases ht : t = []
  · have h : LeadingRun false s [] := ⟨hnil, hs, nofun⟩
    rw [ht, wordRuns_run h, List.count_cons_of_ne (h.ne_of_isWord hw)]
  obtain ⟨word, run, rest, rfl, hrun⟩ := exists_leadingRun ht
  cases word with
  | true =>
    have h : LeadingRun false s (run ++ rest) := by
      refine ⟨hnil, hs, fun c hc => ?_⟩
      obtain ⟨d, u, rfl, hd⟩ := hrun.head
      obtain rfl : d = c := Option.some.inj hc
      exact hd
    rw [wordRuns_run h, List.count_cons_of_ne (h.ne_of_isWord hw)]
  | false =>
    -- both parts are in one run
    have h : LeadingRun false (s ++ run) rest := by
      refine ⟨List.append_ne_nil_of_left_ne_nil hnil run, fun c hc => ?_, hrun.stop⟩
      exact (List.mem_append.mp hc).elim (hs c) (hrun.same c)
    rw [← List.append_assoc, wordRuns_run h, wordRuns_run hrun, List.count_cons_of_ne (h.ne_of_isWord hw),
      List.count_cons_of_ne (hrun.ne_of_isWord hw)]

/-- A word counts as often in two texts together as in both of them. -/
theorem count_wordRuns_append (hw : ∀ c ∈ w, isWord c = true) (h : WordsApart s.getLast? t) :
    (wordRuns (s ++ t)).count w = (wordRuns s).count w + (wordRuns t).count w := by
  induction s using run_induction with
  | nil => exact (Nat.zero_add _).symm
  | run word run rest hrun ih =>
    have hrest : WordsApart rest.getLast? t := by
      cases rest with
      | nil => exact .inl rfl
      | cons c rest => rwa [List.getLast?_append_of_ne_nil run (List.cons_ne_nil c rest)] at h
    rw [List.append_assoc]
    cases word with
    | false => rw [count_wordRuns_of_notWord hw hrun.same, count_wordRuns_of_notWord hw hrun.same, ih hrest]
    | true =>
      have hrun' : LeadingRun true run (rest ++ t) := by
        refine ⟨hrun.ne_nil, hrun.same, ?_⟩
        cases rest with
        | nil =>
          obtain ⟨c, hc, hlast⟩ := exists_lastOr none hrun.ne_nil
          rw [lastOr_of_ne_nil none hrun.ne_nil] at hlast
          rw [List.append_nil, WordsApart, hlast, Option.any_some, hrun.same c hc] at h
          exact (Option.any_eq_false _ _).mp (h.resolve_left (by decide))
        | cons c rest => exact hrun.stop
      rw [wordRuns_run hrun', wordRuns_run hrun, List.count_cons, List.count_cons, ih hrest]
      omega

end

end Text

/-! ### Occurrences in a result -/

section
variable {t replacement : Text}

theorem head?_substituteRuns (h : t.head?.any isWord = false) :
    (substituteRuns t replacement).head?.any isWord = false := by
  by_cases ht : t = []
  · rw [ht]
    rfl
  · obtain ⟨word, run, rest, rfl, hrun⟩ := Text.exists_leadingRun ht
    obtain ⟨c, u, rfl, hc⟩ := hrun.head
    have hword : word = false := hc.symm.trans h
    subst hword
    rw [substituteRuns_run hrun, if_neg (hrun.ne_of_isWord fun _ => isWord_of_mem_value)]
    exact hc

theorem count_substituteRuns (t replacement : Text) :
    (substituteRuns t replacement).wordRuns.count "value".toList =
      t.wordRuns.count "value".toList * replacement.wordRuns.count "value".toList := by
  have hvalue : ∀ c ∈ "value".toList, isWord c = true := fun _ => isWord_of_mem_value
  induction t using Text.run_induction with
  | nil => exact (Nat.zero_mul _).symm
  | run word run rest hrun ih =>
    rw [substituteRuns_run hrun]
    cases word with
    | false =>
      rw [if_neg (hrun.ne_of_isWord hvalue), Text.count_wordRuns_of_notWord hvalue hrun.same,
        Text.count_wordRuns_of_notWord hvalue hrun.same, ih]
    | true =>
      have hrest : rest.head?.any isWord = false := (Option.any_eq_false _ _).mpr hrun.stop
      rw [Text.count_wordRuns_append hvalue (.inr (head?_substituteRuns hrest)), Text.wordRuns_run hrun,
        List.count_cons, ih]
      by_cases heq : run = "value".toList
      · rw [if_pos heq, if_pos (beq_iff_eq.mpr heq), Nat.add_mul, Nat.one_mul, Nat.add_comm]
      · have hzero : run.wordRuns.count "value".toList = 0 := by
          rw [Text.wordRuns_of_same hrun.ne_nil hrun.same, List.count_cons_of_ne heq]
          rfl
        rw [if_neg heq, if_neg (mt beq_iff_eq.mp heq), hzero, Nat.zero_add, Nat.add_zero]

end

/-- A substitution works on the maximal runs of word characters and of other characters in a template: each
run `value` gives way to the replacement as it is, and all others are kept. So the occurrences of the word
in the template multiply with those in the replacement. -/
theorem substitute_by_runs (template replacement : Text) :
    substitute template replacement =
        template.wordRuns.flatMap (fun run => if run = "value".toList then replacement else run) ∧
      (substitute template replacement).wordRuns.count "value".toList =
        template.wordRuns.count "value".toList * replacement.wordRuns.count "value".toList := by
  have hruns : substitute template replacement = substituteRuns template replacement :=
    substituteAfter_eq_substituteRuns (.inl rfl)
  exact ⟨hruns, by rw [hruns, count_substituteRuns]⟩

end DartTransfer

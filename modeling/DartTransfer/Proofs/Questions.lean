import DartTransfer.Terminal
import Mathlib.Data.List.SplitBy

/-!
# What is answered to a question

The input of a session is read by its lines (`Session.linesOf`), and a question takes them one by one: those ahead
of the first that decides are refused, each with its objection and the question once more; the one that decides is
read, and nothing behind it (`Question.Asked`). A line decides by what it says once it is trimmed: a suffix question
takes an identifier tail, a style question the number that the menu shows for a choice or the label of a choice, and
both take nothing at all for the default (`Prompter.terminal_asked`). The default of a style question need not be
among the choices (`Prompter.style_mem_iff`).
-/

namespace DartTransfer

/-! ### Lines of the input -/

namespace Session
variable {s : Session} {bs : Bytes} {w t : Text}

/-- The bytes, cut behind each newline. -/
def linesOf (bs : Bytes) : List Bytes := bs.splitBy fun b _ => b != 10

theorem flatten_linesOf (bs : Bytes) : (linesOf bs).flatten = bs := List.flatten_splitBy _ bs

/-- A line ends at the first newline, or with the input. -/
theorem splitLine_cases (bs : Bytes) :
    (∃ body rest, 10 ∉ body ∧ bs = body ++ 10 :: rest ∧ splitLine bs = (body ++ [10], rest)) ∨
      10 ∉ bs ∧ splitLine bs = (bs, []) := by
  induction bs with
  | nil => exact .inr ⟨List.not_mem_nil, rfl⟩
  | cons b bs ih =>
    by_cases hb : b = 10
    · subst hb
      exact .inl ⟨[], bs, List.not_mem_nil, rfl, by simp [splitLine]⟩
    · have hstep : splitLine (b :: bs) = (b :: (splitLine bs).1, (splitLine bs).2) := by simp [splitLine, hb]
      rcases ih with ⟨body, rest, hbody, rfl, hsplit⟩ | ⟨hnone, hsplit⟩
      · refine .inl ⟨b :: body, rest, ?_, rfl, by rw [hstep, hsplit]; rfl⟩
        simpa [Ne.symm hb] using hbody
      · exact .inr ⟨by simpa [Ne.symm hb] using hnone, by rw [hstep, hsplit]⟩

/-- The newline of a line is its last byte. -/
theorem linesOf_line {body stop : Bytes} (h : 10 ∉ body) (hne : body ++ stop ≠ []) (hstop : stop = [] ∨ stop = [10]) :
    linesOf (body ++ stop) = [body ++ stop] := by
  refine List.splitBy_of_isChain hne (List.Pairwise.isChain ?_)
  have hbody : body.Pairwise fun a _ => (a != 10) = true :=
    List.pairwise_of_forall_mem_list fun a ha _ _ => bne_iff_ne.mpr fun e => h (e ▸ ha)
  refine List.pairwise_append.mpr ⟨hbody, ?_, fun a ha _ _ => bne_iff_ne.mpr fun e => h (e ▸ ha)⟩
  rcases hstop with rfl | rfl
  · exact List.Pairwise.nil
  · exact List.pairwise_singleton _ _

theorem linesOf_eq_cons (h : bs ≠ []) : linesOf bs = (splitLine bs).1 :: linesOf (splitLine bs).2 := by
  rcases splitLine_cases bs with ⟨body, rest, hbody, rfl, hsplit⟩ | ⟨hnone, hsplit⟩
  · have hcut : linesOf ((body ++ [10]) ++ rest) = linesOf (body ++ [10]) ++ linesOf rest := by
      refine List.splitBy_append fun x hx _ _ => ?_
      rw [List.getLast?_concat] at hx
      obtain rfl : 10 = x := Option.some.inj hx
      rfl
    rw [hsplit, List.append_cons, hcut, linesOf_line hbody (by simp) (.inr rfl)]
    rfl
  · have hline : linesOf (bs ++ []) = [bs ++ []] := linesOf_line hnone (by simpa using h) (.inl rfl)
    rw [List.append_nil] at hline
    rw [hsplit, hline]
    rfl

/-! ### The screen -/

/-- A screen that takes whatever is shown, now and later. -/
structure Works (s : Session) : Prop where
  canWrite : s.canWrite = true
  canFlush : s.canFlush = true
  changes : ∀ c ∈ s.changes, c = (true, true)

theorem Works.used (h : s.Works) : s.used.Works := by
  rw [Session.used]
  split
  · exact h
  · next canWrite canFlush changes hchanges =>
    obtain ⟨hnow, hlater⟩ := List.forall_mem_cons.mp (hchanges ▸ h.changes)
    exact ⟨congrArg Prod.fst hnow, congrArg Prod.snd hnow, hlater⟩

theorem Works.display (h : s.Works) (t : Text) : (s.display t).Works := by
  rw [Session.display, if_pos h.canWrite]
  exact Works.used ⟨h.canWrite, h.canFlush, h.changes⟩

theorem Works.screen_display (h : s.Works) (t : Text) : (s.display t).screen = s.screen ++ t := by
  rw [Session.screen_display, if_pos h.canWrite]

/-- Texts that are shown each on a line of its own. -/
def onLines (ts : List Text) : Text := ts.flatMap (· ++ ['\n'])

theorem input_displayLines (s : Session) (ts : List Text) : (ts.foldl displayLine s).input = s.input := by
  induction ts generalizing s with
  | nil => rfl
  | cons t ts ih => rw [List.foldl_cons, ih, input_displayLine]

theorem Works.displayLines (h : s.Works) (ts : List Text) :
    (ts.foldl displayLine s).Works ∧ (ts.foldl displayLine s).screen = s.screen ++ onLines ts := by
  induction ts generalizing s with
  | nil => exact ⟨h, (List.append_nil _).symm⟩
  | cons t ts ih =>
    obtain ⟨hworks, hscreen⟩ := ih (h.display (t ++ ['\n']))
    refine ⟨hworks, ?_⟩
    rw [List.foldl_cons, displayLine, hscreen, h.screen_display, onLines, onLines, List.flatMap_cons,
      List.append_assoc]

/-! ### One answer -/

theorem readLine_of_nil (h : s.input = []) : s.readLine = (none, s) := by
  rw [readLine, h]
  rfl

theorem readLine_of_ne_nil (h : s.input ≠ []) :
    s.readLine = ((Text.ofUtf8? (splitLine s.input).1).map Text.trim, { s with input := (splitLine s.input).2 }) := by
  have hline : (splitLine s.input).1 ≠ [] := by
    intro hnil
    have hlines := linesOf_eq_cons h
    rw [hnil] at hlines
    exact List.nil_notMem_splitBy _ _ (hlines ▸ List.mem_cons_self)
  exact if_neg (by simpa using hline)

/-- An answer is the next line, on any screen. -/
theorem exists_line_of_askOnce (h : (s.askOnce w).1 = some t) :
    ∃ l, linesOf s.input = l :: linesOf (s.askOnce w).2.input ∧ (Text.ofUtf8? l).map Text.trim = some t := by
  by_cases hscreen : (s.canWrite && s.canFlush) = true
  · rw [askOnce, if_pos hscreen] at h ⊢
    by_cases hinput : (s.display w).input = []
    · rw [readLine_of_nil hinput] at h
      exact absurd h.symm (Option.some_ne_none t)
    · rw [readLine_of_ne_nil hinput] at h ⊢
      rw [input_display] at hinput h
      refine ⟨(splitLine s.input).1, ?_, h⟩
      rw [linesOf_eq_cons hinput, input_display]
  · rw [askOnce, if_neg hscreen] at h
    exact absurd h.symm (Option.some_ne_none t)

/-- On a screen that works a question is shown, and the next line, if there is one, is read. -/
theorem Works.askOnce (h : s.Works) (w : Text) :
    (s.askOnce w).2.Works ∧ (s.askOnce w).2.screen = s.screen ++ w ∧
      (s.askOnce w).1 = (linesOf s.input).head?.bind (fun l => (Text.ofUtf8? l).map Text.trim) ∧
      linesOf (s.askOnce w).2.input = (linesOf s.input).tail := by
  have hask : s.askOnce w = (s.display w).readLine := if_pos (by rw [h.canWrite, h.canFlush]; rfl)
  rw [hask]
  by_cases hinput : s.input = []
  · rw [readLine_of_nil (by rwa [input_display]), input_display, hinput]
    exact ⟨h.display w, h.screen_display w, rfl, rfl⟩
  · rw [readLine_of_ne_nil (by rwa [input_display]), input_display, linesOf_eq_cons hinput]
    have hdisplay := h.display w
    exact ⟨⟨hdisplay.canWrite, hdisplay.canFlush, hdisplay.changes⟩, h.screen_display w, rfl, rfl⟩

end Session

/-! ### The lines that decide -/

namespace Question
variable {α : Type} (q : Question α)

/-- The objection to a line that says something else. -/
def objection? (line : Bytes) : Option Text :=
  (Text.ofUtf8? line).bind fun t =>
    match q.judge t.trim with
    | .ok _ => none
    | .error objection => some objection

def refuses (line : Bytes) : Bool := (q.objection? line).isSome

/-- The lines ahead of the first that decides. -/
def refused (input : Bytes) : List Bytes := (Session.linesOf input).takeWhile q.refuses

/-- The first line that is not refused: it is accepted, or it is no text. -/
def decisive? (input : Bytes) : Option Bytes := ((Session.linesOf input).dropWhile q.refuses).head?

/-- What a refused line brings to the screen: the objection, and the question again. -/
def retry (line : Bytes) : Text := (q.objection? line).getD [] ++ ['\n'] ++ q.wording

/-- The course of a question in a session, whose lines `ahead` are shown first. -/
structure Asked (ahead : List Text) (s : Session) (r : Option α × Session) : Prop where
  /-- The next question starts at the next line. -/
  lines : Session.linesOf s.input =
    q.refused s.input ++ (q.decisive? s.input).toList ++ Session.linesOf r.2.input
  input : s.input = (q.refused s.input).flatten ++ (q.decisive? s.input).toList.flatten ++ r.2.input
  answered : ∀ a, r.1 = some a ↔
    ∃ l ∈ q.decisive? s.input, ∃ t, Text.ofUtf8? l = some t ∧ q.judge t.trim = .ok a
  unanswered : r.1 = none ↔ ∀ l ∈ q.decisive? s.input, Text.ofUtf8? l = none
  screen : r.2.screen =
    s.screen ++ Session.onLines ahead ++ q.wording ++ (q.refused s.input).flatMap q.retry
  works : r.2.Works

section
variable {q} {s s' : Session} {r : Option α × Session} {ahead : List Text} {input rest l : Bytes} {t : Text}

theorem objection?_of_text (h : Text.ofUtf8? l = some t) : q.objection? l =
    match q.judge t.trim with
    | .ok _ => none
    | .error objection => some objection := by
  rw [objection?, h]
  rfl

theorem refuses_of_no_text (h : Text.ofUtf8? l = none) : q.refuses l = false := by
  rw [refuses, objection?, h]
  rfl

theorem exists_ok_of_not_refuses (h : q.refuses l = false) (ht : Text.ofUtf8? l = some t) :
    ∃ a, q.judge t.trim = .ok a := by
  rw [refuses, objection?_of_text ht] at h
  split at h
  · next a ha => exact ⟨a, ha⟩
  · exact absurd h.symm Bool.false_ne_true

theorem not_refuses_of_mem_decisive? (h : l ∈ q.decisive? input) : q.refuses l = false := by
  have hnot := List.head?_dropWhile_not q.refuses (Session.linesOf input)
  rwa [show ((Session.linesOf input).dropWhile q.refuses).head? = some l from h] at hnot

theorem refused_of_refuses (hlines : Session.linesOf input = l :: Session.linesOf rest) (h : q.refuses l = true) :
    q.refused input = l :: q.refused rest ∧ q.decisive? input = q.decisive? rest := by
  rw [refused, decisive?, hlines, List.takeWhile_cons_of_pos h, List.dropWhile_cons_of_pos h]
  exact ⟨rfl, rfl⟩

theorem refused_of_not_refuses (h : ∀ l ∈ (Session.linesOf input).head?, q.refuses l = false) :
    q.refused input = [] ∧ q.decisive? input = (Session.linesOf input).head? := by
  rw [refused, decisive?]
  cases hlines : Session.linesOf input with
  | nil => exact ⟨rfl, rfl⟩
  | cons l ls =>
    rw [hlines] at h
    have hl := Bool.eq_false_iff.mp (h l rfl)
    rw [List.takeWhile_cons_of_neg hl, List.dropWhile_cons_of_neg hl]
    exact ⟨rfl, rfl⟩

/-- The other facts follow: lines join to the input, and a line that is not refused but is a text is accepted. -/
theorem Asked.of_lines
    (hlines : Session.linesOf s.input =
      q.refused s.input ++ (q.decisive? s.input).toList ++ Session.linesOf r.2.input)
    (hanswered : ∀ a, r.1 = some a ↔
      ∃ l ∈ q.decisive? s.input, ∃ t, Text.ofUtf8? l = some t ∧ q.judge t.trim = .ok a)
    (hscreen : r.2.screen =
      s.screen ++ Session.onLines ahead ++ q.wording ++ (q.refused s.input).flatMap q.retry)
    (hworks : r.2.Works) : q.Asked ahead s r where
  lines := hlines
  input := by
    have hbytes := congrArg List.flatten hlines
    rwa [List.flatten_append, List.flatten_append, Session.flatten_linesOf, Session.flatten_linesOf] at hbytes
  answered := hanswered
  unanswered := by
    constructor
    · intro hnone l hl
      refine Option.eq_none_iff_forall_ne_some.mpr fun t ht => ?_
      obtain ⟨a, ha⟩ := exists_ok_of_not_refuses (not_refuses_of_mem_decisive? hl) ht
      exact absurd (hnone.symm.trans ((hanswered a).mpr ⟨l, hl, t, ht, ha⟩)) nofun
    · intro hnone
      refine Option.eq_none_iff_forall_ne_some.mpr fun a ha => ?_
      obtain ⟨l, hl, t, ht, -⟩ := (hanswered a).mp ha
      exact absurd ((hnone l hl).symm.trans ht) nofun
  screen := hscreen
  works := hworks

/-- A question that the next line decides, or that has no next line. -/
theorem Asked.at_once (h : ∀ l ∈ (Session.linesOf s.input).head?, q.refuses l = false)
    (hlines : Session.linesOf s'.input = (Session.linesOf s.input).tail)
    {a : Option α} (hanswered : ∀ b, a = some b ↔
      ∃ l ∈ (Session.linesOf s.input).head?, ∃ t, Text.ofUtf8? l = some t ∧ q.judge t.trim = .ok b)
    (hscreen : s'.screen = s.screen ++ q.wording) (hworks : s'.Works) : q.Asked [] s (a, s') := by
  obtain ⟨hrefused, hdecisive⟩ := refused_of_not_refuses h
  refine .of_lines ?_ ?_ ?_ hworks
  · rw [hrefused, hdecisive, hlines]
    cases Session.linesOf s.input <;> rfl
  · rw [hdecisive]
    exact hanswered
  · rw [hrefused, hscreen]
    simp [Session.onLines]

/-- A refused line leads to the question again. -/
theorem Asked.again (hlines : Session.linesOf s.input = l :: Session.linesOf s'.input)
    {objection : Text} (hobjection : q.objection? l = some objection)
    (hscreen : s'.screen = s.screen ++ q.wording ++ objection ++ ['\n']) (h : q.Asked [] s' r) :
    q.Asked [] s r := by
  have hrefuses : q.refuses l = true := by rw [refuses, hobjection]; rfl
  have hretry : q.retry l = objection ++ ['\n'] ++ q.wording := by rw [retry, hobjection]; rfl
  obtain ⟨hrefused, hdecisive⟩ := refused_of_refuses hlines hrefuses
  refine .of_lines ?_ ?_ ?_ h.works
  · rw [hrefused, hdecisive, hlines, h.lines]
    rfl
  · rw [hdecisive]
    exact h.answered
  · rw [hrefused, h.screen, hscreen, List.flatMap_cons, hretry]
    simp [Session.onLines]

/-- The lines that are shown first leave the input as it is. -/
theorem Asked.below {ahead : List Text} (hs : s.Works) (h : q.Asked [] (ahead.foldl Session.displayLine s) r) :
    q.Asked ahead s r := by
  obtain ⟨-, hscreen⟩ := hs.displayLines ahead
  obtain ⟨hlines, -, hanswered, -, hshown, hworks⟩ := h
  rw [Session.input_displayLines] at hlines hanswered hshown
  refine .of_lines hlines hanswered ?_ hworks
  rw [hshown, hscreen]
  simp [Session.onLines]

end

end Question

namespace Session
variable {α : Type} {q : Question α} {s : Session} {a : α}

/-- By the recursion of `ask`: a line decides, or it is refused and the rest of the session answers. -/
theorem Works.asked (h : s.Works) (q : Question α) : q.Asked [] s (ask q s) := by
  fun_induction ask q s with
  | case1 s s' hs =>
    obtain ⟨hworks, hscreen, hanswer, hlines⟩ := h.askOnce q.wording
    rw [hs] at hworks hscreen hanswer hlines
    have hno : ∀ l ∈ (linesOf s.input).head?, Text.ofUtf8? l = none := by
      intro l hl
      rw [Option.mem_def] at hl
      rw [hl] at hanswer
      exact Option.map_eq_none_iff.mp hanswer.symm
    refine .at_once (fun l hl => Question.refuses_of_no_text (hno l hl)) hlines (fun b => ?_) hscreen hworks
    refine iff_of_false nofun ?_
    rintro ⟨l, hl, t, ht, -⟩
    exact absurd ((hno l hl).symm.trans ht) nofun
  | case2 s answer s' hs a ha =>
    obtain ⟨hworks, hscreen, hanswer, hlines⟩ := h.askOnce q.wording
    rw [hs] at hworks hscreen hanswer hlines
    obtain ⟨l, hl, hline⟩ := Option.bind_eq_some_iff.mp hanswer.symm
    obtain ⟨t, ht, rfl⟩ := Option.map_eq_some_iff.mp hline
    refine .at_once (fun l' hl' => ?_) hlines (fun b => ?_) hscreen hworks
    · obtain rfl : l = l' := Option.some.inj (hl.symm.trans hl')
      rw [Question.refuses, Question.objection?_of_text ht, ha]
      rfl
    · constructor
      · rintro hb
        exact ⟨l, hl, t, ht, Option.some.inj hb ▸ ha⟩
      · rintro ⟨l', hl', t', ht', hb⟩
        obtain rfl : l = l' := Option.some.inj (hl.symm.trans hl')
        obtain rfl : t = t' := Option.some.inj (ht.symm.trans ht')
        exact congrArg some (Except.ok.inj (ha.symm.trans hb))
  | case3 s answer s' hs objection hobjection ih =>
    obtain ⟨hworks, hscreen, hanswer, hlines⟩ := h.askOnce q.wording
    rw [hs] at hworks hscreen hanswer hlines
    obtain ⟨l, hl, hline⟩ := Option.bind_eq_some_iff.mp hanswer.symm
    obtain ⟨t, ht, rfl⟩ := Option.map_eq_some_iff.mp hline
    obtain ⟨ls, hls⟩ := List.head?_eq_some_iff.mp hl
    have hrefused : q.objection? l = some objection := by rw [Question.objection?_of_text ht, hobjection]
    refine .again ?_ hrefused ?_ (ih (hworks.display _))
    · rw [input_displayLine, hlines, hls]
      rfl
    · rw [displayLine, hworks.screen_display, hscreen]
      simp only [List.append_assoc]

/-- The answer is what a line that decides says, on any screen. -/
theorem answer_of_ask (h : (ask q s).1 = some a) :
    ∃ l ∈ q.decisive? s.input, ∃ t, Text.ofUtf8? l = some t ∧ q.judge t.trim = .ok a := by
  fun_induction ask q s with
  | case1 => exact absurd h nofun
  | case2 s answer s' hs a' ha =>
    obtain ⟨l, hlines, hline⟩ := exists_line_of_askOnce (s := s) (w := q.wording) (congrArg Prod.fst hs)
    obtain ⟨t, ht, rfl⟩ := Option.map_eq_some_iff.mp hline
    have hrefuses : q.refuses l = false := by
      rw [Question.refuses, Question.objection?_of_text ht, ha]
      rfl
    refine ⟨l, ?_, t, ht, Option.some.inj h ▸ ha⟩
    rw [(Question.refused_of_not_refuses (by simpa [hlines] using hrefuses)).2, hlines]
    rfl
  | case3 s answer s' hs objection hobjection ih =>
    obtain ⟨l, hlines, hline⟩ := exists_line_of_askOnce (s := s) (w := q.wording) (congrArg Prod.fst hs)
    obtain ⟨t, ht, rfl⟩ := Option.map_eq_some_iff.mp hline
    have hrefuses : q.refuses l = true := by
      rw [Question.refuses, Question.objection?_of_text ht, hobjection]
      rfl
    rw [hs] at hlines
    rw [(Question.refused_of_refuses hlines hrefuses).2, ← input_displayLine s' objection]
    exact ih h

end Session

/-! ### What a line can say -/

/-- The decimal numerals of a number: digits, which may start with zeros, and no sign or a plus sign ahead. There is
no largest number, as one beyond the end of a list is none of its places. -/
def IsNumeral (t : Text) (n : Nat) : Prop :=
  ∃ digits : Text, (t = digits ∨ t = '+' :: digits) ∧ digits ≠ [] ∧ (∀ c ∈ digits, c.isDigit = true) ∧
    Nat.ofDigitChars 10 digits 0 = n

theorem number?_of_digits {t digits : Text} (h : t = digits ∧ digits.head? ≠ some '+' ∨ t = '+' :: digits) :
    number? t = if !digits.isEmpty && digits.all Char.isDigit then some (Nat.ofDigitChars 10 digits 0) else none := by
  rcases h with ⟨rfl, hplus⟩ | rfl
  · rw [number?.eq_def]
    split
    · exact absurd rfl hplus
    · rfl
  · rfl

theorem number?_eq_some_iff {t : Text} {n : Nat} : number? t = some n ↔ IsNumeral t n := by
  constructor
  · intro h
    obtain ⟨digits, hdigits, hcase⟩ : ∃ digits : Text, (t = digits ∨ t = '+' :: digits) ∧
        (t = digits ∧ digits.head? ≠ some '+' ∨ t = '+' :: digits) := by
      by_cases hplus : t.head? = some '+'
      · obtain ⟨r, rfl⟩ := List.head?_eq_some_iff.mp hplus
        exact ⟨r, .inr rfl, .inr rfl⟩
      · exact ⟨t, .inl rfl, .inl ⟨rfl, hplus⟩⟩
    rw [number?_of_digits hcase] at h
    split at h
    · next hall =>
      simp only [Bool.and_eq_true, Bool.not_eq_true', List.isEmpty_eq_false_iff, List.all_eq_true] at hall
      exact ⟨digits, hdigits, hall.1, hall.2, Option.some.inj h⟩
    · exact absurd h nofun
  · rintro ⟨digits, ht, hne, hall, rfl⟩
    have hplus : digits.head? ≠ some '+' := by
      intro hhead
      exact absurd (hall '+' (List.mem_of_mem_head? hhead)) (by decide)
    rw [number?_of_digits (ht.imp_left fun h => ⟨h, hplus⟩)]
    exact if_pos (by simpa [hne] using hall)

theorem isNumeral_ofNat (n : Nat) : IsNumeral (Text.ofNat n) n :=
  ⟨Text.ofNat n, .inl rfl, Nat.toDigits_ne_nil, fun _ hc => Nat.isDigit_of_mem_toDigits (by decide) (by decide) hc,
    Nat.ofDigitChars_ten_toDigits⟩

theorem KeyStyle.ofLabel?_eq_some_iff {t : Text} {k : KeyStyle} : ofLabel? t = some k ↔ t = k.label := by
  constructor
  · intro h
    exact (eq_of_beq (List.find?_some (p := fun k : KeyStyle => k.label == t) h)).symm
  · rintro rfl
    exact ofLabel?_label k

namespace Question
variable {offer answer t : Text} {choices : List KeyStyle} {k : KeyStyle}

theorem judge_suffix_eq_ok_iff : (suffix offer).judge answer = .ok t ↔
    answer = [] ∧ t = offer ∨ answer ≠ [] ∧ isIdentifierTail answer = true ∧ t = answer := by
  obtain ⟨objection, hjudge⟩ : ∃ objection, (suffix offer).judge answer =
      if answer.isEmpty then .ok offer else if isIdentifierTail answer then .ok answer else .error objection :=
    ⟨_, rfl⟩
  rw [hjudge]
  by_cases hempty : answer = []
  · rw [if_pos (by simpa using hempty), Except.ok.injEq, eq_comm]
    simp [hempty]
  · rw [if_neg (by simpa using hempty)]
    by_cases htail : isIdentifierTail answer = true
    · rw [if_pos htail, Except.ok.injEq, eq_comm]
      simp [hempty, htail]
    · rw [if_neg htail]
      simp [hempty, htail]

theorem not_isNumeral_label (k : KeyStyle) (n : Nat) : ¬ IsNumeral k.label n := by
  rw [← number?_eq_some_iff]
  cases k <;> exact nofun

theorem ne_nil_of_isNumeral {n : Nat} (h : IsNumeral t n) : t ≠ [] := by
  obtain ⟨digits, ht, hne, -⟩ := h
  rcases ht with rfl | rfl
  · exact hne
  · exact List.cons_ne_nil _ _

theorem pick?_eq_some_iff : pick? choices answer = some k ↔
    (∃ i, IsNumeral answer (i + 1) ∧ choices[i]? = some k) ∨ answer = k.label ∧ k ∈ choices := by
  constructor
  · intro h
    rw [pick?] at h
    split at h
    · exact absurd h nofun
    · next i hi => exact .inl ⟨i, number?_eq_some_iff.mp hi, h⟩
    · obtain ⟨hlabel, hk⟩ := Option.filter_eq_some_iff.mp h
      exact .inr ⟨KeyStyle.ofLabel?_eq_some_iff.mp hlabel, by simpa using hk⟩
  · rintro (⟨i, hi, hk⟩ | ⟨rfl, hk⟩)
    · rw [pick?, number?_eq_some_iff.mpr hi]
      exact hk
    · have hnumber : number? k.label = none :=
        Option.eq_none_iff_forall_ne_some.mpr fun n hn => not_isNumeral_label k n (number?_eq_some_iff.mp hn)
      rw [pick?, hnumber, Option.filter_eq_some_iff]
      exact ⟨KeyStyle.ofLabel?_label k, by simpa using hk⟩

theorem judge_style_eq_ok_iff : (style choices).judge answer = .ok k ↔ answer = [] ∧ k = .asDeclared ∨
    (∃ i, IsNumeral answer (i + 1) ∧ choices[i]? = some k) ∨ answer = k.label ∧ k ∈ choices := by
  rw [← pick?_eq_some_iff]
  dsimp only [style]
  by_cases hempty : answer = []
  · subst hempty
    have hpick : pick? choices [] = none := rfl
    simp [hpick, eq_comm]
  · rw [if_neg (by simpa using hempty)]
    cases pick? choices answer <;> simp [hempty]

/-- The line of the menu for a choice starts with its number, and the number as it is shown picks the choice
(`pick?_ofNat`). -/
theorem menu_getElem? {i : Nat} (h : choices[i]? = some k) :
    (menu choices)[i]? = some ("  " ++ Text.ofNat (i + 1) ++ ") " ++ k.label) := by
  rw [menu, List.getElem?_mapIdx, h]
  rfl

theorem pick?_ofNat {i : Nat} (h : choices[i]? = some k) : pick? choices (Text.ofNat (i + 1)) = some k :=
  pick?_eq_some_iff.mpr (.inl ⟨i, isNumeral_ofNat (i + 1), h⟩)

end Question

/-! ### The two questions -/

namespace Prompter
variable {s : Session}

/-- On a working screen both questions of a terminal run through the lines of the input up to the first that
decides and no further. An empty line gives the suffix that is offered, or the default style; an identifier tail is
the suffix; the number ahead of a choice in the menu, or the label of a choice, is the style; and nothing else is
accepted. -/
theorem terminal_asked (hs : s.Works) :
    (∀ offer, (Question.suffix offer).Asked [] s (terminal.suffix offer s)) ∧
    (∀ choices, (Question.style choices).Asked (Question.menu choices) s (terminal.style choices s)) ∧
    (∀ offer answer t, (Question.suffix offer).judge answer = .ok t ↔
      answer = [] ∧ t = offer ∨ answer ≠ [] ∧ isIdentifierTail answer = true ∧ t = answer) ∧
    ∀ choices answer k, (Question.style choices).judge answer = .ok k ↔
      answer = [] ∧ k = .asDeclared ∨
      (∃ i, IsNumeral answer (i + 1) ∧ choices[i]? = some k ∧
        (Question.menu choices)[i]? = some ("  " ++ Text.ofNat (i + 1) ++ ") " ++ k.label)) ∨
      answer = k.label ∧ k ∈ choices := by
  refine ⟨fun offer => hs.asked _, fun choices => ?_, fun offer answer t => Question.judge_suffix_eq_ok_iff,
    fun choices answer k => Question.judge_style_eq_ok_iff.trans ?_⟩
  · exact .below hs ((hs.displayLines _).1.asked _)
  · refine or_congr_right (or_congr_left (exists_congr fun i => and_congr_right fun _ => ?_))
    exact ⟨fun hk => ⟨hk, Question.menu_getElem? hk⟩, And.left⟩

/-- Among the lines is one that is no text, ahead of which two answers are refused. -/
def badLine : Session where
  input := "7\nnone\n".toUTF8.toList ++ [0xff, 10] ++ " +02 \n".toUTF8.toList

theorem terminal_asked_badLine : badLine.Works ∧
    (Question.style KeyStyle.all).Asked (Question.menu KeyStyle.all) badLine (terminal.style KeyStyle.all badLine) ∧
    (terminal.style KeyStyle.all badLine).1 = none ∧
    (terminal.style KeyStyle.all (terminal.style KeyStyle.all badLine).2).1 = some .snake := by
  have hworks : badLine.Works := ⟨rfl, rfl, nofun⟩
  obtain ⟨-, hstyle, -, -⟩ := terminal_asked hworks
  exact ⟨hworks, hstyle KeyStyle.all, by decide +kernel, by decide +kernel⟩

/-- The style that is answered is one of the choices, unless the line that decides is blank and the default is no
choice. -/
theorem style_mem_iff {choices : List KeyStyle} {k : KeyStyle} (h : (terminal.style choices s).1 = some k) :
    ∃ l ∈ (Question.style choices).decisive? s.input, ∃ t, Text.ofUtf8? l = some t ∧
      (k ∈ choices ↔ .asDeclared ∈ choices ∨ t.trim ≠ []) := by
  obtain ⟨l, hl, t, ht, hjudge⟩ := Session.answer_of_ask h
  rw [Session.input_displayLines] at hl
  refine ⟨l, hl, t, ht, ?_⟩
  rcases Question.judge_style_eq_ok_iff.mp hjudge with ⟨hblank, rfl⟩ | ⟨i, hi, hk⟩ | ⟨hlabel, hk⟩
  · exact ⟨.inl, fun h => h.resolve_right fun hne => hne hblank⟩
  · exact iff_of_true (List.mem_of_getElem? hk) (.inr (Question.ne_nil_of_isNumeral hi))
  · refine iff_of_true hk (.inr ?_)
    rw [hlabel]
    cases k <;> exact List.cons_ne_nil _ _

/-- The third line picks the second of two choices, and the first names a style that is none of them. -/
def thirdLine : Session where
  input := "original\n3\n2".toUTF8.toList

theorem style_mem_iff_thirdLine : ∃ l ∈ (Question.style [.snake, .kebab]).decisive? thirdLine.input,
    ∃ t, Text.ofUtf8? l = some t ∧
      (.kebab ∈ [KeyStyle.snake, .kebab] ↔ .asDeclared ∈ [KeyStyle.snake, .kebab] ∨ t.trim ≠ []) :=
  style_mem_iff (s := thirdLine) (by decide +kernel)

/-- A blank line is answered by a style that the menu does not show. -/
theorem style_notMem_blankLine :
    (terminal.style [.snake] { input := "\n".toUTF8.toList }).1 = some .asDeclared ∧
      KeyStyle.asDeclared ∉ [KeyStyle.snake] := by
  decide +kernel

end Prompter

end DartTransfer

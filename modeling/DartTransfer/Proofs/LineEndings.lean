import DartTransfer.Proofs.Blocks
import DartTransfer.Proofs.Constructors
import DartTransfer.Proofs.Insertions
import DartTransfer.Proofs.Outcomes

/-!
# Line endings

`Text.crlf` puts a carriage return ahead of each newline. To every scanner the two characters are of
one kind, a blank and no part of a word, and no word that is looked for holds either. So each scanner
takes the same parts off the changed text, up to the line endings in them, and what is made of the
lines of a body, of which `Text.lines` drops the carriage returns, does not change at all
(`Generation.line_endings`).
-/

namespace DartTransfer

namespace Text
variable {p : Char → Bool} {w t : Text}

/-- The text with a carriage return ahead of each newline. -/
def crlf (t : Text) : Text := t.flatMap fun c => if c = '\n' then ['\r', '\n'] else [c]

theorem crlf_newline (t : Text) : crlf ('\n' :: t) = '\r' :: '\n' :: crlf t := rfl

theorem crlf_cons {c : Char} (hc : c ≠ '\n') (t : Text) : crlf (c :: t) = c :: crlf t := by
  rw [crlf, List.flatMap_cons, if_neg hc]
  rfl

theorem crlf_append (s t : Text) : crlf (s ++ t) = crlf s ++ crlf t := List.flatMap_append

theorem drop_one_crlf (h : ∀ c ∈ t.head?, c ≠ '\n') : (crlf t).drop 1 = crlf (t.drop 1) := by
  cases t with
  | nil => rfl
  | cons c t => rw [crlf_cons (h c rfl)]; rfl

/-- Induction that stops at the newlines. -/
theorem newlineRec {P : Text → Prop} (nil : P []) (newline : ∀ t, P t → P ('\n' :: t))
    (cons : ∀ c t, c ≠ '\n' → P t → P (c :: t)) (t : Text) : P t := by
  induction t with
  | nil => exact nil
  | cons c t ih =>
    by_cases hc : c = '\n'
    · exact hc ▸ newline t ih
    · exact cons c t hc ih

theorem crlf_of_notMem (h : '\n' ∉ t) : crlf t = t := by
  induction t with
  | nil => rfl
  | cons c t ih =>
    rw [crlf_cons (fun e => h (e ▸ List.mem_cons_self)), ih fun hm => h (List.mem_cons_of_mem c hm)]

theorem crlf_eq_nil_iff : crlf t = [] ↔ t = [] := by
  cases t using newlineRec with
  | nil => exact Iff.rfl
  | newline t => exact iff_of_false (List.cons_ne_nil _ _) (List.cons_ne_nil _ _)
  | cons c t hc =>
    rw [crlf_cons hc]
    exact iff_of_false (List.cons_ne_nil _ _) (List.cons_ne_nil _ _)

/-! ### Runs and words -/

theorem any_head?_crlf (hp : p '\r' = p '\n') (t : Text) : (crlf t).head?.any p = t.head?.any p := by
  cases t using newlineRec with
  | nil => rfl
  | newline t => exact hp
  | cons c t hc => rw [crlf_cons hc]; rfl

theorem takeWhile_crlf (hp : p '\r' = p '\n') (t : Text) :
    (crlf t).takeWhile p = crlf (t.takeWhile p) := by
  induction t using newlineRec with
  | nil => rfl
  | newline t ih =>
    rw [crlf_newline, List.takeWhile_cons, List.takeWhile_cons, List.takeWhile_cons, hp, ih]
    split <;> rfl
  | cons c t hc ih =>
    rw [crlf_cons hc, List.takeWhile_cons, List.takeWhile_cons, ih]
    split
    · rw [crlf_cons hc]
    · rfl

theorem dropWhile_crlf (hp : p '\r' = p '\n') (t : Text) :
    (crlf t).dropWhile p = crlf (t.dropWhile p) := by
  induction t using newlineRec with
  | nil => rfl
  | newline t ih =>
    rw [crlf_newline, List.dropWhile_cons, List.dropWhile_cons, List.dropWhile_cons, hp, ih]
    split <;> rfl
  | cons c t hc ih =>
    rw [crlf_cons hc, List.dropWhile_cons, List.dropWhile_cons, ih]
    split
    · rfl
    · rw [crlf_cons hc]

/-- A run that no newline is part of ends ahead of the carriage return too. -/
theorem takeWhile_crlf_of_false (hr : p '\r' = false) (hn : p '\n' = false) (t : Text) :
    (crlf t).takeWhile p = t.takeWhile p := by
  rw [takeWhile_crlf (hr.trans hn.symm), crlf_of_notMem]
  intro hm
  rw [takeWhile_all hm] at hn
  exact Bool.noConfusion hn

/-- A text that keeps clear of line endings. -/
def Unbroken (t : Text) : Prop := '\r' ∉ t ∧ '\n' ∉ t

instance (t : Text) : Decidable t.Unbroken := inferInstanceAs (Decidable (_ ∧ _))

theorem Unbroken.of_cons {c : Char} (h : Unbroken (c :: t)) : c ≠ '\r' ∧ c ≠ '\n' ∧ t.Unbroken :=
  ⟨fun e => h.1 (e ▸ List.mem_cons_self), fun e => h.2 (e ▸ List.mem_cons_self),
    fun hm => h.1 (List.mem_cons_of_mem c hm), fun hm => h.2 (List.mem_cons_of_mem c hm)⟩

theorem IsIdentifier.unbroken (h : IsIdentifier t) : t.Unbroken :=
  ⟨h.notMem (isIdentifierPart_of_isBlank (by decide)), h.notMem (isIdentifierPart_of_isBlank (by decide))⟩

theorem stripPrefix?_crlf (hw : w.Unbroken) (t : Text) :
    stripPrefix? w (crlf t) = (stripPrefix? w t).map crlf := by
  induction w generalizing t with
  | nil => rfl
  | cons d w ih =>
    obtain ⟨hr, hn, hw⟩ := hw.of_cons
    cases t using newlineRec with
    | nil => rfl
    | newline t => rw [crlf_newline, stripPrefix?, stripPrefix?, if_neg hr, if_neg hn]; rfl
    | cons c t hc =>
      rw [crlf_cons hc, stripPrefix?, stripPrefix?, ih hw]
      split <;> rfl

theorem isWord_return : isWord '\r' = false := isWord_of_isBlank (by decide)

theorem isWord_newline : isWord '\n' = false := isWord_of_isBlank (by decide)

theorem wordAt?_crlf (hw : w.Unbroken) (before : Option Char) (t : Text) :
    wordAt? w before (crlf t) = (wordAt? w before t).map crlf := by
  rw [wordAt?, wordAt?, stripPrefix?_crlf hw]
  split
  · rfl
  · cases stripPrefix? w t with
    | none => rfl
    | some r =>
      rw [Option.map_some]
      dsimp only
      rw [any_head?_crlf (isWord_return.trans isWord_newline.symm)]
      split <;> rfl

/-- No word starts at another character than its first one. -/
theorem wordAt?_eq_none_of_ne {c d : Char} (h : d ≠ c) (w : Text) (before : Option Char) (t : Text) :
    wordAt? (d :: w) before (c :: t) = none := by
  rw [wordAt?, stripPrefix?, if_neg h]
  split <;> rfl

theorem trimStart_crlf (t : Text) : trimStart (crlf t) = crlf (trimStart t) := dropWhile_crlf rfl t

theorem identifier?_crlf (t : Text) : identifier? (crlf t) = (identifier? t).map (Prod.map id crlf) := by
  have hr : isIdentifierPart '\r' = false := isIdentifierPart_of_isBlank (by decide)
  have hn : isIdentifierPart '\n' = false := isIdentifierPart_of_isBlank (by decide)
  cases t using newlineRec with
  | nil => rfl
  | newline t => rfl
  | cons c t hc =>
    rw [crlf_cons hc, identifier?, identifier?, takeWhile_crlf_of_false hr hn,
      dropWhile_crlf (hr.trans hn.symm)]
    split <;> rfl

theorem afterBlanks?_crlf (t : Text) : afterBlanks? (crlf t) = (afterBlanks? t).map crlf := by
  cases t using newlineRec with
  | nil => rfl
  | newline t =>
    have hstart : trimStart ('\n' :: crlf t) = trimStart (crlf t) := rfl
    rw [crlf_newline, afterBlanks?, afterBlanks?, hstart, trimStart_crlf]
    rfl
  | cons c t hc =>
    rw [crlf_cons hc, afterBlanks?, afterBlanks?, trimStart_crlf]
    split <;> rfl

theorem splitAt?_crlf {c : Char} (hr : '\r' ≠ c) (hn : '\n' ≠ c) (t : Text) :
    splitAt? c (crlf t) = (splitAt? c t).map (Prod.map crlf crlf) := by
  have hp : ('\r' != c) = ('\n' != c) := (bne_iff_ne.mpr hr).trans (bne_iff_ne.mpr hn).symm
  rw [splitAt?, splitAt?, dropWhile_crlf hp, takeWhile_crlf hp]
  cases h : t.dropWhile (· != c) with
  | nil => rfl
  | cons d r =>
    have hd : (d != c) = false := head?_dropWhile (p := (· != c)) (t := t) (by rw [h]; rfl)
    rw [crlf_cons ((bne_eq_false_iff_eq.mp hd).trans_ne hn.symm)]
    rfl

/-- A line is read without its ending, whichever it is. -/
theorem lines_crlf (h : '\r' ∉ t) : lines (crlf t) = lines t := by
  induction t using newlineRec with
  | nil => rfl
  | newline t ih =>
    rw [crlf_newline, lines, lines, ih fun hm => h (List.mem_cons_of_mem _ hm)]
  | cons c t hc ih =>
    have hr : c ≠ '\r' := fun e => h (e ▸ List.mem_cons_self)
    rw [crlf_cons hc, lines, lines, ih fun hm => h (List.mem_cons_of_mem _ hm)]
    · exact hc
    · exact fun _ e => absurd e hr
    · exact hc
    · exact fun _ e => absurd e hr

theorem isPrefixOf_eq_isSome (p t : Text) : p.isPrefixOf t = (stripPrefix? p t).isSome := by
  rw [Bool.eq_iff_iff, List.isPrefixOf_iff_prefix, Option.isSome_iff_exists]
  exact exists_congr fun r => ⟨fun e => stripPrefix?_eq_some_iff.mpr e.symm,
    fun e => (stripPrefix?_eq_some_iff.mp e).symm⟩

theorem isPrefixOf_crlf (hw : w.Unbroken) (t : Text) : w.isPrefixOf (crlf t) = w.isPrefixOf t := by
  rw [isPrefixOf_eq_isSome, isPrefixOf_eq_isSome, stripPrefix?_crlf hw, Option.isSome_map]

theorem occursIn_crlf (hw : w.Unbroken) (t : Text) : occursIn w (crlf t) = occursIn w t := by
  induction t using newlineRec with
  | nil => rfl
  | newline t ih =>
    cases w with
    | nil => rfl
    | cons d w =>
      obtain ⟨hr, hn, -⟩ := hw.of_cons
      rw [crlf_newline, occursIn, occursIn, occursIn, List.isPrefixOf_cons_cons, List.isPrefixOf_cons_cons,
        List.isPrefixOf_cons_cons, beq_eq_false_iff_ne.mpr hr, beq_eq_false_iff_ne.mpr hn, ih]
      rfl
  | cons c t hc ih =>
    have hhead := isPrefixOf_crlf hw (c :: t)
    rw [crlf_cons hc] at hhead ⊢
    rw [occursIn, occursIn, hhead, ih]

theorem mem_of_mem_slice {s : Span} {c : Char} (h : c ∈ t.slice s) : c ∈ t := by
  have htake := takeBytes_append_dropBytes (s.stop - s.start) (dropBytes s.start t)
  rw [← takeBytes_append_dropBytes s.start t, ← htake]
  exact List.mem_append_right _ (List.mem_append_left _ h)

end Text

/-! ### Headings and headers -/

namespace Heading

/-- The same heading in a text with other line endings, which blanks behind the keyword may be. -/
def crlf (h : Heading) : Heading := ⟨h.lead.crlf, h.name, h.rest.crlf⟩

theorem find?_cons_of_ne {c : Char} (hc : 'c' ≠ c) (before : Option Char) (t : Text) :
    find? before (c :: t) = (find? (some c) t).map (Prod.map (c :: ·) id) := by
  have hword : Text.wordAt? "class" before (c :: t) = none := Text.wordAt?_eq_none_of_ne hc _ _ _
  rw [find?, at?, hword]
  rfl

theorem at?_crlf (before : Option Char) (t : Text) : at? before t.crlf = (at? before t).map crlf := by
  rw [at?, at?, Text.wordAt?_crlf (by decide)]
  cases Text.wordAt? "class" before t with
  | none => rfl
  | some r =>
    rw [Option.map_some]
    dsimp only
    rw [Text.takeWhile_crlf rfl, Text.dropWhile_crlf rfl, Text.identifier?_crlf]
    cases hgap : r.takeWhile isBlank with
    | nil => rfl
    | cons b gap =>
      have hne : Text.crlf (b :: gap) ≠ [] := fun e => List.cons_ne_nil _ _ (Text.crlf_eq_nil_iff.mp e)
      rw [List.isEmpty_eq_false_iff.mpr hne]
      cases Text.identifier? (r.dropWhile isBlank) with
      | none => rfl
      | some nr =>
        refine congrArg some ?_
        rw [crlf, Text.crlf_append]
        rfl

theorem find?_crlf (before : Option Char) (t : Text) :
    find? before t.crlf = (find? before t).map (Prod.map Text.crlf crlf) := by
  induction t using Text.newlineRec generalizing before with
  | nil => rfl
  | newline t ih =>
    -- no heading starts at either character, and behind the newline the texts are scanned alike
    rw [Text.crlf_newline, find?_cons_of_ne (by decide), find?_cons_of_ne (by decide),
      find?_cons_of_ne (by decide), ih]
    cases find? (some '\n') t <;> rfl
  | cons c t hc ih =>
    have hat := at?_crlf before (c :: t)
    rw [Text.crlf_cons hc] at hat ⊢
    rw [find?, find?, hat, ih]
    cases at? before (c :: t) with
    | some h => rfl
    | none =>
      cases find? (some c) t with
      | none => rfl
      | some sh =>
        show some (c :: sh.1.crlf, sh.2.crlf) = some (Text.crlf (c :: sh.1), sh.2.crlf)
        rw [Text.crlf_cons hc]

end Heading

namespace SourceClass

theorem extendsEquatableAt_crlf (before : Option Char) (t : Text) :
    extendsEquatableAt before t.crlf = extendsEquatableAt before t := by
  rw [extendsEquatableAt, extendsEquatableAt, Text.wordAt?_crlf (by decide)]
  cases Text.wordAt? "extends" before t with
  | none => rfl
  | some r =>
    rw [Option.map_some, Option.bind_some, Option.bind_some, Text.afterBlanks?_crlf]
    cases Text.afterBlanks? r with
    | none => rfl
    | some r =>
      rw [Option.map_some]
      dsimp only
      rw [Text.wordAt?_crlf (by decide), Option.isSome_map]

theorem mentionsEquatable_cons_of_ne {c : Char} (hmixin : 'E' ≠ c) (hbase : 'e' ≠ c)
    (before : Option Char) (t : Text) :
    mentionsEquatable before (c :: t) = mentionsEquatable (some c) t := by
  have hword : Text.wordAt? "EquatableMixin" before (c :: t) = none :=
    Text.wordAt?_eq_none_of_ne hmixin _ _ _
  have hextends : Text.wordAt? "extends" before (c :: t) = none := Text.wordAt?_eq_none_of_ne hbase _ _ _
  rw [mentionsEquatable, extendsEquatableAt, hword, hextends]
  rfl

theorem mentionsEquatable_crlf (before : Option Char) (t : Text) :
    mentionsEquatable before t.crlf = mentionsEquatable before t := by
  induction t using Text.newlineRec generalizing before with
  | nil => rfl
  | newline t ih =>
    rw [Text.crlf_newline, mentionsEquatable_cons_of_ne (by decide) (by decide),
      mentionsEquatable_cons_of_ne (by decide) (by decide),
      mentionsEquatable_cons_of_ne (by decide) (by decide), ih]
  | cons c t hc ih =>
    have hmixin := Text.wordAt?_crlf (w := "EquatableMixin") (by decide) before (c :: t)
    have hextends := extendsEquatableAt_crlf before (c :: t)
    rw [Text.crlf_cons hc] at hmixin hextends ⊢
    rw [mentionsEquatable, mentionsEquatable, hmixin, hextends, ih, Option.isSome_map]

end SourceClass

/-! ### Constructors -/

namespace Constructor
variable {name : Text}

theorem callAt?_crlf (hn : name.Unbroken) (before : Option Char) (t : Text) :
    callAt? name before t.crlf = (callAt? name before t).map Text.crlf := by
  rw [callAt?, callAt?, Text.stripPrefix?_crlf hn]
  split
  · rfl
  · cases Text.stripPrefix? name t with
    | none => rfl
    | some r =>
      rw [Option.map_some, Option.map_some, Option.map_some, Text.trimStart_crlf]
      cases Text.trimStart r using Text.newlineRec with
      | nil => rfl
      | newline u => rfl
      | cons c u hc =>
        rw [Text.crlf_cons hc]
        by_cases ho : c = '('
        · rw [ho]
          rfl
        · simp [ho]

theorem firstCall?_crlf (hn : name.Unbroken) (hne : name ≠ []) (before : Option Char) (t : Text) :
    firstCall? name before t.crlf = (firstCall? name before t).map Text.crlf := by
  induction t using Text.newlineRec generalizing before with
  | nil => rfl
  | newline t ih =>
    obtain ⟨d, name, rfl⟩ := List.exists_cons_of_ne_nil hne
    obtain ⟨hr, hnl, -⟩ := hn.of_cons
    rw [Text.crlf_newline, firstCall?_cons_of_ne hr, firstCall?_cons_of_ne hnl, firstCall?_cons_of_ne hnl, ih]
  | cons c t hc ih =>
    have hcall := callAt?_crlf hn before (c :: t)
    rw [Text.crlf_cons hc] at hcall ⊢
    rw [firstCall?, firstCall?, hcall, ih]
    cases callAt? name before (c :: t) <;> rfl

theorem upToClose_crlf (depth : Nat) (t : Text) : upToClose depth t.crlf = (upToClose depth t).crlf := by
  induction t using Text.newlineRec generalizing depth with
  | nil => rfl
  | newline t ih =>
    have hstep : upToClose depth ('\r' :: '\n' :: t.crlf) = '\r' :: '\n' :: upToClose depth t.crlf := rfl
    rw [Text.crlf_newline, hstep, ih]
    rfl
  | cons c t hc ih =>
    rw [Text.crlf_cons hc]
    cases depth with
    | zero =>
      rw [upToClose, upToClose]
      split
      · rw [ih, Text.crlf_cons hc]
      · split
        · rfl
        · rw [ih, Text.crlf_cons hc]
    | succ depth =>
      rw [upToClose, upToClose]
      split
      · rw [ih, Text.crlf_cons hc]
      · split <;> rw [ih, Text.crlf_cons hc]

theorem requiredAt?_crlf (before : Option Char) (t : Text) :
    requiredAt? before t.crlf = (requiredAt? before t).map (Prod.map id Text.crlf) := by
  rw [requiredAt?, requiredAt?, Text.wordAt?_crlf (by decide)]
  cases Text.wordAt? "required" before t with
  | none => rfl
  | some r =>
    rw [Option.map_some, Option.bind_some, Option.bind_some, Text.afterBlanks?_crlf]
    cases Text.afterBlanks? r with
    | none => rfl
    | some r =>
      rw [Option.map_some, Option.bind_some, Option.bind_some, Text.stripPrefix?_crlf (by decide)]
      cases Text.stripPrefix? "this." r with
      | none => rfl
      | some r => exact Text.identifier?_crlf r

theorem requiredNames_crlf (before : Option Char) (t : Text) :
    requiredNames before t.crlf = requiredNames before t := by
  fun_induction requiredNames before t with
  | case1 before t n r h ih =>
    have hat : requiredAt? before t.crlf = some (n, r.crlf) := by rw [requiredAt?_crlf, h]; rfl
    rw [requiredNames_of_some hat, ih]
  | case2 => exact requiredNames_nil
  | case3 before c t h ih =>
    by_cases hc : c = '\n'
    · rw [hc, Text.crlf_newline, requiredNames_skip_char (by decide), requiredNames_skip_char (by decide),
        ← hc, ih]
    · have hat := requiredAt?_crlf before (c :: t)
      rw [Text.crlf_cons hc, h] at hat
      rw [Text.crlf_cons hc, requiredNames_of_none hat, ih]

theorem find?_crlf (hn : name.IsIdentifier) (body : Text) : find? body.crlf name = find? body name := by
  rw [find?, find?, firstCall?_crlf hn.unbroken hn.ne_nil, Option.map_map]
  refine congrArg (Option.map · _) (funext fun r => ?_)
  rw [Function.comp, upToClose_crlf, requiredNames_crlf]

end Constructor

/-! ### Located classes -/

namespace SourceClass
variable {c c' : SourceClass} {d : Discovery} {t : Text}

/-- The same class in a text with other line endings. -/
structure WithCrlf (c c' : SourceClass) : Prop where
  name : c'.name = c.name
  header : c'.header = c.header.crlf
  body : c'.body = c.body.crlf

theorem allFrom_crlf (position position' : Nat) (before : Option Char) (t : Text) :
    List.Forall₂ WithCrlf (allFrom position before t) (allFrom position' before t.crlf) := by
  have hbrace := Text.splitAt?_crlf (c := '\x7b') (by decide) (by decide)
  have hclosing := Text.splitAt?_crlf (c := '\x7d') (by decide) (by decide)
  fun_induction allFrom position before t generalizing position' with
  | case1 position before t hfind =>
    have hfind' := (Heading.find?_crlf before t).trans (congrArg (Option.map _) hfind)
    rw [allFrom_of_noHeading hfind']
    exact .nil
  | case2 position before t skipped h hfind hopen =>
    have hfind' := (Heading.find?_crlf before t).trans (congrArg (Option.map _) hfind)
    have hopen' := (hbrace h.rest).trans (congrArg (Option.map _) hopen)
    rw [allFrom_of_noOpening hfind' hopen']
    exact .nil
  | case3 position before t skipped h hfind header r hopen hclose =>
    have hfind' := (Heading.find?_crlf before t).trans (congrArg (Option.map _) hfind)
    have hopen' := (hbrace h.rest).trans (congrArg (Option.map _) hopen)
    have hclose' := (hclosing r).trans (congrArg (Option.map _) hclose)
    rw [allFrom_of_noClosing hfind' hopen' hclose']
    exact .nil
  | case4 position before t skipped h hfind header r hopen body rest hclose start stop ih =>
    have hfind' := (Heading.find?_crlf before t).trans (congrArg (Option.map _) hfind)
    have hopen' := (hbrace h.rest).trans (congrArg (Option.map _) hopen)
    have hclose' := (hclosing r).trans (congrArg (Option.map _) hclose)
    rw [allFrom_of_block hfind' hopen' hclose']
    exact .cons ⟨rfl, rfl, rfl⟩ (ih _)

theorem locate_crlf (d : Discovery) (t : Text) :
    List.Forall₂ WithCrlf (locate d t) (locate d t.crlf) := by
  cases d with
  | multi => exact allFrom_crlf 0 0 none t
  | single =>
    show List.Forall₂ WithCrlf (first? t).toList (first? t.crlf).toList
    rw [first?, first?, Heading.find?_crlf]
    cases Heading.find? none t with
    | none => exact .nil
    | some sh =>
      refine .cons ⟨rfl, Text.takeWhile_crlf rfl sh.2.rest, ?_⟩ .nil
      show (sh.2.rest.crlf.dropWhile (· != '\x7b')).drop 1 = _
      rw [Text.dropWhile_crlf rfl]
      refine Text.drop_one_crlf fun c hc => ?_
      have hbrace : (c != '\x7b') = false := Text.head?_dropWhile (p := (· != '\x7b')) hc
      rw [bne_eq_false_iff_eq.mp hbrace]
      decide

/-- The body of a located class is part of the text. -/
theorem mem_of_mem_body (hc : c ∈ locate d t) {x : Char} (hx : x ∈ c.body) : x ∈ t := by
  obtain ⟨_, _, _, _, lead, block, _, hr, hslice, -⟩ := exists_readAs_of_mem_locate hc
  refine Text.mem_of_mem_slice (s := c.span) ?_
  have hblock : x ∈ block := by
    rcases hr.block_eq with ⟨rfl, -⟩ | ⟨rfl, -⟩ | ⟨-, hnil, -⟩
    · exact List.mem_cons_of_mem _ (List.mem_append_left _ hx)
    · exact List.mem_cons_of_mem _ hx
    · rw [hnil] at hx
      exact absurd hx List.not_mem_nil
  rw [hslice]
  exact List.mem_append_right _ hblock

namespace WithCrlf

theorem usesEquatable (h : c.WithCrlf c') : c'.usesEquatable = c.usesEquatable := by
  rw [SourceClass.usesEquatable, h.header, mentionsEquatable_crlf]
  rfl

theorem declaredFields (h : c.WithCrlf c') (hr : '\r' ∉ c.body) (e : Extraction) :
    c'.declaredFields e = c.declaredFields e := by
  have hlines : Text.lines c'.body = Text.lines c.body := by rw [h.body, Text.lines_crlf hr]
  cases e with
  | directiveAware =>
    show commentedFieldsAfter [] (Text.lines c'.body) = _
    rw [hlines]
    rfl
  | permissive =>
    show (Text.lines c'.body).filterMap _ = _
    rw [hlines]
    rfl

theorem decidingConstructor? (h : c.WithCrlf c') (hn : c.name.IsIdentifier) (n : Nullability) :
    c'.decidingConstructor? n = c.decidingConstructor? n := by
  cases n with
  | byConstructor =>
    show Constructor.find? c'.body c'.name = _
    rw [h.body, h.name, Constructor.find?_crlf hn]
    rfl
  | byMarker => rfl

theorem hasFields (h : c.WithCrlf c') (hr : '\r' ∉ c.body) (o : Options) :
    c'.hasFields o = c.hasFields o := by
  rw [SourceClass.hasFields, h.declaredFields hr]
  rfl

theorem fieldless (h : c.WithCrlf c') : c'.fieldless = c.fieldless := by
  rw [SourceClass.fieldless, h.name]
  rfl

end WithCrlf

end SourceClass

/-! ### Runs -/

/-- The same data class from a text with other line endings, which only its body still has. -/
structure DataClass.WithCrlf (c c' : DataClass) : Prop where
  name : c'.name = c.name
  body : c'.body = c.body.crlf
  usesEquatable : c'.usesEquatable = c.usesEquatable
  fields : c'.fields = c.fields

namespace SourceClass
variable {c c' : SourceClass} {t : Text}

theorem WithCrlf.resolved (h : c.WithCrlf c') (hr : '\r' ∉ c.body) (hn : c.name.IsIdentifier)
    (o : Options) : (DataClass.resolved o c).WithCrlf (DataClass.resolved o c') := by
  refine ⟨h.name, h.body, h.usesEquatable, ?_⟩
  rw [DataClass.resolved, h.declaredFields hr, h.decidingConstructor? hn]
  rfl

/-- A run makes the same of both classes. -/
structure TreatedAlike (o : Options) (c c' : SourceClass) : Prop where
  hasFields : c'.hasFields o = c.hasFields o
  fieldless : c'.fieldless = c.fieldless
  resolved : (DataClass.resolved o c).WithCrlf (DataClass.resolved o c')

theorem treatedAlike_locate (ht : '\r' ∉ t) (o : Options) :
    List.Forall₂ (TreatedAlike o) (locate o.discovery t) (locate o.discovery t.crlf) := by
  have hmem : ∀ c ∈ locate o.discovery t, '\r' ∉ c.body ∧ c.name.IsIdentifier := by
    intro c hc
    obtain ⟨_, _, -, hn⟩ := exists_slice_of_mem_locate hc
    exact ⟨fun hr => ht (mem_of_mem_body hc hr), hn⟩
  refine ((List.forall₂_and_left _ _).mpr ⟨hmem, locate_crlf o.discovery t⟩).imp ?_
  rintro c c' ⟨⟨hr, hn⟩, h⟩
  exact ⟨h.hasFields hr o, h.fieldless, h.resolved hr hn o⟩

theorem treatedAlike_filter {cs cs' : List SourceClass} {o : Options}
    (h : List.Forall₂ (TreatedAlike o) cs cs') (p : Bool → Bool) :
    List.Forall₂ (TreatedAlike o) (cs.filter fun c => p (c.hasFields o))
      (cs'.filter fun c => p (c.hasFields o)) :=
  List.rel_filter (fun _ _ hc => iff_of_eq (congrArg (p · = true) hc.hasFields.symm)) h

end SourceClass

namespace TransferClass
variable {cs cs' : List DataClass} {i : Text} {o : Options}

theorem unbroken_of_mem_requiredImports (hi : i ∈ requiredImports cs o) : i.Unbroken := by
  rcases List.mem_cons.mp hi with rfl | hi
  · decide
  · split at hi
    · rw [List.mem_singleton.mp hi]
      decide
    · exact absurd hi List.not_mem_nil

theorem requiredImports_crlf (h : List.Forall₂ DataClass.WithCrlf cs cs') (o : Options) :
    requiredImports cs' o = requiredImports cs o := by
  have hany : cs'.any (·.usesEquatable) = cs.any (·.usesEquatable) := by
    induction h with
    | nil => rfl
    | cons hc _ ih => rw [List.any_cons, List.any_cons, hc.usesEquatable, ih]
  rw [requiredImports, hany, requiredImports]

end TransferClass

theorem missingImports_crlf {cs cs' : List DataClass} (h : List.Forall₂ DataClass.WithCrlf cs cs')
    (t : Text) (o : Options) : missingImports t.crlf cs' o = missingImports t cs o := by
  rw [missingImports, TransferClass.requiredImports_crlf h, missingImports]
  refine List.filter_congr fun i hi => ?_
  rw [Text.occursIn_crlf (TransferClass.unbroken_of_mem_requiredImports hi)]

namespace Generation
variable {t : Text} {o : Options} {g g' : Generation}

theorem classes_crlf (ht : '\r' ∉ t) (h : generate t o = .ok g) (h' : generate t.crlf o = .ok g') :
    List.Forall₂ DataClass.WithCrlf g.classes g'.classes := by
  rw [classes_eq_map h, classes_eq_map h', List.forall₂_map_left_iff, List.forall₂_map_right_iff]
  exact (SourceClass.treatedAlike_filter (SourceClass.treatedAlike_locate ht o) id).imp
    fun _ _ hc => hc.resolved

theorem diagnostics_crlf (ht : '\r' ∉ t) (h : generate t o = .ok g)
    (h' : generate t.crlf o = .ok g') : g'.diagnostics = g.diagnostics := by
  rw [diagnostics_eq_map h, diagnostics_eq_map h', eq_comm, ← List.forall₂_eq_eq_eq,
    List.forall₂_map_left_iff, List.forall₂_map_right_iff]
  exact (SourceClass.treatedAlike_filter (SourceClass.treatedAlike_locate ht o) (!·)).imp
    fun _ _ hc => hc.fieldless.symm

/-- There are as many edits: imports are inserted in the one text where they are in the other. -/
theorem length_edits_crlf (ht : '\r' ∉ t) (h : generate t o = .ok g) (h' : generate t.crlf o = .ok g') :
    g'.classEdits.length = g.classEdits.length ∧ g'.edits.length = g.edits.length := by
  have hclasses := classes_crlf ht h h'
  have hlength : g'.classEdits.length = g.classEdits.length := by
    rw [classEdits_eq h, classEdits_eq h', List.length_map, List.length_map, hclasses.length_eq]
  have hnil : g'.classes = [] ↔ g.classes = [] := by
    rw [← List.length_eq_zero_iff, ← hclasses.length_eq, List.length_eq_zero_iff]
  have hnone : g'.importEdit = none ↔ g.importEdit = none := by
    rw [importEdit_eq h, importEdit_eq h', importEdit?_eq_none_iff, importEdit?_eq_none_iff, hnil,
      missingImports_crlf hclasses]
  refine ⟨hlength, ?_⟩
  rw [edits, edits, List.length_append, List.length_append, hlength]
  cases hi : g.importEdit with
  | none => rw [hnone.mpr hi]
  | some e =>
    cases hi' : g'.importEdit with
    | none => exact absurd (hnone.mp hi') (by rw [hi]; exact Option.some_ne_none e)
    | some e' => rfl

/-- A run fails alike on a text whose newlines get carriage returns. -/
theorem generate_crlf (ht : '\r' ∉ t) (o : Options) :
    (∃ fault, generate t o = .error fault ∧ generate t.crlf o = .error fault) ∨
      ∃ g g', generate t o = .ok g ∧ generate t.crlf o = .ok g' := by
  have hcs := SourceClass.treatedAlike_locate ht o
  cases hlocate : SourceClass.locate o.discovery t with
  | nil =>
    rw [hlocate, List.forall₂_nil_left_iff] at hcs
    exact .inl ⟨.noClass, generate_of_locate_eq_nil hlocate, generate_of_locate_eq_nil hcs⟩
  | cons c cs =>
    rw [hlocate, List.forall₂_cons_left_iff] at hcs
    obtain ⟨c', cs', hc, -, hlocate'⟩ := hcs
    have hfault : Fault.noFields c'.name = .noFields c.name := (Prod.mk.inj hc.fieldless).2
    rw [generate_of_locate_eq_cons hlocate, generate_of_locate_eq_cons hlocate', hc.hasFields, hfault]
    split
    · exact .inl ⟨_, rfl, rfl⟩
    · exact .inr ⟨_, _, rfl, rfl⟩

/-- Carriage returns ahead of the newlines change nothing about a run but the text of the bodies and the
places: it fails with the same fault, or it gives the same classes with the same fields, the same
diagnostics and as many edits, and the same imports are missing. -/
theorem line_endings (ht : '\r' ∉ t) (o : Options) :
    (∃ fault, generate t o = .error fault ∧ generate t.crlf o = .error fault) ∨
      ∃ g g', generate t o = .ok g ∧ generate t.crlf o = .ok g' ∧
        List.Forall₂ DataClass.WithCrlf g.classes g'.classes ∧ g'.diagnostics = g.diagnostics ∧
        g'.classEdits.length = g.classEdits.length ∧ g'.edits.length = g.edits.length ∧
        missingImports t.crlf g'.classes o = missingImports t g.classes o := by
  refine (generate_crlf ht o).imp_right ?_
  rintro ⟨g, g', h, h'⟩
  have hclasses := classes_crlf ht h h'
  obtain ⟨hclassEdits, hedits⟩ := length_edits_crlf ht h h'
  exact ⟨g, g', h, h', hclasses, diagnostics_crlf ht h h', hclassEdits, hedits,
    missingImports_crlf hclasses t o⟩

/-- A comment that directs its field, between two newlines. -/
def directedField : Text := "class A {
  // Type: enum
  final B? b;
}
"

theorem line_endings_directedField : ∃ g', generate directedField.crlf {} = .ok g' ∧
    g'.classes.map (fun c => c.fields.map (·.kind)) = [[.enumerated]] := by
  have hok : (generate directedField {}).toOption.any
      (fun g => g.classes.map (fun c => c.fields.map (·.kind)) == [[.enumerated]]) = true := by
    decide +kernel
  obtain ⟨g, hg, hkinds⟩ := exists_generation_of_any hok
  rcases line_endings (t := directedField) (by decide) {} with ⟨fault, h, -⟩ | ⟨g₁, g', h, h', hclasses, -⟩
  · rw [hg] at h
    exact absurd h nofun
  · obtain rfl : g = g₁ := Except.ok.inj (hg.symm.trans h)
    refine ⟨g', h', ?_⟩
    rw [← beq_iff_eq.mp hkinds, eq_comm, ← List.forall₂_eq_eq_eq, List.forall₂_map_left_iff,
      List.forall₂_map_right_iff]
    exact hclasses.imp fun _ _ hc => by rw [hc.fields]

end Generation

end DartTransfer

import DartTransfer.Proofs.Constructors
import DartTransfer.Proofs.Emission
import Mathlib.Data.List.Forall2
import Mathlib.Data.List.Nodup

/-!
# A transfer class is read back

The scanners that read a data class also read the class that is written for it. In single-class mode
the first class of the written text has the generated name; the comment walk over its body meets the
written fields, each below its own documentation lines, and no field among the lines of the members
(`TransferClass.commentedFields_body`); and the first call of the class name is the written
constructor, which requires the fields that cannot be null (`TransferClass.find?_body`).
-/

namespace DartTransfer

/-- What a declaration has to say to be that of a generated field. -/
structure DeclaredField.Restates (d : DeclaredField) (f : Field) (suffix : Text) : Prop where
  name : d.name = f.name
  /-- The declared type with its mark. -/
  type : d.type ++ (if d.isMarked then "?" else "" : Text) = f.generatedType suffix
  leading : d.leading = f.docs
  trailing : d.trailing = []

/-! ### The lines of the fields -/

namespace Field
variable {f : Field} {suffix doc : Text}

/-- A field as its generated lines declare it. -/
def redeclared (f : Field) (suffix : Text) : DeclaredField :=
  ⟨f.plainType suffix, f.name, f.isMarked suffix, f.docs, []⟩

theorem restates_redeclared (f : Field) (suffix : Text) : (f.redeclared suffix).Restates f suffix :=
  ⟨rfl, (f.generatedType_eq suffix).symm, rfl, rfl⟩

theorem docLine_isLine (h : doc.IsComment) : (docLine doc).IsLine := by
  refine ⟨List.not_mem_append (by decide) h.newline, ?_⟩
  cases doc with
  | nil => decide
  | cons c r =>
    intro e
    have hlast : ("  /// ".toList ++ c :: r).getLast? = some '\r' := e
    rw [List.getLast?_append_of_ne_nil _ (List.cons_ne_nil c r)] at hlast
    exact absurd (h.trimmed.stop '\r' hlast) (by decide)

theorem docLine_noField (doc : Text) : DeclaresNoField (docLine doc) := by
  have hforeign : Text.HasForeignWord "  /// " :=
    ⟨"  ", [], '/', "// ", by decide, by decide, by decide, by decide, by decide⟩
  exact .of_foreign (hforeign.append doc)

theorem trimStart_docLine (doc : Text) : Text.trimStart (docLine doc) = "///".toList ++ ' ' :: doc :=
  Text.dropWhile_run (a := "  ") (b := "///".toList ++ ' ' :: doc) (List.all_eq_true.mp (by decide))
    fun c hc => by
    obtain rfl : '/' = c := Option.some.inj hc
    decide

theorem commentText?_docLine (h : doc.IsComment) : commentText? (docLine doc) = some doc := by
  have hstrip : Text.stripPrefix? "//" ("///".toList ++ ' ' :: doc) = some ('/' :: ' ' :: doc) := rfl
  have hslash : ('/' :: ' ' :: doc).dropWhile (· == '/') = ' ' :: doc := rfl
  have htrim : Text.trim (' ' :: doc) = Text.trim doc := rfl
  rw [commentText?, trimStart_docLine, hstrip, Option.map_some, hslash, htrim, h.trimmed.trim_eq]

theorem ownCommentText?_docLine (doc : Text) : ownCommentText? (docLine doc) = none := by
  rw [ownCommentText?, trimStart_docLine, if_pos]
  rfl

theorem declarationLine_isLine (h : f.WellFormed) (hs : ∀ c ∈ suffix, isIdentifierPart c = true) :
    (f.declarationLine suffix).IsLine := by
  have htype : '\n' ∉ f.generatedType suffix :=
    notMem_generatedType (newline_notMem_suffix hs) (by decide) h.newline
  refine Text.isLine_append ?_ (by decide) (by decide)
  exact List.not_mem_append
    (List.not_mem_append (List.not_mem_append (by decide) htype) (by decide)) h.name.newline_notMem

theorem parse?_declarationLine (h : f.WellFormed) (hs : ∀ c ∈ suffix, isIdentifierPart c = true)
    (hk : f.plainType suffix ∉ statementWords) : Declaration.parse? (f.declarationLine suffix) =
      some ⟨f.plainType suffix, f.name, f.isMarked suffix, true, []⟩ := by
  have hsemi : ';' ∉ f.plainType suffix :=
    notMem_plainType (mark_notMem_suffix hs (by decide)) h.semicolon
  have hwords : Text.words "  final " = ["final".toList] := by decide
  have hread : Declaration.ReadAs ⟨f.plainType suffix, f.name, f.isMarked suffix, true, []⟩
      (f.declarationLine suffix) "  final " " " [] := by
    refine ⟨?_, List.not_mem_append (by decide) hsemi, h.plainType_isType hs, h.name, by decide,
      List.all_eq_true.mp (by decide), by simp, ?_, by decide, ?_, ?_, ?_, hk⟩
    · have hline : f.declarationLine suffix =
          "  final ".toList ++ f.generatedType suffix ++ " ".toList ++ f.name ++ ";".toList := rfl
      rw [hline, generatedType_eq, show ";".toList = [';'] from rfl]
      simp only [Declaration.mark, List.append_nil, List.append_assoc]
    · intro c hc
      obtain rfl : ' ' = c := Option.some.inj hc
      exact isTypePart_of_isBlank (by decide)
    · rw [hwords]
      decide
    · rw [hwords]
      decide
    · rw [hwords]
      rfl
  exact hread.parse?_eq

end Field

/-! ### The walk over a written body -/

namespace TransferClass
variable {suffix : Text} {fs : List Field} {above docs ls : List Text}

theorem fieldLines_cons_append (f : Field) : fieldLines suffix (f :: fs) ++ ls =
    f.docs.map Field.docLine ++ f.declarationLine suffix :: (fieldLines suffix fs ++ ls) := by
  rw [fieldLines, List.flatMap_cons, List.append_assoc, List.append_assoc, List.singleton_append]
  rfl

theorem commentedFieldsAfter_docs (hdocs : ∀ d ∈ docs, d.IsComment) :
    commentedFieldsAfter above (docs.map Field.docLine ++ ls) =
      commentedFieldsAfter (above ++ docs) ls := by
  induction docs generalizing above with
  | nil => simp
  | cons d docs ih =>
    rw [List.map_cons, List.cons_append,
      commentedFieldsAfter_comment (Field.docLine_noField d)
        (Field.commentText?_docLine (hdocs d List.mem_cons_self)),
      ih fun e he => hdocs e (List.mem_cons_of_mem _ he), List.append_assoc, List.singleton_append]

theorem ownCommentRun_declarationLine (f : Field) :
    ownCommentRun (f.declarationLine suffix :: ls) = [] := by
  have htrim : Text.trimStart (f.declarationLine suffix) =
      'f' :: ("inal ".toList ++ f.generatedType suffix ++ " ".toList ++ f.name ++ ";".toList) := rfl
  have hown : ownCommentText? (f.declarationLine suffix) = none := by
    rw [ownCommentText?, commentText?, htrim]
    rfl
  rw [ownCommentRun, hown]

/-- No field line is a comment that belongs to the field above it. -/
theorem ownCommentRun_fieldLines (hls : ownCommentRun ls = []) :
    ownCommentRun (fieldLines suffix fs ++ ls) = [] := by
  cases fs with
  | nil => exact hls
  | cons f fs =>
    rw [fieldLines_cons_append]
    cases f.docs with
    | nil => exact ownCommentRun_declarationLine f
    | cons d docs => rw [List.map_cons, List.cons_append, ownCommentRun, Field.ownCommentText?_docLine]

theorem commentedFieldsAfter_fieldLines (hfs : ∀ f ∈ fs, f.WellFormed)
    (hs : ∀ c ∈ suffix, isIdentifierPart c = true)
    (hk : ∀ f ∈ fs, f.plainType suffix ∉ statementWords) (hls : ownCommentRun ls = []) :
    commentedFieldsAfter [] (fieldLines suffix fs ++ ls) =
      fs.map (·.redeclared suffix) ++ commentedFieldsAfter [] ls := by
  induction fs with
  | nil => rfl
  | cons f fs ih =>
    have hf := hfs f List.mem_cons_self
    have hline := Field.parse?_declarationLine hf hs (hk f List.mem_cons_self)
    have hrest :=
      ih (fun g hg => hfs g (List.mem_cons_of_mem _ hg)) fun g hg => hk g (List.mem_cons_of_mem _ hg)
    rw [fieldLines_cons_append, commentedFieldsAfter_docs hf.docs, List.nil_append,
      commentedFieldsAfter_declaration hline rfl rfl (ownCommentRun_fieldLines hls), hrest]
    rfl

/-! ### The written text as a source -/

variable {c : DataClass} {o : Options}

/-- The lines between the braces, and the closing one. -/
def bodyLines (c : DataClass) (o : Options) : List Text :=
  fieldLines o.suffix c.fields ++ (memberLines c o ++ [['\x7d']])

theorem render_eq (c : DataClass) (o : Options) :
    render c o = headLine c o ++ '\n' :: (bodyLines c o).flatMap (· ++ ['\n']) := by
  have hlines : lines c o = headLine c o :: bodyLines c o := by
    show [headLine c o] ++ (fieldLines o.suffix c.fields ++ memberLines c o) ++ [['\x7d']] = _
    rw [List.append_assoc, List.append_assoc]
    rfl
  rw [render, hlines, List.flatMap_cons, List.append_assoc, List.singleton_append]

theorem exists_header (c : DataClass) (o : Options) : ∃ header, headLine c o =
    "class ".toList ++ nameFor c.name o ++ (header ++ ['\x7b']) ∧ '\x7b' ∉ header ∧
      header.head? = some ' ' := by
  rw [headLine]
  split
  · refine ⟨" with EquatableMixin ", ?_, by decide, by decide⟩
    rfl
  · refine ⟨" ", ?_, by decide, by decide⟩
    rfl

theorem first?_render (hn : (nameFor c.name o).IsIdentifier) :
    ∃ s, SourceClass.first? (render c o) = some s ∧
    s.name = nameFor c.name o ∧ s.body = '\n' :: (bodyLines c o).flatMap (· ++ ['\n']) := by
  obtain ⟨header, hhead, hbrace, hblank⟩ := exists_header c o
  set body := '\n' :: (bodyLines c o).flatMap (· ++ ['\n'])
  have hrender : render c o = "class ".toList ++ nameFor c.name o ++ (header ++ '\x7b' :: body) := by
    rw [render_eq, hhead, List.append_assoc, List.append_assoc header, List.singleton_append]
  have hat :
      Heading.at? none (render c o) = some ⟨"class ", nameFor c.name o, header ++ '\x7b' :: body⟩ := by
    refine Heading.at?_eq_some_iff.mpr
      ⟨rfl, hrender, ⟨" ", rfl, by decide, List.all_eq_true.mp (by decide)⟩, hn, ?_⟩
    intro d hd
    rw [List.head?_append, hblank] at hd
    obtain rfl : ' ' = d := Option.some.inj hd
    exact isIdentifierPart_of_isBlank (by decide)
  have hne : ∀ d ∈ header, (d != '\x7b') = true := fun d hd => bne_iff_ne.mpr fun e => hbrace (e ▸ hd)
  refine ⟨_, by rw [SourceClass.first?, Heading.find?_of_at? hat, Option.map_some], rfl, ?_⟩
  show ((header ++ '\x7b' :: body).dropWhile (· != '\x7b')).drop 1 = body
  rw [Text.dropWhile_run hne (by simp)]
  rfl

theorem exists_memberLines_append (c : DataClass) (o : Options) :
    ∃ ls, memberLines c o = constructorLines (nameFor c.name o) c.fields ++ ls := by
  simp only [memberLines, List.append_assoc]
  exact ⟨_, rfl⟩

/-- An empty line comes between the fields and the members. -/
theorem exists_memberLines (c : DataClass) (o : Options) : ∃ ls, memberLines c o = [] :: ls := by
  obtain ⟨ls, hls⟩ := exists_memberLines_append c o
  rw [hls, constructorLines]
  split
  · exact ⟨_, rfl⟩
  · exact ⟨_, rfl⟩

theorem bodyLines_isLine (hc : c.WellFormed) (hs : ∀ c ∈ o.suffix, isIdentifierPart c = true) :
    ∀ l ∈ bodyLines c o, l.IsLine := by
  intro l hl
  rcases List.mem_append.mp hl with hl | hl
  · obtain ⟨f, hf, hl⟩ := List.mem_flatMap.mp hl
    rcases List.mem_append.mp hl with hl | hl
    · obtain ⟨d, hd, rfl⟩ := List.mem_map.mp hl
      exact Field.docLine_isLine ((hc.fields f hf).docs d hd)
    · rw [List.mem_singleton.mp hl]
      exact Field.declarationLine_isLine (hc.fields f hf) hs
  · rcases List.mem_append.mp hl with hl | hl
    · exact (memberLines_isMemberLine hc hs l hl).isLine
    · rw [List.mem_singleton.mp hl]
      decide

/-- The comment walk over a written body yields the fields of the class and nothing else. -/
theorem commentedFields_body (hc : c.WellFormed) (hs : ∀ c ∈ o.suffix, isIdentifierPart c = true)
    (hk : ∀ f ∈ c.fields, f.plainType o.suffix ∉ statementWords) :
    commentedFields ('\n' :: (bodyLines c o).flatMap (· ++ ['\n'])) =
      c.fields.map (·.redeclared o.suffix) := by
  obtain ⟨ls, hls⟩ := exists_memberLines c o
  have hmembers : ∀ l ∈ memberLines c o ++ [['\x7d']], DeclaresNoField l := by
    intro l hl
    rcases List.mem_append.mp hl with hl | hl
    · exact (memberLines_isMemberLine hc hs l hl).noField
    · rw [List.mem_singleton.mp hl]
      exact .of_notMem (by decide)
  have hrun : ownCommentRun (memberLines c o ++ [['\x7d']]) = [] := by
    rw [hls, List.cons_append, ownCommentRun]
    rfl
  have hlines : Text.lines ('\n' :: (bodyLines c o).flatMap (· ++ ['\n'])) = [] :: bodyLines c o := by
    rw [Text.lines, Text.lines_flatMap (bodyLines_isLine hc hs)]
  have hempty :
      commentedFieldsAfter [] ([] :: bodyLines c o) = commentedFieldsAfter [] (bodyLines c o) := by
    rw [commentedFieldsAfter]
    rfl
  rw [commentedFields, hlines, hempty, bodyLines, commentedFieldsAfter_fieldLines hc.fields hs hk hrun,
    commentedFieldsAfter_eq_nil hmembers, List.append_nil]

/-! ### The written constructor -/

theorem notMem_flatMap {d : Char} (hd : d ≠ '\n') (h : ∀ l ∈ ls, d ∉ l) :
    d ∉ ls.flatMap (· ++ ['\n']) := by
  intro hm
  obtain ⟨l, hl, hm⟩ := List.mem_flatMap.mp hm
  rcases List.mem_append.mp hm with hm | hm
  · exact h l hl hm
  · exact hd (List.mem_singleton.mp hm)

theorem notMem_parameterLine {f : Field} (h : f.WellFormed) {d : Char} (hd : d = '(' ∨ d = ')') :
    d ∉ f.parameterLine := by
  have hmarks : d ∈ marks ∧ d ∉ "    this.".toList ∧ d ∉ "    required this.".toList ∧
      d ∉ ",".toList := by
    rcases hd with rfl | rfl <;> decide
  obtain ⟨hmark, hplain, hrequired, hcomma⟩ := hmarks
  have hname : d ∉ f.name := h.name.notMem (isIdentifierPart_of_mem_marks hmark)
  rw [Field.parameterLine]
  split
  · exact List.not_mem_append (List.not_mem_append hplain hname) hcomma
  · exact List.not_mem_append (List.not_mem_append hrequired hname) hcomma

/-- The parameter lines require the names of the fields that cannot be null. -/
theorem requiredNames_parameterLines (hfs : ∀ f ∈ fs, f.WellFormed) (t : Text) :
    Constructor.requiredNames (some '\n') ((fs.map Field.parameterLine).flatMap (· ++ ['\n']) ++ t) =
      (fs.filter (!·.nullable)).map (·.name) ++ Constructor.requiredNames (some '\n') t := by
  induction fs with
  | nil => rfl
  | cons f fs ih =>
    have hf := (hfs f List.mem_cons_self).name
    have hrest := ih fun g hg => hfs g (List.mem_cons_of_mem _ hg)
    set rest := (fs.map Field.parameterLine).flatMap (· ++ ['\n']) ++ t
    have happend :
        ((f :: fs).map Field.parameterLine).flatMap (· ++ ['\n']) ++ t =
          f.parameterLine ++ '\n' :: rest := by
      rw [List.map_cons, List.flatMap_cons, List.append_assoc, List.append_assoc, List.singleton_append]
    have hblank : (some ' ').any isWord = false := by
      rw [Option.any_some]
      exact isWord_of_isBlank (by decide)
    have hblanks : ∀ u, Constructor.requiredNames (some '\n') (' ' :: ' ' :: ' ' :: ' ' :: u) =
        Constructor.requiredNames (some ' ') u := by
      intro u
      iterate 4 rw [Constructor.requiredNames_skip_char (by decide)]
    rw [happend]
    cases hnull : f.nullable with
    | true =>
      have hline : f.parameterLine ++ '\n' :: rest =
          ' ' :: ' ' :: ' ' :: ' ' :: ("this.".toList ++ f.name ++ ',' :: '\n' :: rest) := by
        rw [Field.parameterLine, if_pos hnull, List.append_assoc, List.append_assoc, List.append_assoc]
        rfl
      have hplain : ∀ d ∈ "this.".toList ++ f.name, isBlank d = false :=
        List.forall_mem_append.mpr
          ⟨isBlank_of_all (by decide), fun d hd => isBlank_of_isIdentifierPart (hf.2 d hd)⟩
      rw [hline, hblanks, Constructor.requiredNames_skip hplain,
        Constructor.requiredNames_skip_char (by decide), hrest,
        List.filter_cons_of_neg (by simp [hnull])]
    | false =>
      have hline : f.parameterLine ++ '\n' :: rest =
          ' ' :: ' ' :: ' ' :: ' ' :: ("required this.".toList ++ f.name ++ ',' :: '\n' :: rest) := by
        rw [Field.parameterLine, if_neg (by rw [hnull]; exact Bool.false_ne_true), List.append_assoc,
          List.append_assoc, List.append_assoc]
        rfl
      have hstop : ∀ d ∈ (',' :: '\n' :: rest).head?, isIdentifierPart d = false := by
        intro d hd
        obtain rfl : ',' = d := Option.some.inj hd
        exact isIdentifierPart_of_mem_marks (by decide)
      rw [hline, hblanks,
        Constructor.requiredNames_of_some (Constructor.requiredAt?_eq_some hblank hf hstop),
        Constructor.requiredNames_skip_char (by decide),
        Constructor.requiredNames_skip_char (by decide), hrest,
        List.filter_cons_of_pos (by simp [hnull])]
      rfl

/-- What stands between the parentheses of the constructor. -/
def parameters (fs : List Field) : Text :=
  "\x7b\n".toList ++ ((fs.map Field.parameterLine).flatMap (· ++ ['\n']) ++ "  \x7d".toList)

theorem notMem_parameters (hfs : ∀ f ∈ fs, f.WellFormed) {d : Char} (hd : d = '(' ∨ d = ')') :
    d ∉ parameters fs := by
  have hmarks : d ≠ '\n' ∧ d ∉ "\x7b\n".toList ∧ d ∉ "  \x7d".toList := by
    rcases hd with rfl | rfl <;> decide
  obtain ⟨hnewline, hopen, hclose⟩ := hmarks
  refine List.not_mem_append hopen (List.not_mem_append (notMem_flatMap hnewline ?_) hclose)
  exact List.forall_mem_map.mpr fun f hf => notMem_parameterLine (hfs f hf) hd

theorem requiredNames_parameters (hfs : ∀ f ∈ fs, f.WellFormed) :
    Constructor.requiredNames none (parameters fs) = (fs.filter (!·.nullable)).map (·.name) := by
  have hopen :
      ∀ u, Constructor.requiredNames none ("\x7b\n".toList ++ u) =
        Constructor.requiredNames (some '\n') u := by
    intro u
    show Constructor.requiredNames none ('\x7b' :: '\n' :: u) = _
    rw [Constructor.requiredNames_skip_char (by decide),
      Constructor.requiredNames_skip_char (by decide)]
  have hclose : Constructor.requiredNames (some '\n') "  \x7d".toList = [] := by
    show Constructor.requiredNames (some '\n') [' ', ' ', '\x7d'] = _
    iterate 3 rw [Constructor.requiredNames_skip_char (by decide)]
    exact Constructor.requiredNames_nil
  rw [parameters, hopen, requiredNames_parameterLines hfs, hclose, List.append_nil]

theorem constructorLines_flatMap {name : Text} (hne : fs ≠ []) :
    (constructorLines name fs).flatMap (· ++ ['\n']) =
    "\n  const ".toList ++ (name ++ '(' :: (parameters fs ++ ')' :: ";\n".toList)) := by
  rw [constructorLines, if_neg (by simpa using hne), between, List.flatMap_append,
    List.flatMap_append, parameters]
  show ['\n'] ++ ("  const ".toList ++ name ++ "(\x7b".toList ++ ['\n'] ++ []) ++ _ ++ _ = _
  simp only [List.append_assoc]
  rfl

/-- The body from its first parenthesis on: the written constructor, behind the fields. -/
theorem exists_body (hne : c.fields ≠ []) : ∃ tail, '\n' :: (bodyLines c o).flatMap (· ++ ['\n']) =
    ('\n' :: ((fieldLines o.suffix c.fields).flatMap (· ++ ['\n']) ++ "\n  const ".toList)) ++
      nameFor c.name o ++ '(' :: (parameters c.fields ++ ')' :: tail) := by
  obtain ⟨ls, hls⟩ := exists_memberLines_append c o
  refine ⟨";\n".toList ++ (ls ++ [['\x7d']]).flatMap (· ++ ['\n']), ?_⟩
  rw [bodyLines, hls, List.append_assoc, List.flatMap_append, List.flatMap_append,
    constructorLines_flatMap hne]
  simp only [List.append_assoc, List.cons_append]

theorem find?_body (hc : c.WellFormed) (hs : ∀ c ∈ o.suffix, isIdentifierPart c = true)
    (hp : ∀ f ∈ c.fields, '(' ∉ f.type ∧ ∀ d ∈ f.docs, '(' ∉ d) :
    Constructor.find? ('\n' :: (bodyLines c o).flatMap (· ++ ['\n'])) (nameFor c.name o) =
      some ⟨(c.fields.filter (!·.nullable)).map (·.name)⟩ := by
  obtain ⟨tail, htail⟩ := exists_body (o := o) hc.fields_ne
  have hfields : '(' ∉ (fieldLines o.suffix c.fields).flatMap (· ++ ['\n']) := by
    refine notMem_flatMap (by decide) fun l hl => ?_
    obtain ⟨f, hf, hl⟩ := List.mem_flatMap.mp hl
    rcases List.mem_append.mp hl with hl | hl
    · obtain ⟨d, hd, rfl⟩ := List.mem_map.mp hl
      exact List.not_mem_append (by decide) ((hp f hf).2 d hd)
    · rw [List.mem_singleton.mp hl]
      have htype :=
        Field.notMem_generatedType (mark_notMem_suffix hs (by decide)) (by decide) (hp f hf).1
      have hname : '(' ∉ f.name :=
        (hc.fields f hf).name.notMem (isIdentifierPart_of_mem_marks (by decide))
      exact List.not_mem_append
        (List.not_mem_append (List.not_mem_append (List.not_mem_append (by decide) htype) (by decide))
        hname) (by decide)
  have hpre :
      '(' ∉ '\n' :: ((fieldLines o.suffix c.fields).flatMap (· ++ ['\n']) ++ "\n  const ".toList) := by
    rw [List.mem_cons, not_or]
    exact ⟨by decide, List.not_mem_append hfields (by decide)⟩
  have hbefore : (Text.lastOr none
      ('\n' :: ((fieldLines o.suffix c.fields).flatMap (· ++ ['\n']) ++ "\n  const ".toList))).any
        Constructor.joinsName = false := by
    have hlast : ∀ b, Text.lastOr b "\n  const " = some ' ' := fun _ => rfl
    rw [Text.lastOr_cons, Text.lastOr_append, hlast, Option.any_some, Constructor.joinsName,
      isIdentifierPart_of_isBlank (by decide), Bool.false_or]
    decide
  rw [htail, Constructor.find?,
    Constructor.firstCall?_append (nameFor_isIdentifier hc hs) hpre hbefore, Option.map_some,
    Constructor.upToClose_append (notMem_parameters hc.fields (.inl rfl))
      (notMem_parameters hc.fields (.inr rfl)),
    requiredNames_parameters hc.fields]

/-! ### Reading back what a run writes -/

theorem splitMark_generatedType {f : Field} (h : f.WellFormed)
    (hs : ∀ c ∈ o.suffix, isIdentifierPart c = true) :
    Declaration.splitMark (f.generatedType o.suffix) = (f.plainType o.suffix, f.isMarked o.suffix) := by
  rw [Field.generatedType_eq]
  exact Declaration.splitMark_of_ne (h.plainType_isType hs).getLast?_ne_mark _

theorem requires_iff {k : Constructor} (hk : k.required = (fs.filter (!·.nullable)).map (·.name))
    (hnodup : (fs.map (·.name)).Nodup) : ∀ f ∈ fs, k.requires f.name = !f.nullable := by
  intro f hf
  rw [Constructor.requires, hk, Bool.eq_iff_iff, List.contains_iff_mem, List.mem_map]
  constructor
  · rintro ⟨e, he, hname⟩
    obtain ⟨he, hnull⟩ := List.mem_filter.mp he
    obtain rfl : e = f := List.inj_on_of_nodup_map hnodup he hf hname
    exact hnull
  · exact fun hnull => ⟨f, List.mem_filter.mpr ⟨hf, hnull⟩, rfl⟩

/-- The class that is written for a generated class is read back: under its name, with its fields in
their order and their documentation, and, where names and parentheses tell the constructor apart,
with its required parameters. -/
theorem read_back {t : Text} {g : Generation} (h : generate t o = .ok g)
    (hs : isIdentifierTail o.suffix = true) (hc : c ∈ g.classes)
    (hk : ∀ f ∈ c.fields, (Declaration.splitMark (f.generatedType o.suffix)).1 ∉ statementWords) :
    ∃ s, SourceClass.locate .single (render c o) = [s] ∧ s.name = nameFor c.name o ∧
      List.Forall₂ (fun d f => DeclaredField.Restates d f o.suffix)
        (s.declaredFields .directiveAware) c.fields ∧
      ((c.fields.map (·.name)).Nodup → (∀ f ∈ c.fields, '(' ∉ f.type ∧ ∀ d ∈ f.docs, '(' ∉ d) →
        ∃ k, Constructor.find? s.body (nameFor c.name o) = some k ∧
          ∀ f ∈ c.fields, k.requires f.name = !f.nullable) := by
  have hwell := Generation.classes_wellFormed h c hc
  have hpart := isIdentifierPart_of_isIdentifierTail hs
  obtain ⟨s, hfirst, hname, hbody⟩ := first?_render (nameFor_isIdentifier hwell hpart)
  have hplain : ∀ f ∈ c.fields, f.plainType o.suffix ∉ statementWords := by
    intro f hf
    have := hk f hf
    rwa [splitMark_generatedType (hwell.fields f hf) hpart] at this
  refine ⟨s, ?_, hname, ?_, ?_⟩
  · rw [SourceClass.locate, hfirst]
    rfl
  · have hfields : s.declaredFields .directiveAware = c.fields.map (·.redeclared o.suffix) := by
      show commentedFields s.body = _
      rw [hbody, commentedFields_body hwell hpart hplain]
    rw [hfields, List.forall₂_map_left_iff, List.forall₂_same]
    exact fun f _ => f.restates_redeclared o.suffix
  · intro hnodup hparens
    refine ⟨_, ?_, requires_iff rfl hnodup⟩
    rw [hbody]
    exact find?_body hwell hpart hparens

/-- A class with a constructor, a documented field and one that can be null. -/
def point : Text :=
  "class Point \x7b\n  Point(\x7brequired this.x, this.next\x7d);\n  // From the left.\n".toList ++
    "  final int x;\n  final Point? next;\n\x7d\n".toList

theorem read_back_point : ∃ g, generate point {} = .ok g ∧ g.classes ≠ [] ∧ ∀ c ∈ g.classes, ∃ s k,
    SourceClass.locate .single (render c {}) = [s] ∧ s.name = nameFor c.name {} ∧
      (s.declaredFields .directiveAware).length = c.fields.length ∧
      Constructor.find? s.body s.name = some k ∧ ∀ f ∈ c.fields, k.requires f.name = !f.nullable := by
  obtain ⟨g, hg, hcheck⟩ := exists_generation_of_any (t := point) (o := {})
    (p := fun g : Generation => decide (g.classes ≠ [] ∧ ∀ c ∈ g.classes,
      (∀ f ∈ c.fields,
        (Declaration.splitMark (f.generatedType ({} : Options).suffix)).1 ∉ statementWords) ∧
      (c.fields.map Field.name).Nodup ∧ ∀ f ∈ c.fields, '(' ∉ f.type ∧ ∀ d ∈ f.docs, '(' ∉ d))
    (by decide +kernel)
  obtain ⟨hne, hall⟩ := of_decide_eq_true hcheck
  refine ⟨g, hg, hne, fun c hc => ?_⟩
  obtain ⟨hk, hnodup, hparens⟩ := hall c hc
  obtain ⟨s, hlocate, hname, hfields, hconstructor⟩ := read_back hg (by decide) hc hk
  obtain ⟨k, hfind, hrequires⟩ := hconstructor hnodup hparens
  exact ⟨s, k, hlocate, hname, hfields.length_eq, by rwa [hname], hrequires⟩

end TransferClass

end DartTransfer

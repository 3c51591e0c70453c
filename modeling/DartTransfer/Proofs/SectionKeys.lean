import DartTransfer.Proofs.LineHeads
import DartTransfer.Proofs.LineStarts
import DartTransfer.Proofs.SectionLines

/-!
# The sections of a class agree

A class is its lines up to each section, the section, and what follows, and no line ahead of a section is taken for
its heading. So `fromMap`, `toMap`, `toString` and the equality are read as lists of the same fields, and what
`toMap` writes under a key is what `fromMap` reads (`Generation.sections_agree`).
-/

namespace DartTransfer

open Section

/-! ### Lines up to a section -/

namespace TransferClass
variable {c : DataClass} {o : Options}

section
variable (c : DataClass) (o : Options)

/-- The lines ahead of `fromMap`. -/
def linesToFromMap : List Text :=
  headLine c o :: (fieldLines o.suffix c.fields ++ constructorLines (nameFor c.name o) c.fields)

/-- The lines ahead of `toMap`. -/
def linesToToMap : List Text :=
  linesToFromMap c o ++ (fromMapLines (nameFor c.name o) o.suffix c.fields ++ (fromJsonLines (nameFor c.name o) ++
    (if o.copyWith then copyWithLines (nameFor c.name o) o.suffix c.fields else [])))

/-- The lines ahead of `toString`. -/
def linesToToString : List Text := linesToToMap c o ++ (toMapLines c.fields ++ toJsonLines)

/-- The lines ahead of the equality. -/
def linesToEquality : List Text := linesToToString c o ++ toStringLines (nameFor c.name o) c.fields

theorem lines_eq : lines c o = linesToEquality c o ++ (equalityLines c o ++ ["\x7d".toList]) := by
  show [headLine c o] ++ (fieldLines o.suffix c.fields ++ memberLines c o) ++ ["\x7d".toList] = _
  simp only [linesToEquality, linesToToString, linesToToMap, linesToFromMap, memberLines, List.append_assoc,
    List.cons_append, List.nil_append]

end

theorem newline_notMem_nameFor (hc : c.WellFormed) (hs : '\n' ∉ o.suffix) : '\n' ∉ nameFor c.name o :=
  List.not_mem_append hc.name.newline_notMem hs

/-! What the lines ahead of each section start with. -/

def startsToFromMap : List Text := ["class ", "  /// ", "  final ", "  const ", "    ", "  \x7d"]

def startsToToMap : List Text := "  factory ".toList :: startsToFromMap

def startsToToString : List Text := "  Map".toList :: "  String toJson".toList :: startsToToMap

def startsToEquality : List Text := "  @override".toList :: "  String toString".toList :: startsToToString

theorem linesToFromMap_isLineOf (hc : c.WellFormed) (hs : '\n' ∉ o.suffix) :
    ∀ l ∈ linesToFromMap c o, IsLineOf startsToFromMap l := by
  have hn := newline_notMem_nameFor hc hs
  refine List.forall_mem_cons.mpr ⟨.start ?_, List.forall_mem_append.mpr ⟨fun l hl => ?_, fun l hl => ?_⟩⟩
  · rw [headLine]
    split
    · exact .append (.append (by decide) hn) (by decide)
    · exact .append (.append (by decide) hn) (by decide)
  · exact (fieldLines_isLineOf hc.fields hs l hl).mono (by decide)
  · exact (constructorLines_isLineOf hn hc.fields l hl).mono (by decide)

theorem linesToToMap_isLineOf (hc : c.WellFormed) (hs : '\n' ∉ o.suffix) :
    ∀ l ∈ linesToToMap c o, IsLineOf startsToToMap l := by
  have hn := newline_notMem_nameFor hc hs
  refine List.forall_mem_append.mpr ⟨fun l hl => ?_, List.forall_mem_append.mpr ⟨fun l hl => ?_,
    List.forall_mem_append.mpr ⟨fun l hl => ?_, fun l hl => ?_⟩⟩⟩
  · exact (linesToFromMap_isLineOf hc hs l hl).mono (by decide)
  · exact (fromMapLines_isLineOf hn hc.fields hs l hl).mono (by decide)
  · exact (fromJsonLines_isLineOf hn l hl).mono (by decide)
  · split at hl
    · exact (copyWithLines_isLineOf hn hc.fields hc.fields_ne hs l hl).mono (by decide)
    · exact absurd hl List.not_mem_nil

theorem linesToToString_isLineOf (hc : c.WellFormed) (hs : '\n' ∉ o.suffix) :
    ∀ l ∈ linesToToString c o, IsLineOf startsToToString l := by
  refine List.forall_mem_append.mpr ⟨fun l hl => ?_, List.forall_mem_append.mpr ⟨fun l hl => ?_, fun l hl => ?_⟩⟩
  · exact (linesToToMap_isLineOf hc hs l hl).mono (by decide)
  · exact (toMapLines_isLineOf hc.fields l hl).mono (by decide)
  · exact (toJsonLines_isLineOf l hl).mono (by decide)

theorem linesToEquality_isLineOf (hc : c.WellFormed) (hs : '\n' ∉ o.suffix) :
    ∀ l ∈ linesToEquality c o, IsLineOf startsToEquality l := by
  refine List.forall_mem_append.mpr ⟨fun l hl => ?_, fun l hl => ?_⟩
  · exact (linesToToString_isLineOf hc hs l hl).mono (by decide)
  · exact (toStringLines_isLineOf (newline_notMem_nameFor hc hs) hc.fields l hl).mono (by decide)

theorem newline_notMem_equalityLines (hc : c.WellFormed) (hs : '\n' ∉ o.suffix) :
    ∀ l ∈ equalityLines c o, '\n' ∉ l := by
  have hn := newline_notMem_nameFor hc hs
  rw [equalityLines]
  split
  · exact fun l hl => (propsLines_isLineOf hc.fields l hl).newline_notMem
  · split
    · exact List.forall_mem_append.mpr ⟨fun l hl => (equalsLines_isLineOf hn hc.fields l hl).newline_notMem,
        fun l hl => (hashCodeLines_isLineOf hc.fields l hl).newline_notMem⟩
    · exact fun l hl => absurd hl List.not_mem_nil

theorem splitOn_render (hc : c.WellFormed) (hs : '\n' ∉ o.suffix) :
    Text.splitOn '\n' (render c o) = linesToEquality c o ++ (equalityLines c o ++ ["\x7d".toList, []]) := by
  have hlines : ∀ l ∈ lines c o, '\n' ∉ l := by
    rw [lines_eq]
    exact List.forall_mem_append.mpr ⟨fun l hl => (linesToEquality_isLineOf hc hs l hl).newline_notMem,
      List.forall_mem_append.mpr ⟨newline_notMem_equalityLines hc hs, by decide⟩⟩
  rw [render, Text.splitOn_flatMap hlines, lines_eq, List.append_assoc, List.append_assoc]
  rfl

theorem return_ne_memberEnd (t stop : Text) : "    return ".toList ++ t ++ stop ≠ memberEnd := by
  refine ne_of_apply_ne (List.take 4) ?_
  show "    ".toList ≠ _
  decide

theorem arguments_render (hc : c.WellFormed) (hs : '\n' ∉ o.suffix) :
    arguments (nameFor c.name o) (render c o) = some (c.fields.map fun f => (f.name, f.decodeExpr o.suffix)) := by
  obtain ⟨after, hsplit⟩ : ∃ after, Text.splitOn '\n' (render c o) = (linesToFromMap c o ++ [[]]) ++
      fromMapHeading (nameFor c.name o) :: (("    return ".toList ++ nameFor c.name o ++ "(".toList) ::
        (c.fields.map (·.decodeLine o.suffix) ++ ["    );".toList]) ++ memberEnd :: after) := by
    rw [splitOn_render hc hs]
    simp only [linesToEquality, linesToToString, linesToToMap, fromMapLines, between, List.append_assoc,
      List.cons_append, List.nil_append]
    exact ⟨_, rfl⟩
  have hbefore : ∀ l ∈ linesToFromMap c o ++ [[]], l ≠ fromMapHeading (nameFor c.name o) := by
    intro l hl
    have hline := IsLineOf.append_empty (linesToFromMap_isLineOf hc hs) l hl
    have hstart : "  factory ".toList <+: fromMapHeading (nameFor c.name o) :=
      List.prefix_append_of_prefix (List.prefix_append _ _)
    exact hline.ne hstart (List.suffix_append _ _) (by decide) (by decide) (by decide)
  have hread : ∀ f ∈ c.fields, argument? (f.decodeLine o.suffix) = some (f.name, f.decodeExpr o.suffix) :=
    fun f hf => Field.argument?_decodeLine (hc.fields f hf).name
  have hinner : ∀ l ∈ ("    return ".toList ++ nameFor c.name o ++ "(".toList) ::
      (c.fields.map (·.decodeLine o.suffix) ++ ["    );".toList]), l ≠ memberEnd := by
    refine List.forall_mem_cons.mpr ⟨return_ne_memberEnd _ _, List.forall_mem_append.mpr
      ⟨List.forall_mem_map.mpr fun f hf => ne_of_read rfl (hread f hf), by decide⟩⟩
  rw [arguments, hsplit, body_eq hbefore hinner, enclosed?_eq, Option.bind_some]
  exact mapM_map_of_some hread

theorem entries_render (hc : c.WellFormed) (hs : '\n' ∉ o.suffix)
    (hkeys : ∀ f ∈ c.fields, '\'' ∉ f.key) :
    entries (render c o) = some (c.fields.map fun f => (f.key, f.encodeExpr)) := by
  obtain ⟨after, hsplit⟩ : ∃ after, Text.splitOn '\n' (render c o) = (linesToToMap c o ++ [[]]) ++
      toMapHeading :: ("    return \x7b".toList :: (c.fields.map Field.entryLine ++ ["    \x7d;".toList]) ++
        memberEnd :: after) := by
    rw [splitOn_render hc hs]
    simp only [linesToEquality, linesToToString, toMapLines, between, List.append_assoc,
      List.cons_append, List.nil_append]
    exact ⟨_, rfl⟩
  have hbefore : ∀ l ∈ linesToToMap c o ++ [[]], l ≠ toMapHeading := by
    intro l hl
    have hline := IsLineOf.append_empty (linesToToMap_isLineOf hc hs) l hl
    exact hline.ne (List.prefix_refl _) (List.suffix_refl _) (by decide) (by decide) (by decide)
  have hread : ∀ f ∈ c.fields, written? f.entryLine = some (f.key, f.encodeExpr) :=
    fun f hf => Field.written?_entryLine (hkeys f hf)
  have hinner : ∀ l ∈ "    return \x7b".toList :: (c.fields.map Field.entryLine ++ ["    \x7d;".toList]),
      l ≠ memberEnd := by
    refine List.forall_mem_cons.mpr ⟨by decide, List.forall_mem_append.mpr
      ⟨List.forall_mem_map.mpr fun f hf => ne_of_read rfl (hread f hf), by decide⟩⟩
  rw [entries, hsplit, body_eq hbefore hinner, enclosed?_eq, Option.bind_some]
  exact mapM_map_of_some hread

theorem shownNames_render (hc : c.WellFormed) (hs : '\n' ∉ o.suffix) :
    shownNames (nameFor c.name o) (render c o) = some (c.fields.map (·.name)) := by
  obtain ⟨after, hsplit⟩ : ∃ after, Text.splitOn '\n' (render c o) =
      (linesToToString c o ++ [[], "  @override".toList]) ++
      ("  String toString() => '".toList ++ nameFor c.name o ++ "(".toList ++
        Text.joinWith ", " (c.fields.map Field.interpolation) ++ ")';".toList) :: after := by
    rw [splitOn_render hc hs]
    simp only [linesToEquality, toStringLines, List.append_assoc, List.cons_append, List.nil_append]
    exact ⟨_, rfl⟩
  have hbefore : ∀ l ∈ linesToToString c o ++ [[], "  @override".toList], ∀ m,
      l ≠ "  String toString() => '".toList ++ nameFor c.name o ++ "(".toList ++ m ++ ")';".toList := by
    intro l hl m
    have hline : IsLineOf ("  @override".toList :: startsToToString) l :=
      IsLineOf.append_override (fun l hl => (linesToToString_isLineOf hc hs l hl).mono (by decide)) (by decide)
        l hl
    have hstart : "  String toString() => '".toList <+:
        "  String toString() => '".toList ++ nameFor c.name o ++ "(".toList ++ m ++ ")';".toList := by
      simp only [List.append_assoc]
      exact List.prefix_append _ _
    exact hline.ne hstart (List.suffix_append _ _) (by decide) (by decide) (by decide)
  have hlisted :
      listed (Text.joinWith ", " (c.fields.map Field.interpolation)) = c.fields.map Field.interpolation :=
    listed_joinWith (by simpa using hc.fields_ne) (List.forall_mem_map.mpr fun f hf =>
      ⟨Field.notMem_interpolation (by decide) (hc.fields f hf).name.comma_notMem,
        Field.trimStart_interpolation (hc.fields f hf).name⟩)
  rw [shownNames, hsplit, findSome?_framed hbefore, Option.bind_some, hlisted]
  exact mapM_map_of_some fun f hf => Field.shown?_interpolation (hc.fields f hf).name

theorem propNames_render (hc : c.WellFormed) (hs : '\n' ∉ o.suffix)
    (hmixin : usesMixin c o = true) : propNames (render c o) = some (c.fields.map (·.name)) := by
  obtain ⟨after, hsplit⟩ : ∃ after, Text.splitOn '\n' (render c o) =
      (linesToEquality c o ++ [[], "  @override".toList]) ++
      ("  List<Object?> get props => [".toList ++ Text.joinWith ", " (c.fields.map (·.name)) ++ "];".toList) ::
        after := by
    rw [splitOn_render hc hs, equalityLines, if_pos hmixin]
    simp only [propsLines, List.append_assoc, List.cons_append, List.nil_append]
    exact ⟨_, rfl⟩
  have hbefore : ∀ l ∈ linesToEquality c o ++ [[], "  @override".toList], ∀ m,
      l ≠ "  List<Object?> get props => [".toList ++ m ++ "];".toList := by
    intro l hl m
    have hline := IsLineOf.append_override (linesToEquality_isLineOf hc hs) (by decide) l hl
    have hstart : "  List<Object?> get props => [".toList <+:
        "  List<Object?> get props => [".toList ++ m ++ "];".toList :=
      List.prefix_append_of_prefix (List.prefix_append _ _)
    exact hline.ne hstart (List.suffix_append _ _) (by decide) (by decide) (by decide)
  have hlisted : listed (Text.joinWith ", " (c.fields.map (·.name))) = c.fields.map (·.name) :=
    listed_joinWith (by simpa using hc.fields_ne) (List.forall_mem_map.mpr fun f hf =>
      ⟨(hc.fields f hf).name.comma_notMem, (hc.fields f hf).name.trimStart_eq⟩)
  rw [propNames, hsplit, findSome?_framed hbefore, Option.map_some, hlisted]

/-- The comparisons stand below the test of the type, if there are any. -/
theorem endLines_comparisons (name : Text) (hne : c.fields ≠ []) :
    endLines " &&" ";" (("    return other is ".toList ++ name) :: c.fields.map Field.comparison) =
      ("    return ".toList ++ ("other is ".toList ++ name) ++ " &&".toList) ::
        endLines " &&" ";" (c.fields.map Field.comparison) := by
  obtain ⟨f, fs, hfs⟩ := List.exists_cons_of_ne_nil hne
  rw [hfs]
  rfl

theorem comparedNames_render (hc : c.WellFormed) (hs : '\n' ∉ o.suffix) (hmixin : usesMixin c o = false)
    (heq : o.equality = true) : comparedNames (render c o) = some (c.fields.map (·.name)) := by
  obtain ⟨after, hsplit⟩ : ∃ after, Text.splitOn '\n' (render c o) =
      (linesToEquality c o ++ [[], "  @override".toList]) ++
      equalsHeading :: ("    if (identical(this, other)) return true;".toList :: [] ::
        ("    return ".toList ++ ("other is ".toList ++ nameFor c.name o) ++ " &&".toList) ::
          endLines " &&" ";" (c.fields.map Field.comparison) ++ memberEnd :: after) := by
    rw [splitOn_render hc hs, equalityLines, if_neg (Bool.eq_false_iff.mp hmixin), if_pos heq]
    simp only [equalsLines, between, endLines_comparisons _ hc.fields_ne, List.append_assoc, List.cons_append,
      List.nil_append]
    exact ⟨_, rfl⟩
  have hbefore : ∀ l ∈ linesToEquality c o ++ [[], "  @override".toList], l ≠ equalsHeading := by
    intro l hl
    have hline := IsLineOf.append_override (linesToEquality_isLineOf hc hs) (by decide) l hl
    exact hline.ne (List.prefix_refl _) (List.suffix_refl _) (by decide) (by decide) (by decide)
  have hread : ∀ f ∈ c.fields, compared? (f.comparison ++ " &&".toList) = some f.name ∧
      compared? (f.comparison ++ ";".toList) = some f.name :=
    fun f hf => Field.compared?_comparison (hc.fields f hf).name
  have hinner : ∀ l ∈ "    if (identical(this, other)) return true;".toList :: [] ::
      ("    return ".toList ++ ("other is ".toList ++ nameFor c.name o) ++ " &&".toList) ::
        endLines " &&" ";" (c.fields.map Field.comparison), l ≠ memberEnd := by
    refine List.forall_mem_cons.mpr ⟨by decide, List.forall_mem_cons.mpr ⟨by decide, List.forall_mem_cons.mpr
      ⟨return_ne_memberEnd _ _, forall_mem_endLines (List.forall_mem_map.mpr fun f hf => ?_)⟩⟩⟩
    exact ⟨ne_of_read rfl (hread f hf).1, ne_of_read rfl (hread f hf).2⟩
  rw [comparedNames, hsplit, body_eq hbefore hinner]
  exact mapM_endLines hread

theorem hashedNames_render (hc : c.WellFormed) (hs : '\n' ∉ o.suffix)
    (hmixin : usesMixin c o = false) (heq : o.equality = true) :
    hashedNames (render c o) = some (c.fields.map (·.name)) := by
  obtain ⟨after, hsplit⟩ : ∃ after, Text.splitOn '\n' (render c o) =
      (linesToEquality c o ++ equalsLines (nameFor c.name o) c.fields ++ [[], "  @override".toList]) ++
      hashCodeHeading :: (c.fields.map Field.hashLine ++ hashCodeEnd :: after) := by
    rw [splitOn_render hc hs, equalityLines, if_neg (Bool.eq_false_iff.mp hmixin), if_pos heq]
    simp only [hashCodeLines, between, List.append_assoc, List.cons_append, List.nil_append]
    exact ⟨_, rfl⟩
  have hbefore : ∀ l ∈
      linesToEquality c o ++ equalsLines (nameFor c.name o) c.fields ++ [[], "  @override".toList],
      l ≠ hashCodeHeading := by
    intro l hl
    have hline : IsLineOf ("  bool".toList :: startsToEquality) l := by
      refine IsLineOf.append_override (List.forall_mem_append.mpr ⟨fun l hl => ?_, fun l hl => ?_⟩) (by decide)
        l hl
      · exact (linesToEquality_isLineOf hc hs l hl).mono (by decide)
      · exact (equalsLines_isLineOf (newline_notMem_nameFor hc hs) hc.fields l hl).mono (by decide)
    exact hline.ne (List.prefix_refl _) (List.suffix_refl _) (by decide) (by decide) (by decide)
  have hread : ∀ f ∈ c.fields, hashed? f.hashLine = some f.name :=
    fun f hf => Field.hashed?_hashLine (hc.fields f hf).name
  rw [hashedNames, hsplit, body_eq hbefore (List.forall_mem_map.mpr fun f hf => ne_of_read rfl (hread f hf))]
  exact mapM_map_of_some hread

/-- The sections of the text that is written for a class hold its fields in one order and under one key each. -/
structure SectionsAgree (c : DataClass) (o : Options) : Prop where
  /-- Each argument is that of a field and reads no other key. -/
  arguments : ∃ args ∈ arguments (nameFor c.name o) (render c o),
    List.Forall₂ (fun f a => a.1 = f.name ∧ keysRead a.2 ≠ [] ∧ ∀ k ∈ keysRead a.2, k = f.key) c.fields args
  entries : (entries (render c o)).map (·.map (·.1)) = some (c.fields.map (·.key))
  shown : shownNames (nameFor c.name o) (render c o) = some (c.fields.map (·.name))
  equality : o.equality = true →
    if usesMixin c o then propNames (render c o) = some (c.fields.map (·.name))
    else comparedNames (render c o) = some (c.fields.map (·.name)) ∧
      hashedNames (render c o) = some (c.fields.map (·.name))

instance (c : DataClass) (o : Options) : Decidable (SectionsAgree c o) :=
  decidable_of_iff (_ ∧ _ ∧ _ ∧ _) ⟨fun h => ⟨h.1, h.2.1, h.2.2.1, h.2.2.2⟩, fun h => ⟨h.1, h.2, h.3, h.4⟩⟩

end TransferClass

namespace Generation
open TransferClass

/-- The sections of each class agree under all options, if neither a type nor the suffix has a quote, and the
suffix ends no line. -/
theorem sections_agree {t : Text} {o : Options} {g : Generation} (h : generate t o = .ok g) {c : DataClass}
    (hc : c ∈ g.classes) (htemplates : ∀ f ∈ c.fields, f.templates.isEmpty = true)
    (htypes : ∀ f ∈ c.fields, Quoteless f.type) {o' : Options} (hnewline : '\n' ∉ o'.suffix)
    (hquotes : Quoteless o'.suffix) : SectionsAgree c o' := by
  have hwf := classes_wellFormed h c hc
  constructor
  case arguments =>
    refine ⟨_, arguments_render hwf hnewline, ?_⟩
    rw [List.forall₂_map_right_iff, List.forall₂_same]
    intro f hf
    rw [Field.keysRead_decodeExpr (hasPlainKey h hc hf) (hwf.fields f hf).name (htemplates f hf) (htypes f hf)
      hquotes]
    split <;> simp
  case entries =>
    rw [entries_render hwf hnewline fun f hf => (hasPlainKey h hc hf).quoteless.1, Option.map_some, List.map_map]
    rfl
  case shown => exact shownNames_render hwf hnewline
  case equality =>
    intro heq
    split
    · next hmixin => exact propNames_render hwf hnewline hmixin
    · next hmixin =>
      have hmixin := Bool.eq_false_iff.mpr hmixin
      exact ⟨comparedNames_render hwf hnewline hmixin heq, hashedNames_render hwf hnewline hmixin heq⟩

theorem sections_agree_bareField :
    ∃ g, generate bareField {} = .ok g ∧ ∃ c ∈ g.classes, SectionsAgree c { suffix := "Vm" } := by
  obtain ⟨g, hg, hclasses⟩ := exists_generation_of_any (t := bareField) (o := {})
    (p := fun g => g.classes.any fun c => c.fields.all fun f =>
      f.templates.isEmpty && decide (Quoteless f.type)) (by decide +kernel)
  obtain ⟨c, hc, hfields⟩ := List.any_eq_true.mp hclasses
  have hfield {f : Field} (hf : f ∈ c.fields) := Bool.and_eq_true_iff.mp (List.all_eq_true.mp hfields f hf)
  exact ⟨g, hg, c, hc, sections_agree hg hc (fun f hf => (hfield hf).1)
    (fun f hf => of_decide_eq_true (hfield hf).2) (by decide) (by decide)⟩

/-- A suffix can read a key of its own, with quotes of either kind, or put lines of its own into a section. -/
theorem sections_disagree_bareField :
    ∃ g ∈ (generate bareField {}).toOption, ∃ c ∈ g.classes,
      (∀ f ∈ c.fields, f.templates.isEmpty = true ∧ Quoteless f.type) ∧
      ¬ SectionsAgree c { suffix := "(map['z'])" } ∧ ¬ SectionsAgree c { suffix := "(map[\"z\"])" } ∧
      ¬ SectionsAgree c { suffix := "\n      z: 0," } := by
  decide +kernel

end Generation

end DartTransfer

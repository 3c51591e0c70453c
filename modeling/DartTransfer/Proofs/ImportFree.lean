import DartTransfer.Proofs.LineHeads
import DartTransfer.Proofs.ReadBack

/-!
# No line of a transfer class is an import

A line without a semicolon is none, and neither is a line whose first word has a character that is
not in `import` (`IsNoImport.of_word`). All lines that are written for a class are of these kinds, so
a class whose name stays one word has no import among its lines (`TransferClass.not_hasLine_render`).
-/

namespace DartTransfer

/-- A line that is no import, for want of its semicolon or of its first characters. -/
def IsNoImport (l : Text) : Prop := ';' ∉ l ∨ ¬ "import '".toList <+: l.trimStart

instance (l : Text) : Decidable (IsNoImport l) := inferInstanceAs (Decidable (_ ∨ _))

namespace IsNoImport

theorem of_word {b u : Text} {c : Char} (hb : b.all isBlank = true) (hu : u.all (!isBlank ·) = true)
    (hc : isBlank c = false) (himport : c ∉ "import".toList) (r : Text) :
    IsNoImport (b ++ (u ++ c :: r)) := by
  refine .inr fun hpre => ?_
  have hword : ∀ d ∈ u ++ [c], isBlank d = false := by
    intro d hd
    rcases List.mem_append.mp hd with hd | hd
    · simpa using List.all_eq_true.mp hu d hd
    · rwa [List.mem_singleton.mp hd]
  have htrim : Text.trimStart (b ++ (u ++ c :: r)) = u ++ [c] ++ r := by
    rw [Text.trimStart, Text.dropWhile_run (List.all_eq_true.mp hb), List.append_assoc,
      List.singleton_append]
    intro d hd
    refine hword d ?_
    rw [show u ++ c :: r = u ++ [c] ++ r by simp, List.head?_append_of_ne_nil _ (by simp)] at hd
    exact List.mem_of_mem_head? hd
  rw [htrim] at hpre
  have hno : ' ' ∉ u ++ [c] := fun hm => absurd (hword _ hm) (by decide)
  have hlead : "import".toList ++ [' '] <+: u ++ [c] ++ r := .trans ⟨['\''], rfl⟩ hpre
  -- the first word ends inside `import`, and so does its last character
  rcases List.prefix_or_prefix_of_prefix hlead (List.prefix_append (u ++ [c]) r) with h | h
  · exact hno (h.subset (by simp))
  · rcases List.prefix_concat_iff.mp h with h | h
    · exact hno (h ▸ by simp)
    · exact himport (h.subset (by simp))

/-- The characters at the start of a line decide, if they go far enough. -/
theorem of_literal {a : Text}
    (h : ¬ "import '".toList <+: a.trimStart ∧ ¬ a.trimStart <+: "import '".toList) (r : Text) :
    IsNoImport (a ++ r) := by
  refine .inr fun hpre => ?_
  have hne : (a.dropWhile isBlank).isEmpty = false := by
    rw [List.isEmpty_eq_false_iff]
    exact fun hnil => h.2 (by rw [Text.trimStart, hnil]; exact List.nil_prefix)
  rw [Text.trimStart, List.dropWhile_append, hne, if_neg Bool.false_ne_true, ← Text.trimStart] at hpre
  exact (List.prefix_or_prefix_of_prefix hpre (List.prefix_append _ r)).elim h.1 h.2

end IsNoImport

/-! ### The lines of one field -/

namespace Field
variable {f : Field} {suffix : Text}

theorem docLine_isNoImport (doc : Text) : IsNoImport (docLine doc) :=
  .of_literal (a := "  /") (by decide) _

theorem declarationLine_isNoImport (f : Field) (suffix : Text) : IsNoImport (f.declarationLine suffix) :=
  .of_literal (a := "  final ") (by decide) _

theorem parameterLine_isNoImport (h : f.WellFormed) : IsNoImport f.parameterLine := by
  have hname : ';' ∉ f.name := h.name.isPlain.2
  rw [parameterLine]
  split
  · exact .inl (List.not_mem_append (List.not_mem_append (by decide) hname) (by decide))
  · exact .inl (List.not_mem_append (List.not_mem_append (by decide) hname) (by decide))

theorem decodeLine_isNoImport (h : f.WellFormed) : IsNoImport (f.decodeLine suffix) := by
  have hword := IsNoImport.of_word (b := "      ") (u := f.name) (c := ':') (by decide)
    h.name.all_not_isBlank (by decide) (by decide) (' ' :: (f.decodeExpr suffix ++ [',']))
  have hline : f.decodeLine suffix =
      "      ".toList ++ f.name ++ [':', ' '] ++ f.decodeExpr suffix ++ [','] := rfl
  rw [hline]
  simpa only [List.append_assoc, List.cons_append, List.nil_append] using hword

theorem copyParameterLine_isNoImport (h : f.WellFormed)
    (hs : ∀ c ∈ suffix, isIdentifierPart c = true) : IsNoImport (f.copyParameterLine suffix) := by
  have htype : ';' ∉ "    ".toList ++ f.copyType suffix :=
    List.not_mem_append (by decide) (copyType_isPlain h hs).2
  exact .inl (List.not_mem_append
    (List.not_mem_append (List.not_mem_append htype (by decide)) h.name.isPlain.2) (by decide))

theorem copyLine_isNoImport (h : f.WellFormed) : IsNoImport f.copyLine := by
  have hname : ';' ∉ f.name := h.name.isPlain.2
  have hleft : ';' ∉ "      ".toList ++ f.name ++ ": ".toList ++ f.name :=
    List.not_mem_append (List.not_mem_append (List.not_mem_append (by decide) hname) (by decide)) hname
  exact .inl (List.not_mem_append (List.not_mem_append (List.not_mem_append hleft (by decide)) hname)
    (by decide))

theorem entryLine_isNoImport (f : Field) : IsNoImport f.entryLine :=
  .of_literal (a := "      '") (by decide) _

theorem hashLine_isNoImport (h : f.WellFormed) : IsNoImport f.hashLine :=
  .inl (List.not_mem_append (List.not_mem_append (by decide) h.name.isPlain.2) (by decide))

end Field

/-! ### Sections -/

namespace TransferClass
variable {name suffix : Text} {fs : List Field} {c : DataClass} {o : Options}

theorem fieldLines_isNoImport : ∀ l ∈ fieldLines suffix fs, IsNoImport l := by
  intro l hl
  obtain ⟨f, -, hl⟩ := List.mem_flatMap.mp hl
  rcases List.mem_append.mp hl with hl | hl
  · obtain ⟨d, -, rfl⟩ := List.mem_map.mp hl
    exact Field.docLine_isNoImport d
  · rw [List.mem_singleton.mp hl]
    exact f.declarationLine_isNoImport suffix

theorem constructorLines_isNoImport (name : Text) (hfs : ∀ f ∈ fs, f.WellFormed) :
    ∀ l ∈ constructorLines name fs, IsNoImport l := by
  have hconst (r : Text) : IsNoImport ("  const ".toList ++ name ++ r) :=
    .of_literal (a := "  const ") (by decide) _
  rw [constructorLines]
  split
  · exact List.forall_mem_cons.mpr ⟨by decide, List.forall_mem_singleton.mpr (hconst _)⟩
  · refine forall_mem_between ?_ ?_ (by decide)
    · exact List.forall_mem_cons.mpr ⟨by decide, List.forall_mem_singleton.mpr (hconst _)⟩
    · exact List.forall_mem_map.mpr fun f hf => Field.parameterLine_isNoImport (hfs f hf)

theorem factory_isNoImport (name r : Text) : IsNoImport ("  factory ".toList ++ name ++ r) :=
  .of_literal (a := "  factory ") (by decide) _

theorem return_isNoImport (r : Text) : IsNoImport ("    return ".toList ++ r) :=
  .of_literal (by decide) r

theorem fromMapLines_isNoImport (name suffix : Text) (hfs : ∀ f ∈ fs, f.WellFormed) :
    ∀ l ∈ fromMapLines name suffix fs, IsNoImport l := by
  refine forall_mem_between ?_ ?_ (by decide)
  · exact List.forall_mem_cons.mpr ⟨by decide, List.forall_mem_cons.mpr
      ⟨factory_isNoImport name _, List.forall_mem_singleton.mpr (return_isNoImport _)⟩⟩
  · exact List.forall_mem_map.mpr fun f hf => Field.decodeLine_isNoImport (hfs f hf)

theorem fromJsonLines_isNoImport (hn : name.IsIdentifier) : ∀ l ∈ fromJsonLines name, IsNoImport l := by
  refine List.forall_mem_cons.mpr ⟨by decide, List.forall_mem_cons.mpr
    ⟨factory_isNoImport name _, List.forall_mem_singleton.mpr ?_⟩⟩
  have hword := IsNoImport.of_word (b := "      ") (u := name) (c := '.') (by decide)
    hn.all_not_isBlank (by decide) (by decide) "fromMap(json.decode(source) as Map<String, dynamic>);"
  rwa [← List.append_assoc] at hword

theorem copyWithLines_isNoImport (hn : name.IsIdentifier)
    (hs : ∀ c ∈ suffix, isIdentifierPart c = true) (hne : fs ≠ []) (hfs : ∀ f ∈ fs, f.WellFormed) :
    ∀ l ∈ copyWithLines name suffix fs, IsNoImport l := by
  rw [copyWithLines, if_neg (by simpa using hne)]
  refine forall_mem_between ?_ ?_ (forall_mem_between ?_ ?_ (by decide))
  · refine List.forall_mem_cons.mpr ⟨by decide, List.forall_mem_singleton.mpr (.inl ?_)⟩
    exact List.not_mem_append (List.not_mem_append (by decide) hn.isPlain.2) (by decide)
  · exact List.forall_mem_map.mpr fun f hf => Field.copyParameterLine_isNoImport (hfs f hf) hs
  · exact List.forall_mem_cons.mpr ⟨by decide, List.forall_mem_singleton.mpr (return_isNoImport _)⟩
  · exact List.forall_mem_map.mpr fun f hf => Field.copyLine_isNoImport (hfs f hf)

theorem toMapLines_isNoImport (fs : List Field) : ∀ l ∈ toMapLines fs, IsNoImport l :=
  forall_mem_between (by decide) (List.forall_mem_map.mpr fun f _ => f.entryLine_isNoImport) (by decide)

theorem toStringLines_isNoImport (name : Text) (fs : List Field) :
    ∀ l ∈ toStringLines name fs, IsNoImport l :=
  List.forall_mem_cons.mpr ⟨by decide, List.forall_mem_cons.mpr ⟨by decide, List.forall_mem_singleton.mpr
    (.of_literal (a := "  String ") (by decide) _)⟩⟩

theorem equalityLines_isNoImport (hfs : ∀ f ∈ c.fields, f.WellFormed) :
    ∀ l ∈ equalityLines c o, IsNoImport l := by
  have hother (r : Text) : IsNoImport ("        other.".toList ++ r) :=
    .of_literal (by decide) r
  rw [equalityLines]
  split
  · exact List.forall_mem_cons.mpr ⟨by decide, List.forall_mem_cons.mpr ⟨by decide,
      List.forall_mem_singleton.mpr
        (.of_literal (a := "  List") (by decide) _)⟩⟩
  · split
    · refine List.forall_mem_append.mpr ⟨forall_mem_between (by decide) (forall_mem_endLines ?_) (by decide),
        forall_mem_between (by decide) ?_ (by decide)⟩
      · refine List.forall_mem_cons.mpr ⟨⟨return_isNoImport _, return_isNoImport _⟩, ?_⟩
        exact List.forall_mem_map.mpr fun f _ => ⟨hother _, hother _⟩
      · exact List.forall_mem_map.mpr fun f hf => Field.hashLine_isNoImport (hfs f hf)
    · simp

theorem lines_isNoImport (hc : c.WellFormed) (hs : ∀ c ∈ o.suffix, isIdentifierPart c = true) :
    ∀ l ∈ lines c o, IsNoImport l := by
  have hn := nameFor_isIdentifier hc hs
  have hhead : IsNoImport (headLine c o) := by
    rw [headLine]
    split <;>
      exact .of_literal (a := "class ") (by decide) _
  have hcopy :
      ∀ l ∈ (if o.copyWith then copyWithLines (nameFor c.name o) o.suffix c.fields else []),
        IsNoImport l := by
    split
    · exact copyWithLines_isNoImport hn hs hc.fields_ne hc.fields
    · simp
  refine forall_mem_between (List.forall_mem_singleton.mpr hhead)
    (List.forall_mem_append.mpr ⟨fieldLines_isNoImport, ?_⟩) (by decide)
  simp only [memberLines, List.forall_mem_append]
  exact ⟨⟨⟨⟨⟨⟨⟨constructorLines_isNoImport _ hc.fields, fromMapLines_isNoImport _ _ hc.fields⟩,
    fromJsonLines_isNoImport hn⟩, hcopy⟩, toMapLines_isNoImport _⟩, by decide⟩,
    toStringLines_isNoImport _ _⟩, equalityLines_isNoImport hc.fields⟩

/-- A class whose name stays one word has no import among its lines. -/
theorem not_hasLine_render (hc : c.WellFormed) (hs : ∀ c ∈ o.suffix, isIdentifierPart c = true)
    {p : Text} (hp : p.IsDirective) (himport : "import '".toList <+: p) :
    ¬ Text.HasLine p (render c o) := by
  have hn := (nameFor_isIdentifier hc hs).newline_notMem
  have hlines : ∀ l ∈ lines c o, '\n' ∉ l := by
    refine forall_mem_between (List.forall_mem_singleton.mpr ?_) (fun l hl => ?_) (by decide)
    · rw [headLine]
      split <;> exact List.not_mem_append (List.not_mem_append (by decide) hn) (by decide)
    · refine (bodyLines_isLine hc hs l ?_).1
      rw [bodyLines, ← List.append_assoc]
      exact List.mem_append_left _ hl
  rw [Text.HasLine, render, Text.splitOn_flatMap hlines]
  rintro ⟨l, hl, hpl⟩
  rcases List.mem_append.mp hl with hl | hl
  · rcases lines_isNoImport hc hs l hl with hsemi | hno
    · have hmem : ';' ∈ l.trimStart := hpl.subset (hp.semicolon_mem (List.nil_append p).symm hp.ne_nil)
      exact hsemi ((List.dropWhile_sublist _).subset hmem)
    · exact hno (himport.trans hpl)
  · rw [List.mem_singleton.mp hl] at hpl
    exact hp.ne_nil (List.prefix_nil.mp hpl)

end TransferClass

end DartTransfer

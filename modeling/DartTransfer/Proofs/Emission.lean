import DartTransfer.Proofs.Resolved

/-!
# The lines of a transfer class

Every line that is written for a class stays one line (`Text.IsLine`), whatever names, types and
templates it is made of, and of all lines only the declarations are fields to a comment walk: the
lines of the members have no semicolon, or start with a word that no modifier starts with
(`IsMemberLine`, `TransferClass.memberLines_isMemberLine`).
-/

namespace DartTransfer

/-- A line that is read back as one line without a field. -/
structure IsMemberLine (l : Text) : Prop where
  isLine : l.IsLine
  noField : DeclaresNoField l

instance (l : Text) : Decidable l.IsLine := inferInstanceAs (Decidable (_ ∧ _))

instance (l : Text) : Decidable (IsMemberLine l) :=
  decidable_of_iff (l.IsLine ∧ DeclaresNoField l) ⟨fun h => ⟨h.1, h.2⟩, fun h => ⟨h.1, h.2⟩⟩

theorem Text.isLine_append {a b : Text} (ha : '\n' ∉ a) (hb : b.IsLine) (hne : b ≠ []) :
    (a ++ b).IsLine := by
  refine ⟨?_, ?_⟩
  · rw [List.mem_append, not_or]
    exact ⟨ha, hb.1⟩
  · rw [List.getLast?_append_of_ne_nil a hne]
    exact hb.2

theorem isIdentifierPart_of_isIdentifierTail {suffix : Text} (h : isIdentifierTail suffix = true) :
    ∀ c ∈ suffix, isIdentifierPart c = true := by
  intro c hc
  have := List.all_eq_true.mp h c hc
  rw [Bool.or_eq_true, Bool.or_eq_true] at this
  rw [isIdentifierPart, isWord]
  rcases this with (e | e) | e <;> simp [e]

theorem newline_notMem_suffix {suffix : Text} (hs : ∀ c ∈ suffix, isIdentifierPart c = true) : '\n' ∉ suffix :=
  Text.notMem_of_isIdentifierPart hs (isIdentifierPart_of_isBlank (by decide))

theorem mark_notMem_suffix {suffix : Text} (hs : ∀ c ∈ suffix, isIdentifierPart c = true) {c : Char}
    (hc : c ∈ marks) : c ∉ suffix :=
  Text.notMem_of_isIdentifierPart hs (isIdentifierPart_of_mem_marks hc)

theorem notMem_companionType {type suffix : Text} {c : Char} (hs : c ∉ suffix) (ht : c ∉ type) :
    c ∉ companionType type suffix := by
  rw [← Text.IsType.append type, List.mem_append, not_or] at ht
  rw [companionType, List.mem_append, List.mem_append, not_or, not_or]
  exact ⟨⟨ht.1, hs⟩, ht.2⟩

/-- A text that neither ends a line nor makes it a declaration. -/
def Text.IsPlain (t : Text) : Prop := '\n' ∉ t ∧ ';' ∉ t

instance (t : Text) : Decidable t.IsPlain := inferInstanceAs (Decidable (_ ∧ _))

theorem Text.IsPlain.append {a b : Text} (ha : a.IsPlain) (hb : b.IsPlain) : (a ++ b).IsPlain :=
  ⟨List.not_mem_append ha.1 hb.1, List.not_mem_append ha.2 hb.2⟩

theorem IsMemberLine.of_plain {a b : Text} (ha : a.IsPlain) (hb : b.IsLine ∧ b ≠ [] ∧ ';' ∉ b) :
    IsMemberLine (a ++ b) :=
  ⟨Text.isLine_append ha.1 hb.1 hb.2.1, .of_notMem (List.not_mem_append ha.2 hb.2.2)⟩

theorem Text.notMem_joinWith {c : Char} {sep : Text} {ts : List Text} (hsep : c ∉ sep)
    (hts : ∀ t ∈ ts, c ∉ t) : c ∉ Text.joinWith sep ts := by
  induction ts with
  | nil => exact List.not_mem_nil
  | cons t ts ih =>
    have ht := hts t List.mem_cons_self
    cases ts with
    | nil => rwa [joinWith_singleton]
    | cons u us =>
      have hrest := ih fun v hv => hts v (List.mem_cons_of_mem _ hv)
      rw [joinWith_cons _ _ (List.cons_ne_nil u us)]
      exact List.not_mem_append (List.not_mem_append ht hsep) hrest

namespace Text.IsIdentifier
variable {n : Text}

theorem newline_notMem (h : n.IsIdentifier) : '\n' ∉ n :=
  h.notMem (isIdentifierPart_of_isBlank (by decide))

theorem all_not_isBlank (h : n.IsIdentifier) : n.all (!isBlank ·) = true := by
  refine List.all_eq_true.mpr fun c hc => ?_
  rw [isBlank_of_isIdentifierPart (h.2 c hc)]
  rfl

theorem isPlain (h : n.IsIdentifier) : n.IsPlain :=
  ⟨h.newline_notMem, h.notMem (isIdentifierPart_of_mem_marks (by decide))⟩

end Text.IsIdentifier

namespace Field
variable {f : Field} {suffix : Text}

namespace WellFormed

theorem newline_notMem_mapAccess (h : f.WellFormed) : '\n' ∉ f.mapAccess := by
  exact List.not_mem_append (List.not_mem_append (by decide) h.key) (by decide)

theorem newline_notMem_decodeExpr (h : f.WellFormed) (hs : '\n' ∉ suffix) : '\n' ∉ f.decodeExpr suffix := by
  have haccess := h.newline_notMem_mapAccess
  rw [decodeExpr]
  split
  · next e he =>
    obtain ⟨d, hd, rfl⟩ := Option.map_eq_some_iff.mp he
    exact newline_notMem_substitute (h.templates.decode d hd) haccess
  · cases f.kind with
    | plain => exact haccess
    | enumerated =>
      exact List.not_mem_append
        (List.not_mem_append (List.not_mem_append h.name.newline_notMem (by decide)) haccess)
        (by decide)
    | nested =>
      have hfallback : '\n' ∉ f.nullFallback := by
        rw [nullFallback]
        split
        · decide
        · exact List.not_mem_append (List.not_mem_append (by decide) h.key) (by decide)
      have hcompanion : '\n' ∉ companionType f.type suffix := notMem_companionType hs h.newline
      refine List.not_mem_append
        (List.not_mem_append (List.not_mem_append (List.not_mem_append ?_ ?_) haccess) ?_) hfallback
      · exact List.not_mem_append (List.not_mem_append haccess (by decide)) hcompanion
      · decide
      · decide

theorem newline_notMem_encodeExpr (h : f.WellFormed) : '\n' ∉ f.encodeExpr := by
  have hname := h.name.newline_notMem
  rw [encodeExpr]
  split
  · next e he =>
    obtain ⟨d, hd, rfl⟩ := Option.map_eq_some_iff.mp he
    exact newline_notMem_substitute (h.templates.encode d hd) hname
  · cases f.kind with
    | plain => exact hname
    | enumerated =>
      exact List.not_mem_append (List.not_mem_append (List.not_mem_append hname (by decide)) hname)
        (by decide)
    | nested =>
      dsimp only
      split
      · exact List.not_mem_append hname (by decide)
      · exact List.not_mem_append hname (by decide)

end WellFormed

/-! ### The type of the generated field -/

/-- The type of the generated field less its `?`. -/
def plainType (f : Field) (suffix : Text) : Text :=
  if f.isNested && f.templates.isEmpty then companionType f.type suffix else f.type

/-- Whether the type of the generated field has a `?`. -/
def isMarked (f : Field) (suffix : Text) : Bool := f.nullable && f.plainType suffix != "dynamic"

theorem generatedType_eq (f : Field) (suffix : Text) :
    f.generatedType suffix = f.plainType suffix ++ (if f.isMarked suffix then "?" else "" : Text) := by
  show (if f.isMarked suffix then f.plainType suffix ++ "?" else f.plainType suffix) = _
  split <;> simp

namespace WellFormed

theorem plainType_isType (h : f.WellFormed) (hs : ∀ c ∈ suffix, isIdentifierPart c = true) :
    (f.plainType suffix).IsType := by
  rw [plainType]
  split
  · exact h.type.companionType hs
  · exact h.type

end WellFormed

theorem notMem_plainType {c : Char} (hs : c ∉ suffix) (ht : c ∉ f.type) : c ∉ f.plainType suffix := by
  rw [plainType]
  split
  · exact notMem_companionType hs ht
  · exact ht

theorem notMem_generatedType {c : Char} (hs : c ∉ suffix) (hq : c ≠ '?') (ht : c ∉ f.type) :
    c ∉ f.generatedType suffix := by
  rw [generatedType_eq]
  refine List.not_mem_append (notMem_plainType hs ht) ?_
  split
  · simpa using hq
  · exact List.not_mem_nil

theorem notMem_copyType {c : Char} (hs : c ∉ suffix) (hq : c ≠ '?') (ht : c ∉ f.type) : c ∉ f.copyType suffix := by
  have htype : c ∉ f.generatedType suffix := notMem_generatedType hs hq ht
  simp only [copyType]
  split
  · exact htype
  · exact List.not_mem_append htype (by simpa using hq)

theorem notMem_interpolation {c : Char} (hc : c ∉ ": $\x7b\x7d".toList) (hn : c ∉ f.name) :
    c ∉ f.interpolation :=
  List.not_mem_append
    (List.not_mem_append (List.not_mem_append hn fun h => hc (List.mem_append_left "\x7d".toList h)) hn)
    fun h => hc (List.mem_append_right ": $\x7b".toList h)

end Field

/-! ### Lines -/

namespace Field
variable {f : Field} {suffix : Text}

theorem parameterLine_isMemberLine (h : f.WellFormed) : IsMemberLine f.parameterLine := by
  rw [parameterLine]
  split
  · exact .of_plain (.append (by decide) h.name.isPlain) (by decide)
  · exact .of_plain (.append (by decide) h.name.isPlain) (by decide)

theorem decodeLine_isMemberLine (h : f.WellFormed) (hs : ∀ c ∈ suffix, isIdentifierPart c = true) :
    IsMemberLine (f.decodeLine suffix) := by
  have hn := h.name.newline_notMem
  have he := h.newline_notMem_decodeExpr (newline_notMem_suffix hs)
  have hforeign : Text.HasForeignWord ("      ".toList ++ f.name ++ ": ".toList) :=
    ⟨"      ", f.name, ':', " ", rfl, by decide, h.name.all_not_isBlank, by decide, by decide⟩
  refine ⟨Text.isLine_append ?_ (by decide) (by decide), .of_foreign ((hforeign.append _).append _)⟩
  exact List.not_mem_append (List.not_mem_append (List.not_mem_append (by decide) hn) (by decide)) he

theorem copyType_isPlain (h : f.WellFormed) (hs : ∀ c ∈ suffix, isIdentifierPart c = true) :
    (f.copyType suffix).IsPlain :=
  ⟨notMem_copyType (newline_notMem_suffix hs) (by decide) h.newline,
    notMem_copyType (mark_notMem_suffix hs (by decide)) (by decide) h.semicolon⟩

theorem copyParameterLine_isMemberLine (h : f.WellFormed)
    (hs : ∀ c ∈ suffix, isIdentifierPart c = true) : IsMemberLine (f.copyParameterLine suffix) := by
  have htype : Text.IsPlain ("    ".toList ++ f.copyType suffix) :=
    .append (by decide) (copyType_isPlain h hs)
  exact .of_plain ((htype.append (by decide)).append h.name.isPlain) (by decide)

theorem copyLine_isMemberLine (h : f.WellFormed) : IsMemberLine f.copyLine := by
  have hname : Text.IsPlain ("      ".toList ++ f.name) := .append (by decide) h.name.isPlain
  have hcurrent :=
    ((hname.append (b := ": ") (by decide)).append h.name.isPlain).append (b := " ?? this.") (by decide)
  exact .of_plain (hcurrent.append h.name.isPlain) (by decide)

theorem entryLine_isMemberLine (h : f.WellFormed) : IsMemberLine f.entryLine := by
  have hforeign : Text.HasForeignWord "      '" :=
    ⟨"      ", [], '\'', [], by decide, by decide, by decide, by decide, by decide⟩
  refine ⟨Text.isLine_append ?_ (by decide) (by decide),
    .of_foreign ((((hforeign.append _).append _).append _).append _)⟩
  exact List.not_mem_append (List.not_mem_append (List.not_mem_append (by decide) h.key) (by decide))
    h.newline_notMem_encodeExpr

theorem hashLine_isMemberLine (h : f.WellFormed) : IsMemberLine f.hashLine :=
  .of_plain (.append (by decide) h.name.isPlain) (by decide)

end Field

/-! ### Sections -/

namespace TransferClass
variable {name suffix : Text} {fs : List Field} {c : DataClass} {o : Options}

theorem forall_mem_between {P : Text → Prop} {opening inner closing : List Text}
    (ho : ∀ l ∈ opening, P l)
    (hi : ∀ l ∈ inner, P l) (hc : ∀ l ∈ closing, P l) : ∀ l ∈ between opening inner closing, P l := by
  intro l hl
  rcases List.mem_append.mp hl with hl | hl
  · rcases List.mem_append.mp hl with hl | hl
    · exact ho l hl
    · exact hi l hl
  · exact hc l hl

/-- A line around the name of the class, without a semicolon. -/
theorem isMemberLine_around (hn : name.IsIdentifier) {a b : Text} (ha : a.IsPlain)
    (hb : b.IsLine ∧ b ≠ [] ∧ ';' ∉ b) : IsMemberLine (a ++ name ++ b) :=
  .of_plain (ha.append hn.isPlain) hb

theorem constructorLines_isMemberLine (hn : name.IsIdentifier) (hne : fs ≠ [])
    (hfs : ∀ f ∈ fs, f.WellFormed) : ∀ l ∈ constructorLines name fs, IsMemberLine l := by
  rw [constructorLines, if_neg (by simpa using hne)]
  refine forall_mem_between ?_ ?_ (by decide +kernel)
  · refine List.forall_mem_cons.mpr ⟨by decide, List.forall_mem_singleton.mpr ?_⟩
    exact isMemberLine_around hn (by decide) (by decide)
  · exact List.forall_mem_map.mpr fun f hf => Field.parameterLine_isMemberLine (hfs f hf)

theorem fromMapLines_isMemberLine (hn : name.IsIdentifier)
    (hs : ∀ c ∈ suffix, isIdentifierPart c = true)
    (hfs : ∀ f ∈ fs, f.WellFormed) : ∀ l ∈ fromMapLines name suffix fs, IsMemberLine l := by
  refine forall_mem_between ?_ ?_ (by decide +kernel)
  · refine List.forall_mem_cons.mpr
      ⟨by decide, List.forall_mem_cons.mpr ⟨?_, List.forall_mem_singleton.mpr ?_⟩⟩
    · exact isMemberLine_around hn (by decide) (by decide)
    · exact isMemberLine_around hn (by decide) (by decide)
  · exact List.forall_mem_map.mpr fun f hf => Field.decodeLine_isMemberLine (hfs f hf) hs

theorem fromJsonLines_isMemberLine (hn : name.IsIdentifier) :
    ∀ l ∈ fromJsonLines name, IsMemberLine l := by
  refine List.forall_mem_cons.mpr
    ⟨by decide, List.forall_mem_cons.mpr ⟨?_, List.forall_mem_singleton.mpr ?_⟩⟩
  · exact isMemberLine_around hn (by decide) (by decide)
  · refine ⟨Text.isLine_append (List.not_mem_append (by decide) hn.newline_notMem) (by decide)
      (by decide), .of_foreign ?_⟩
    exact ⟨"      ", name, '.', "fromMap(json.decode(source) as Map<String, dynamic>);", rfl, by decide,
      hn.all_not_isBlank, by decide, by decide⟩

theorem copyWithLines_isMemberLine (hn : name.IsIdentifier)
    (hs : ∀ c ∈ suffix, isIdentifierPart c = true) (hne : fs ≠ [])
    (hfs : ∀ f ∈ fs, f.WellFormed) : ∀ l ∈ copyWithLines name suffix fs, IsMemberLine l := by
  rw [copyWithLines, if_neg (by simpa using hne)]
  refine forall_mem_between ?_ ?_ (forall_mem_between ?_ ?_ (by decide +kernel))
  · refine List.forall_mem_cons.mpr ⟨by decide, List.forall_mem_singleton.mpr ?_⟩
    exact isMemberLine_around hn (by decide) (by decide)
  · exact List.forall_mem_map.mpr fun f hf => Field.copyParameterLine_isMemberLine (hfs f hf) hs
  · refine List.forall_mem_cons.mpr ⟨by decide, List.forall_mem_singleton.mpr ?_⟩
    exact isMemberLine_around hn (by decide) (by decide)
  · exact List.forall_mem_map.mpr fun f hf => Field.copyLine_isMemberLine (hfs f hf)

theorem toMapLines_isMemberLine (hfs : ∀ f ∈ fs, f.WellFormed) : ∀ l ∈ toMapLines fs, IsMemberLine l :=
  forall_mem_between (by decide)
    (List.forall_mem_map.mpr fun f hf => Field.entryLine_isMemberLine (hfs f hf))
    (by decide +kernel)

theorem newline_notMem_shown (hfs : ∀ f ∈ fs, f.WellFormed) :
    '\n' ∉ Text.joinWith ", " (fs.map Field.interpolation) :=
  Text.notMem_joinWith (by decide) (List.forall_mem_map.mpr fun f hf =>
    Field.notMem_interpolation (by decide) (hfs f hf).name.newline_notMem)

theorem newline_notMem_listed (hfs : ∀ f ∈ fs, f.WellFormed) :
    '\n' ∉ Text.joinWith ", " (fs.map (·.name)) :=
  Text.notMem_joinWith (by decide) (List.forall_mem_map.mpr fun f hf => (hfs f hf).name.newline_notMem)

theorem toStringLines_isMemberLine (hn : name.IsIdentifier) (hfs : ∀ f ∈ fs, f.WellFormed) :
    ∀ l ∈ toStringLines name fs, IsMemberLine l := by
  have hforeign : Text.HasForeignWord "  String toString() => '" :=
    ⟨"  ", [], 'S', "tring toString() => '", by decide, by decide, by decide, by decide, by decide⟩
  refine List.forall_mem_cons.mpr ⟨by decide, List.forall_mem_cons.mpr ⟨by decide,
    List.forall_mem_singleton.mpr
      ⟨?_, .of_foreign ((((hforeign.append _).append _).append _).append _)⟩⟩⟩
  refine Text.isLine_append ?_ (by decide) (by decide)
  exact List.not_mem_append
    (List.not_mem_append (List.not_mem_append (by decide) hn.newline_notMem) (by decide))
    (newline_notMem_shown hfs)

theorem propsLines_isMemberLine (hfs : ∀ f ∈ fs, f.WellFormed) :
    ∀ l ∈ propsLines fs, IsMemberLine l := by
  have hforeign : Text.HasForeignWord "  List<Object?> get props => [" :=
    ⟨"  ", [], 'L', "ist<Object?> get props => [", by decide, by decide, by decide, by decide,
      by decide⟩
  refine List.forall_mem_cons.mpr ⟨by decide, List.forall_mem_cons.mpr ⟨by decide,
    List.forall_mem_singleton.mpr ⟨?_, .of_foreign ((hforeign.append _).append _)⟩⟩⟩
  exact Text.isLine_append (List.not_mem_append (by decide) (newline_notMem_listed hfs)) (by decide)
    (by decide)

/-- Lines with an ending are member lines whenever any of the two endings makes them one. -/
theorem forall_mem_endLines {P : Text → Prop} {sep last : Text} {ls : List Text}
    (h : ∀ l ∈ ls, P (l ++ sep) ∧ P (l ++ last)) : ∀ l ∈ endLines sep last ls, P l := by
  fun_induction endLines sep last ls with
  | case1 => simp
  | case2 l => exact List.forall_mem_singleton.mpr (h l List.mem_cons_self).2
  | case3 l ls _ ih =>
    refine List.forall_mem_cons.mpr
      ⟨(h l List.mem_cons_self).1, ih fun m hm => h m (List.mem_cons_of_mem _ hm)⟩

theorem equalsLines_isMemberLine (hn : name.IsIdentifier) (hfs : ∀ f ∈ fs, f.WellFormed) :
    ∀ l ∈ equalsLines name fs, IsMemberLine l := by
  have hend : ∀ {l : Text}, '\n' ∉ l → l.HasForeignWord → IsMemberLine (l ++ " &&".toList) ∧
      IsMemberLine (l ++ ";".toList) :=
    fun hl hf => ⟨⟨Text.isLine_append hl (by decide) (by decide), .of_foreign (hf.append _)⟩,
      ⟨Text.isLine_append hl (by decide) (by decide), .of_foreign (hf.append _)⟩⟩
  have hreturn : Text.HasForeignWord "    return other is " :=
    ⟨"    ", "ret", 'u', "rn other is ", by decide, by decide, by decide, by decide, by decide⟩
  have hother : Text.HasForeignWord "        other." :=
    ⟨"        ", "other", '.', [], by decide, by decide, by decide, by decide, by decide⟩
  refine forall_mem_between (by decide +kernel) (forall_mem_endLines ?_) (by decide +kernel)
  refine List.forall_mem_cons.mpr
    ⟨hend (List.not_mem_append (by decide) hn.newline_notMem) (hreturn.append _), ?_⟩
  refine List.forall_mem_map.mpr fun f hf => hend ?_ (((hother.append _).append _).append _)
  have hname := (hfs f hf).name.newline_notMem
  exact List.not_mem_append
    (List.not_mem_append (List.not_mem_append (by decide) hname) (by decide)) hname

theorem hashCodeLines_isMemberLine (hfs : ∀ f ∈ fs, f.WellFormed) :
    ∀ l ∈ hashCodeLines fs, IsMemberLine l :=
  forall_mem_between (by decide)
    (List.forall_mem_map.mpr fun f hf => Field.hashLine_isMemberLine (hfs f hf))
    (by decide +kernel)

theorem equalityLines_isMemberLine (hn : (nameFor c.name o).IsIdentifier)
    (hfs : ∀ f ∈ c.fields, f.WellFormed) : ∀ l ∈ equalityLines c o, IsMemberLine l := by
  rw [equalityLines]
  split
  · exact propsLines_isMemberLine hfs
  · split
    · exact List.forall_mem_append.mpr ⟨equalsLines_isMemberLine hn hfs, hashCodeLines_isMemberLine hfs⟩
    · simp

theorem nameFor_isIdentifier (hc : c.WellFormed) (hs : ∀ c ∈ o.suffix, isIdentifierPart c = true) :
    (nameFor c.name o).IsIdentifier :=
  hc.name.append hs

theorem memberLines_isMemberLine (hc : c.WellFormed) (hs : ∀ c ∈ o.suffix, isIdentifierPart c = true) :
    ∀ l ∈ memberLines c o, IsMemberLine l := by
  have hn := nameFor_isIdentifier hc hs
  have hcopy :
      ∀ l ∈ (if o.copyWith then copyWithLines (nameFor c.name o) o.suffix c.fields else []),
        IsMemberLine l := by
    split
    · exact copyWithLines_isMemberLine hn hs hc.fields_ne hc.fields
    · simp
  simp only [memberLines, List.forall_mem_append]
  exact ⟨⟨⟨⟨⟨⟨⟨constructorLines_isMemberLine hn hc.fields_ne hc.fields,
    fromMapLines_isMemberLine hn hs hc.fields⟩,
    fromJsonLines_isMemberLine hn⟩, hcopy⟩, toMapLines_isMemberLine hc.fields⟩, by decide +kernel⟩,
    toStringLines_isMemberLine hn hc.fields⟩, equalityLines_isMemberLine hn hc.fields⟩

end TransferClass

end DartTransfer

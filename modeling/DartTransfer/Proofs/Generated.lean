import DartTransfer.Proofs.Anchors
import DartTransfer.Proofs.Located

/-!
# What a run generates, and that it can be applied

A run that succeeds gives, in the order of the text, the classes that have fields, one edit for each
of them, and at most one insertion of imports (`Generation.classes_eq`, `classEdits_eq`,
`importEdit_eq`). The insertion stands at a cut of the text ahead of the first of these classes
(`importEdit?_eq_some`), also when an import ends where the class starts; so the spans of all edits,
imports first, cut the text (`Generation.cuts`), and the batch is applied as it stands.
-/

namespace DartTransfer

/-! ### Outcomes of a run -/

theorem DataClass.ofSource?_eq_some {o : Options} {c : SourceClass} {d : DataClass}
    (h : ofSource? o c = some d) :
    d.name = c.name ∧ d.span = c.span ∧ d.usesEquatable = c.usesEquatable ∧
      d.fields =
        (c.declaredFields o.extraction).map (·.resolve o (c.decidingConstructor? o.nullability)) ∧
        c.declaredFields o.extraction ≠ [] := by
  unfold ofSource? at h
  split at h
  · simp at h
  · next fs hne =>
    cases h
    exact ⟨rfl, rfl, rfl, rfl, hne⟩

theorem classOutcome_class? (t : Text) (o : Options) (c : SourceClass) :
    (classOutcome t o c).class? = DataClass.ofSource? o c := by
  unfold classOutcome
  cases DataClass.ofSource? o c <;> rfl

theorem classOutcome_edit? (t : Text) (o : Options) (c : SourceClass) :
    (classOutcome t o c).edit? = (DataClass.ofSource? o c).map (classEdit t o) := by
  unfold classOutcome
  cases DataClass.ofSource? o c <;> rfl

theorem generate_eq_ok {t : Text} {o : Options} {g : Generation} (h : generate t o = .ok g) :
    g.outcomes = (SourceClass.locate o.discovery t).map (classOutcome t o) ∧
      g.importEdit = importEdit? t g.classes o := by
  simp only [generate] at h
  split at h
  · simp at h
  · simp at h
  · cases h
    exact ⟨rfl, rfl⟩

namespace Generation
variable {t : Text} {o : Options} {g : Generation}

theorem classes_eq (h : generate t o = .ok g) :
    g.classes = (SourceClass.locate o.discovery t).filterMap (DataClass.ofSource? o) := by
  rw [classes, (generate_eq_ok h).1, List.filterMap_map]
  exact congrArg (List.filterMap · _) (funext fun c => classOutcome_class? t o c)

theorem classEdits_eq (h : generate t o = .ok g) : g.classEdits = g.classes.map (classEdit t o) := by
  rw [classes_eq h, classEdits, (generate_eq_ok h).1, List.filterMap_map, List.map_filterMap]
  exact congrArg (List.filterMap · _) (funext fun c => classOutcome_edit? t o c)

theorem importEdit_eq (h : generate t o = .ok g) : g.importEdit = importEdit? t g.classes o :=
  (generate_eq_ok h).2

theorem exists_source (h : generate t o = .ok g) {d : DataClass} (hd : d ∈ g.classes) :
    ∃ c ∈ SourceClass.locate o.discovery t, DataClass.ofSource? o c = some d := by
  rw [classes_eq h] at hd
  exact List.mem_filterMap.mp hd

theorem exists_resolve (h : generate t o = .ok g) {c : DataClass} (hc : c ∈ g.classes) {f : Field}
    (hf : f ∈ c.fields) : ∃ (d : DeclaredField) (k : Option Constructor), f = d.resolve o k := by
  obtain ⟨s, -, hs⟩ := exists_source h hc
  obtain ⟨-, -, -, hfields, -⟩ := DataClass.ofSource?_eq_some hs
  rw [hfields] at hf
  obtain ⟨d, -, rfl⟩ := List.mem_map.mp hf
  exact ⟨d, _, rfl⟩

theorem span_classEdits (h : generate t o = .ok g) :
    g.classEdits.map (·.span) = g.classes.map (·.span) := by
  rw [classEdits_eq h, List.map_map]
  rfl

theorem spans_sublist (cs : List SourceClass) :
    ((cs.filterMap (DataClass.ofSource? o)).map (·.span)).Sublist (cs.map (·.span)) := by
  induction cs with
  | nil => exact .slnil
  | cons c cs ih =>
    rw [List.filterMap_cons, List.map_cons]
    split
    · exact ih.cons _
    · next d hd =>
      rw [List.map_cons, (DataClass.ofSource?_eq_some hd).2.1]
      exact ih.cons_cons _

theorem cuts_classes (h : generate t o = .ok g) : Span.Cuts 0 t (g.classes.map (·.span)) := by
  rw [classes_eq h]
  exact (SourceClass.scan_locate o.discovery t).cuts.sublist (spans_sublist _)

/-- The span of a generated class holds the keyword, blanks, the name and more. -/
theorem exists_slice (h : generate t o = .ok g) {d : DataClass} (hd : d ∈ g.classes) :
    ∃ gap tail, t.slice d.span = "class".toList ++ gap ++ d.name ++ tail := by
  obtain ⟨c, hc, hcd⟩ := exists_source h hd
  obtain ⟨hname, hspan, -⟩ := DataClass.ofSource?_eq_some hcd
  obtain ⟨gap, tail, hslice, -⟩ := SourceClass.exists_slice_of_mem_locate hc
  exact ⟨gap, tail, by rw [hname, hspan]; exact hslice⟩

theorem start_lt_stop (h : generate t o = .ok g) {d : DataClass} (hd : d ∈ g.classes) :
    d.span.start < d.span.stop := by
  obtain ⟨gap, tail, hslice⟩ := exists_slice h hd
  obtain ⟨ahead, piece, rest, rfl, hs, he⟩ := (cuts_classes h).exists_append (List.mem_map_of_mem hd)
  rw [Text.slice_append (by simpa using hs) he] at hslice
  have hpos : 0 < piece.byteLength := by
    have hc : Text.byteLength "class".toList = 5 := by decide
    rw [hslice]
    simp only [Text.byteLength_append, hc]
    omega
  omega

end Generation

/-! ### The batch -/

theorem exists_generation {t : Text} {o : Options} (h : (generate t o).toOption.isSome = true) :
    ∃ g, generate t o = .ok g := by
  cases e : generate t o with
  | error fault => rw [e] at h; exact absurd h Bool.false_ne_true
  | ok g => exact ⟨g, rfl⟩

theorem exists_generation_of_any {t : Text} {o : Options} {p : Generation → Bool}
    (h : (generate t o).toOption.any p = true) : ∃ g, generate t o = .ok g ∧ p g = true := by
  cases e : generate t o with
  | error fault => rw [e] at h; exact absurd h Bool.false_ne_true
  | ok g => rw [e] at h; exact ⟨g, rfl, h⟩

namespace Generation
variable {t : Text} {o : Options} {g : Generation}

/-- The spans of all edits, imports first, cut the text. -/
theorem cuts (h : generate t o = .ok g) : Span.Cuts 0 t (g.edits.map (·.span)) := by
  have hcs := cuts_classes h
  cases hi : g.importEdit with
  | none =>
    rw [edits, hi, Option.toList_none, List.nil_append, span_classEdits h]
    exact hcs
  | some e =>
    rw [importEdit_eq h] at hi
    obtain ⟨c, cs', ahead, rest, hc, -, rfl, hspan, hle, -⟩ := importEdit?_eq_some hi
    rw [edits, importEdit_eq h, hi, Option.toList_some, List.cons_append, List.nil_append,
      List.map_cons, span_classEdits h, hspan]
    rw [hc] at hcs ⊢
    have hhead : ∀ s ∈ ((c :: cs').map (·.span)).head?, 0 + ahead.byteLength ≤ s.start := by
      intro s hs
      obtain rfl : c.span = s := Option.some.inj hs
      omega
    simpa using hcs.insertion hhead

/-- Whatever a run generates can be applied: each span lies in the text and ends at characters, the
spans of the classes are filled and follow each other, and the insertion of imports comes ahead of
the first of them. -/
theorem applicable (h : generate t o = .ok g) :
    (∃ r, g.apply t = .ok r) ∧
      (∀ e ∈ g.edits, e.span.start ≤ e.span.stop ∧ e.span.stop ≤ t.byteLength ∧
        t.isBoundary e.span.start = true ∧ t.isBoundary e.span.stop = true) ∧
      g.classEdits.map (·.span) = g.classes.map (·.span) ∧
      (∀ c ∈ g.classes, c.span.start < c.span.stop) ∧
      g.classes.Pairwise (fun a b => a.span.start < b.span.start ∧ a.span.stop ≤ b.span.start) ∧
      (∀ i ∈ g.importEdit, i.span.start = i.span.stop ∧
        ∀ e ∈ g.classEdits, i.span.stop ≤ e.span.start) ∧
      Edit.inOrder g.edits = g.edits := by
  have hcuts := cuts h
  refine ⟨⟨_, Edit.applyAll_of_cuts hcuts⟩, ?_, span_classEdits h,
    fun c hc => start_lt_stop h hc, ?_, ?_, Edit.inOrder_of_cuts hcuts⟩
  · intro e he
    have hs : e.span ∈ g.edits.map (·.span) := List.mem_map_of_mem he
    have hin := hcuts.isIn hs
    have hcut := hcuts.isCut hs
    simp only [Span.isIn, Bool.and_eq_true, decide_eq_true_eq] at hin
    simp only [Span.isCut, Bool.and_eq_true] at hcut
    exact ⟨hin.1, hin.2, hcut.1, hcut.2⟩
  · have hpair := List.pairwise_map.mp (cuts_classes h).pairwise
    refine hpair.imp_of_mem fun {a b} ha _ hab => ⟨?_, hab⟩
    exact Nat.lt_of_lt_of_le (start_lt_stop h ha) hab
  · intro i hi
    have hedits : g.edits = i :: g.classEdits := by rw [edits, Option.mem_def.mp hi]; rfl
    rw [hedits] at hcuts
    refine ⟨?_, fun e he => ?_⟩
    · rw [Option.mem_def, importEdit_eq h] at hi
      obtain ⟨_, _, _, _, -, -, -, hspan, -⟩ := importEdit?_eq_some hi
      rw [hspan]
    · exact (List.pairwise_cons.mp hcuts.pairwise).1 _ (List.mem_map_of_mem he)

/-- An import that ends where the class starts. -/
def importAtClass : Text := "import 'é';class A \x7b\n  final int x;\n\x7d\n"

theorem applicable_importAtClass :
    ∃ g r, generate importAtClass {} = .ok g ∧ g.apply importAtClass = .ok r ∧
    Edit.inOrder g.edits = g.edits := by
  obtain ⟨g, hg⟩ := exists_generation (t := importAtClass) (o := {}) (by decide +kernel)
  obtain ⟨⟨r, hr⟩, -, -, -, -, -, horder⟩ := applicable hg
  exact ⟨g, r, hg, hr, horder⟩

end Generation

end DartTransfer

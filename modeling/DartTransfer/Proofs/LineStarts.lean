import DartTransfer.Proofs.ReadBack

/-!
# How the lines of a class start

Whatever the suffix is, as long as it ends no line, each line that is written for a class is one line, and starts
in one of a few ways that depend on its section alone (`IsLineOf`). The heading of `copyWith`, which starts with
the name of the class, is told by how it ends. So no line ahead of a section is taken for its heading
(`IsLineOf.ne`).
-/

namespace DartTransfer

/-- One line that starts in one of the ways. -/
def StartsIn (starts : List Text) (l : Text) : Prop := '\n' ∉ l ∧ ∃ a ∈ starts, a <+: l

instance (starts : List Text) (l : Text) : Decidable (StartsIn starts l) := inferInstanceAs (Decidable (_ ∧ _))

theorem StartsIn.append {starts : List Text} {l r : Text} (h : StartsIn starts l) (hr : '\n' ∉ r) :
    StartsIn starts (l ++ r) :=
  ⟨List.not_mem_append h.1 hr, h.2.imp fun _ ha => ⟨ha.1, List.prefix_append_of_prefix ha.2⟩⟩

/-- A line of a section whose lines start in these ways. -/
inductive IsLineOf (starts : List Text) : Text → Prop
  | empty : IsLineOf starts []
  | start {l : Text} (h : StartsIn starts l) : IsLineOf starts l
  | copyWith {l : Text} (hl : '\n' ∉ l) (h : " copyWith(\x7b".toList <:+ l) : IsLineOf starts l

namespace IsLineOf
variable {starts starts' : List Text} {l : Text}

theorem newline_notMem (h : IsLineOf starts l) : '\n' ∉ l := by
  cases h with
  | empty => exact List.not_mem_nil
  | start h => exact h.1
  | copyWith hl => exact hl

theorem mono (h : IsLineOf starts l) (hs : starts ⊆ starts') : IsLineOf starts' l := by
  cases h with
  | empty => exact .empty
  | start h => exact .start ⟨h.1, h.2.imp fun _ ha => ⟨hs ha.1, ha.2⟩⟩
  | copyWith hl h => exact .copyWith hl h

/-- A line that starts and ends in other ways is another one. -/
theorem ne (h : IsLineOf starts l) {t p e : Text} (hp : p <+: t) (he : e <:+ t) (hne : p ≠ [])
    (hstarts : ∀ a ∈ starts, ¬ a <+: p ∧ ¬ p <+: a)
    (hcopy : ¬ e <:+ " copyWith(\x7b".toList ∧ ¬ " copyWith(\x7b".toList <:+ e) : l ≠ t := by
  rintro rfl
  cases h with
  | empty => exact hne (List.prefix_nil.mp hp)
  | start h =>
    obtain ⟨-, a, ha, hl⟩ := h
    exact (List.prefix_or_prefix_of_prefix hl hp).elim (hstarts a ha).1 (hstarts a ha).2
  | copyWith _ hl => exact (List.suffix_or_suffix_of_suffix he hl).elim hcopy.1 hcopy.2

/-- Each section has an empty line ahead. -/
theorem append_empty {ls : List Text} (h : ∀ l ∈ ls, IsLineOf starts l) : ∀ l ∈ ls ++ [[]], IsLineOf starts l :=
  List.forall_mem_append.mpr ⟨h, List.forall_mem_singleton.mpr .empty⟩

theorem append_override {ls : List Text} (h : ∀ l ∈ ls, IsLineOf starts l) (hs : "  @override".toList ∈ starts) :
    ∀ l ∈ ls ++ [[], "  @override".toList], IsLineOf starts l :=
  List.forall_mem_append.mpr ⟨h, List.forall_mem_cons.mpr ⟨.empty,
    List.forall_mem_singleton.mpr (.start ⟨by decide, _, hs, List.prefix_refl _⟩)⟩⟩

end IsLineOf

namespace TransferClass
variable {name suffix : Text} {fs : List Field} {c : DataClass} {o : Options}

theorem fieldLines_isLineOf (hfs : ∀ f ∈ fs, f.WellFormed) (hs : '\n' ∉ suffix) :
    ∀ l ∈ fieldLines suffix fs, IsLineOf ["  /// ", "  final "] l := by
  intro l hl
  obtain ⟨f, hf, hl⟩ := List.mem_flatMap.mp hl
  have h := hfs f hf
  rcases List.mem_append.mp hl with hl | hl
  · obtain ⟨d, hd, rfl⟩ := List.mem_map.mp hl
    exact .start (.append (by decide) (h.docs d hd).newline)
  · rw [List.mem_singleton.mp hl]
    have htype : '\n' ∉ f.generatedType suffix := Field.notMem_generatedType hs (by decide) h.newline
    exact .start (.append (.append (.append (.append (by decide) htype) (by decide)) h.name.newline_notMem)
      (by decide))

theorem constructorLines_isLineOf (hn : '\n' ∉ name) (hfs : ∀ f ∈ fs, f.WellFormed) :
    ∀ l ∈ constructorLines name fs, IsLineOf ["  const ", "    ", "  \x7d"] l := by
  rw [constructorLines]
  split
  · exact List.forall_mem_cons.mpr ⟨.empty, List.forall_mem_singleton.mpr
      (.start (.append (.append (by decide) hn) (by decide)))⟩
  · refine forall_mem_between ?_ ?_ (List.forall_mem_singleton.mpr (.start (by decide)))
    · exact List.forall_mem_cons.mpr ⟨.empty, List.forall_mem_singleton.mpr
        (.start (.append (.append (by decide) hn) (by decide)))⟩
    · refine List.forall_mem_map.mpr fun f hf => .start ?_
      have hname := (hfs f hf).name.newline_notMem
      rw [Field.parameterLine]
      split
      · exact .append (.append (by decide) hname) (by decide)
      · exact .append (.append (by decide) hname) (by decide)

theorem fromMapLines_isLineOf (hn : '\n' ∉ name) (hfs : ∀ f ∈ fs, f.WellFormed) (hs : '\n' ∉ suffix) :
    ∀ l ∈ fromMapLines name suffix fs, IsLineOf ["  factory ", "    ", "  \x7d"] l := by
  refine forall_mem_between ?_ (List.forall_mem_map.mpr fun f hf => .start ?_) ?_
  · exact List.forall_mem_cons.mpr ⟨.empty, List.forall_mem_cons.mpr
      ⟨.start (.append (.append (by decide) hn) (by decide)),
        List.forall_mem_singleton.mpr (.start (.append (.append (by decide) hn) (by decide)))⟩⟩
  · exact .append (.append (.append (.append (by decide) (hfs f hf).name.newline_notMem) (by decide))
      ((hfs f hf).newline_notMem_decodeExpr hs)) (by decide)
  · exact List.forall_mem_cons.mpr ⟨.start (by decide), List.forall_mem_singleton.mpr (.start (by decide))⟩

theorem fromJsonLines_isLineOf (hn : '\n' ∉ name) :
    ∀ l ∈ fromJsonLines name, IsLineOf ["  factory ", "    "] l :=
  List.forall_mem_cons.mpr ⟨.empty, List.forall_mem_cons.mpr
    ⟨.start (.append (.append (by decide) hn) (by decide)),
      List.forall_mem_singleton.mpr (.start (.append (.append (by decide) hn) (by decide)))⟩⟩

theorem copyWithLines_isLineOf (hn : '\n' ∉ name) (hfs : ∀ f ∈ fs, f.WellFormed) (hne : fs ≠ [])
    (hs : '\n' ∉ suffix) : ∀ l ∈ copyWithLines name suffix fs, IsLineOf ["    ", "  \x7d"] l := by
  rw [copyWithLines, if_neg (by simpa using hne)]
  refine forall_mem_between ?_ (List.forall_mem_map.mpr fun f hf => .start ?_) (forall_mem_between ?_
    (List.forall_mem_map.mpr fun f hf => .start ?_) ?_)
  · exact List.forall_mem_cons.mpr ⟨.empty, List.forall_mem_singleton.mpr (.copyWith
      (List.not_mem_append (List.not_mem_append (by decide) hn) (by decide)) (List.suffix_append _ _))⟩
  · have htype : '\n' ∉ f.copyType suffix := Field.notMem_copyType hs (by decide) (hfs f hf).newline
    exact .append (.append (.append (.append (by decide) htype) (by decide)) (hfs f hf).name.newline_notMem)
      (by decide)
  · exact List.forall_mem_cons.mpr ⟨.start (by decide),
      List.forall_mem_singleton.mpr (.start (.append (.append (by decide) hn) (by decide)))⟩
  · have hname := (hfs f hf).name.newline_notMem
    exact .append (.append (.append (.append (.append (.append (by decide) hname) (by decide)) hname)
      (by decide)) hname) (by decide)
  · exact List.forall_mem_cons.mpr ⟨.start (by decide), List.forall_mem_singleton.mpr (.start (by decide))⟩

theorem toMapLines_isLineOf (hfs : ∀ f ∈ fs, f.WellFormed) :
    ∀ l ∈ toMapLines fs, IsLineOf ["  Map", "    ", "  \x7d"] l := by
  refine forall_mem_between ?_ (List.forall_mem_map.mpr fun f hf => .start ?_) ?_
  · exact List.forall_mem_cons.mpr ⟨.empty, List.forall_mem_cons.mpr
      ⟨.start (by decide), List.forall_mem_singleton.mpr (.start (by decide))⟩⟩
  · exact .append (.append (.append (.append (by decide) (hfs f hf).key) (by decide))
      (hfs f hf).newline_notMem_encodeExpr) (by decide)
  · exact List.forall_mem_cons.mpr ⟨.start (by decide), List.forall_mem_singleton.mpr (.start (by decide))⟩

theorem toJsonLines_isLineOf : ∀ l ∈ toJsonLines, IsLineOf ["  String toJson"] l :=
  List.forall_mem_cons.mpr ⟨.empty, List.forall_mem_singleton.mpr (.start (by decide))⟩

theorem toStringLines_isLineOf (hn : '\n' ∉ name) (hfs : ∀ f ∈ fs, f.WellFormed) :
    ∀ l ∈ toStringLines name fs, IsLineOf ["  @override", "  String toString"] l :=
  List.forall_mem_cons.mpr ⟨.empty, List.forall_mem_cons.mpr ⟨.start (by decide),
    List.forall_mem_singleton.mpr (.start (.append (.append (.append (.append (by decide) hn) (by decide))
      (newline_notMem_shown hfs)) (by decide)))⟩⟩

theorem propsLines_isLineOf (hfs : ∀ f ∈ fs, f.WellFormed) :
    ∀ l ∈ propsLines fs, IsLineOf ["  @override", "  List"] l :=
  List.forall_mem_cons.mpr ⟨.empty, List.forall_mem_cons.mpr ⟨.start (by decide),
    List.forall_mem_singleton.mpr
      (.start (.append (.append (by decide) (newline_notMem_listed hfs)) (by decide)))⟩⟩

theorem equalsLines_isLineOf (hn : '\n' ∉ name) (hfs : ∀ f ∈ fs, f.WellFormed) :
    ∀ l ∈ equalsLines name fs, IsLineOf ["  @override", "  bool", "    ", "  \x7d"] l := by
  refine forall_mem_between ?_ (forall_mem_endLines (List.forall_mem_cons.mpr ⟨?_, ?_⟩))
    (List.forall_mem_singleton.mpr (.start (by decide)))
  · exact List.forall_mem_cons.mpr ⟨.empty, List.forall_mem_cons.mpr ⟨.start (by decide),
      List.forall_mem_cons.mpr ⟨.start (by decide), List.forall_mem_cons.mpr ⟨.start (by decide),
        List.forall_mem_singleton.mpr .empty⟩⟩⟩⟩
  · have hother : StartsIn ["  @override", "  bool", "    ", "  \x7d"] ("    return other is ".toList ++ name) :=
      .append (by decide) hn
    exact ⟨.start (hother.append (by decide)), .start (hother.append (by decide))⟩
  · refine List.forall_mem_map.mpr fun f hf => ?_
    have hname := (hfs f hf).name.newline_notMem
    have hcompared : StartsIn ["  @override", "  bool", "    ", "  \x7d"] f.comparison :=
      .append (.append (.append (by decide) hname) (by decide)) hname
    exact ⟨.start (hcompared.append (by decide)), .start (hcompared.append (by decide))⟩

theorem hashCodeLines_isLineOf (hfs : ∀ f ∈ fs, f.WellFormed) :
    ∀ l ∈ hashCodeLines fs, IsLineOf ["  @override", "  int", "    "] l := by
  refine forall_mem_between ?_ (List.forall_mem_map.mpr fun f hf => .start ?_)
    (List.forall_mem_singleton.mpr (.start (by decide)))
  · exact List.forall_mem_cons.mpr ⟨.empty, List.forall_mem_cons.mpr ⟨.start (by decide),
      List.forall_mem_singleton.mpr (.start (by decide))⟩⟩
  · exact .append (.append (by decide) (hfs f hf).name.newline_notMem) (by decide)

end TransferClass

end DartTransfer

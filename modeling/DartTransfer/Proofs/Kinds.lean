import Mathlib.Data.List.Forall2
import DartTransfer.Proofs.Directives
import DartTransfer.Proofs.Resolved

/-!
# What kind of value a field holds

The kind of a field is decided by its comments first and by its type then. A comment that is the enum
marker makes the value an enum value, whichever of the field's comments it is and whatever the type is.
Without one, the base name of the type (`BaseName`: the name behind the library and ahead of the
arguments) says whether the value is taken as it is or belongs to another class
(`Generation.kinds_resolved`).
-/

namespace DartTransfer

/-! ### Base names -/

/-- `base` is the name in `library.base<arguments>`, where the library and the arguments may be missing. -/
def BaseName (type base : Text) : Prop :=
  ∃ library arguments : Text, type = library ++ base ++ arguments ∧ (∀ c ∈ library.getLast?, c = '.') ∧
    '.' ∉ base ∧ '<' ∉ library ++ base ∧ ∀ c ∈ arguments.head?, c = '<'

section
variable {type base : Text}

theorem Text.IsType.baseTypeName_eq (h : type.IsType) :
    baseTypeName type = (splitEnd (· != '.') (type.takeWhile (· != '<'))).2 := by
  have hblank : ∀ c ∈ type.takeWhile (· != '<'), isBlank c = false :=
    fun c hc => isBlank_of_isTypePart (h.parts c hc)
  have htrimmed : IsTrimmed (type.takeWhile (· != '<')) :=
    ⟨fun c hc => hblank c (List.mem_of_head? hc), fun c hc => hblank c (List.mem_of_getLast? hc)⟩
  rw [baseTypeName, htrimmed.trim_eq]

theorem baseTypeName_eq_iff (h : type.IsType) : baseTypeName type = base ↔ BaseName type base := by
  rw [h.baseTypeName_eq]
  constructor
  · rintro rfl
    have hfront := Text.splitEnd_append (· != '.') (type.takeWhile (· != '<'))
    refine ⟨(Text.splitEnd (· != '.') (type.takeWhile (· != '<'))).1, type.dropWhile (· != '<'), ?_, ?_, ?_,
      ?_, ?_⟩
    · rw [hfront, List.takeWhile_append_dropWhile]
    · exact fun c hc => bne_eq_false_iff_eq.mp (Text.splitEnd_fst_getLast? (p := (· != '.')) hc)
    · exact fun hc => bne_iff_ne.mp (Text.splitEnd_snd_all (p := (· != '.')) hc) rfl
    · rw [hfront]
      exact fun hc => bne_iff_ne.mp (Text.takeWhile_all (p := (· != '<')) hc) rfl
    · exact fun c hc => bne_eq_false_iff_eq.mp (Text.head?_dropWhile (p := (· != '<')) hc)
  · rintro ⟨library, arguments, rfl, hlibrary, hbase, hfront, harguments⟩
    have hopen : ∀ c ∈ library ++ base, (c != '<') = true :=
      fun c hc => bne_iff_ne.mpr fun e => hfront (e ▸ hc)
    have hdot : ∀ c ∈ base, (c != '.') = true := fun c hc => bne_iff_ne.mpr fun e => hbase (e ▸ hc)
    rw [Text.takeWhile_run hopen fun c hc => bne_eq_false_iff_eq.mpr (harguments c hc),
      Text.splitEnd_run (fun c hc => bne_eq_false_iff_eq.mpr (hlibrary c hc)) hdot]

theorem existsUnique_baseName (h : type.IsType) : ∃! base, BaseName type base :=
  ⟨baseTypeName type, (baseTypeName_eq_iff h).mp rfl, fun _ hbase => ((baseTypeName_eq_iff h).mpr hbase).symm⟩

end

/-! ### Kinds -/

theorem Metadata.isEnum_iff (comments : List Text) :
    (ofComments comments).isEnum = true ↔ ∃ m ∈ comments, Directive.IsEnumMarker m := by
  rw [ofComments, List.contains_iff_mem, List.mem_filterMap]
  simp only [Directive.parse?_eq_enumMarker_iff]

theorem ValueKind.ofType_eq (type : Text) :
    ofType type = if baseTypeName type ∈ builtinTypes then plain else nested := by
  simp only [ofType, List.contains_iff_mem]

/-- One of the comments that belong to the field marks it as enum-valued. -/
def DeclaredField.IsMarkedEnum (d : DeclaredField) : Prop :=
  ∃ m ∈ d.leading ++ d.trailing, Directive.IsEnumMarker m

/-- What a declared field with comments is made into: the marker comes first, then the type. -/
structure ResolvesKind (d : DeclaredField) (f : Field) : Prop where
  name : f.name = d.name
  type : f.type = d.type
  base : ∃! base, BaseName f.type base
  enumerated : f.kind = .enumerated ↔ d.IsMarkedEnum
  plain : ∀ base, BaseName f.type base → (f.kind = .plain ↔ ¬ d.IsMarkedEnum ∧ base ∈ builtinTypes)
  nested : ∀ base, BaseName f.type base → (f.kind = .nested ↔ ¬ d.IsMarkedEnum ∧ base ∉ builtinTypes)

theorem DeclaredField.kind_resolve (o : Options) (k : Option Constructor) (d : DeclaredField) :
    (d.resolve o k).kind =
      if (Metadata.ofComments d.comments).isEnum then .enumerated else .ofType d.type := rfl

theorem DeclaredField.resolvesKind (o : Options) (k : Option Constructor) {d : DeclaredField}
    (h : d.type.IsType) : ResolvesKind d (d.resolve o k) := by
  have hmarked : (Metadata.ofComments d.comments).isEnum = true ↔ d.IsMarkedEnum := Metadata.isEnum_iff _
  have hkind := d.kind_resolve o k
  by_cases hm : d.IsMarkedEnum
  · rw [if_pos (hmarked.mpr hm)] at hkind
    refine ⟨rfl, rfl, existsUnique_baseName h, ?_, fun base _ => ?_, fun base _ => ?_⟩
    · exact iff_of_true hkind hm
    · exact iff_of_false (by rw [hkind]; exact nofun) fun hp => hp.1 hm
    · exact iff_of_false (by rw [hkind]; exact nofun) fun hp => hp.1 hm
  · rw [if_neg (fun he => hm (hmarked.mp he)), ValueKind.ofType_eq] at hkind
    refine ⟨rfl, rfl, existsUnique_baseName h, ?_, fun base hbase => ?_, fun base hbase => ?_⟩
    · refine iff_of_false ?_ hm
      rw [hkind]
      split <;> exact nofun
    · rw [hkind, and_iff_right hm, (baseTypeName_eq_iff h).mpr hbase]
      by_cases hb : base ∈ builtinTypes <;> simp [hb]
    · rw [hkind, and_iff_right hm, (baseTypeName_eq_iff h).mpr hbase]
      by_cases hb : base ∈ builtinTypes <;> simp [hb]

namespace Generation
variable {t : Text} {o : Options} {g : Generation} {c : DataClass}

/-- The fields of a generated class are the declared fields of a located class, one by one. Such a field
is enum-valued exactly when one of the comments that belong to it is the enum marker; otherwise the base
name of its type decides between a plain and a nested value. -/
theorem kinds_resolved (h : generate t o = .ok g) (hc : c ∈ g.classes) :
    ∃ s ∈ SourceClass.locate o.discovery t, s.name = c.name ∧ s.span = c.span ∧
      List.Forall₂ ResolvesKind (s.declaredFields o.extraction) c.fields := by
  obtain ⟨s, hs, hof⟩ := exists_source h hc
  obtain ⟨hname, hspan, -, hfields, -⟩ := DataClass.ofSource?_eq_some hof
  refine ⟨s, hs, hname.symm, hspan.symm, ?_⟩
  rw [hfields, List.forall₂_map_right_iff, List.forall₂_same]
  exact fun d hd => d.resolvesKind o _ (s.declaredFields_wellRead o.extraction d hd).type

/-- A field with the marker above its own comment, one with nearly a marker, and one with arguments. -/
def threeKinds : Text := "class A {
  // tYPE : eNUM
  /// About the kind.
  final core.Kind? kind;
  final core.int count; // Type: enums
  final my.Page<core.int> page;
}
"

theorem kinds_resolved_threeKinds :
    ∃ g, generate threeKinds {} = .ok g ∧ ∃ c ∈ g.classes, ∃ s ∈ SourceClass.locate .single threeKinds,
      List.Forall₂ ResolvesKind (s.declaredFields .directiveAware) c.fields ∧
      c.fields.map (·.kind) = [.enumerated, .plain, .nested] := by
  obtain ⟨g, hg, hp⟩ := exists_generation_of_any (t := threeKinds) (o := {})
    (p := fun g => g.classes.any fun c => c.fields.map (·.kind) == [.enumerated, .plain, .nested])
    (by decide +kernel)
  obtain ⟨c, hc, hp⟩ := List.any_eq_true.mp hp
  obtain ⟨s, hs, -, -, hfields⟩ := kinds_resolved hg hc
  exact ⟨g, hg, c, hc, s, hs, hfields, beq_iff_eq.mp hp⟩

/-- A field of a built-in type with the marker behind it. -/
def markedString : Text := "class A {
  final String s; // Type: enum
}
"

/-- The marker makes an enum value of a built-in type too. -/
theorem enumerated_markedString :
    ∃ g, generate markedString {} = .ok g ∧ ∃ c ∈ g.classes, ∃ f ∈ c.fields,
      BaseName f.type "String" ∧ "String".toList ∈ builtinTypes ∧ f.kind = .enumerated := by
  obtain ⟨g, hg, hp⟩ := exists_generation_of_any (t := markedString) (o := {})
    (p := fun g => g.classes.any fun c => c.fields.any fun f =>
      baseTypeName f.type == "String" && f.kind == .enumerated) (by decide +kernel)
  obtain ⟨c, hc, hp⟩ := List.any_eq_true.mp hp
  obtain ⟨f, hf, hp⟩ := List.any_eq_true.mp hp
  rw [Bool.and_eq_true, beq_iff_eq, beq_iff_eq] at hp
  have htype := ((classes_wellFormed hg c hc).fields f hf).type
  exact ⟨g, hg, c, hc, f, hf, (baseTypeName_eq_iff htype).mp hp.1, by decide, hp.2⟩

end Generation

end DartTransfer

import DartTransfer.Proofs.Conversions
import DartTransfer.Proofs.Kinds
import DartTransfer.Proofs.ReadBack

/-!
# References between generated classes

The companion of a type and the class that is generated for it are named apart. The suffix goes into a type ahead of
its arguments, and the base name of a type is what stands behind the last dot ahead of them; since a suffix has
neither a dot nor a bracket, the base name of the companion is the base name with the suffix, in the same library and
with the same arguments (`HasParts.companionType`). So a field of a nested type refers to the class that is generated
for the class of that name, and to no other (`Generation.nested_references`).
-/

namespace DartTransfer

variable {type library base arguments suffix : Text}

/-! ### The parts of a type -/

/-- A type is a library with its dot, a base name, and arguments in brackets; the first and the last may be missing. -/
structure HasParts (type library base arguments : Text) : Prop where
  append : type = library ++ base ++ arguments
  library_end : ∀ c ∈ library.getLast?, c = '.'
  base_plain : '.' ∉ base
  front_plain : '<' ∉ library ++ base
  arguments_start : ∀ c ∈ arguments.head?, c = '<'

theorem Text.IsType.exists_hasParts (h : type.IsType) :
    ∃ library arguments, HasParts type library (baseTypeName type) arguments := by
  obtain ⟨library, arguments, happend, hlibrary, hbase, hfront, harguments⟩ := (baseTypeName_eq_iff h).mp rfl
  exact ⟨library, arguments, happend, hlibrary, hbase, hfront, harguments⟩

theorem HasParts.baseTypeName_eq (h : HasParts type library base arguments) (ht : type.IsType) :
    baseTypeName type = base :=
  (baseTypeName_eq_iff ht).mpr
    ⟨library, arguments, h.append, h.library_end, h.base_plain, h.front_plain, h.arguments_start⟩

/-- The suffix goes to the base name, which stays free of dots and brackets. -/
theorem HasParts.companionType (h : HasParts type library base arguments)
    (hs : ∀ c ∈ suffix, isIdentifierPart c = true) :
    HasParts (companionType type suffix) library (base ++ suffix) arguments where
  append := by
    have hopen : ∀ c ∈ library ++ base, (c != '<') = true := fun c hc => bne_iff_ne.mpr fun e => h.front_plain (e ▸ hc)
    have harguments : ∀ c ∈ arguments.head?, (c != '<') = false :=
      fun c hc => bne_eq_false_iff_eq.mpr (h.arguments_start c hc)
    rw [DartTransfer.companionType, h.append, Text.takeWhile_run hopen harguments,
      Text.dropWhile_run hopen harguments, List.append_assoc library]
  library_end := h.library_end
  base_plain := List.not_mem_append h.base_plain (Text.notMem_of_isIdentifierPart hs (by decide +kernel))
  front_plain := by
    rw [← List.append_assoc]
    exact List.not_mem_append h.front_plain (mark_notMem_suffix hs (by decide))
  arguments_start := h.arguments_start

theorem baseTypeName_companionType (hs : ∀ c ∈ suffix, isIdentifierPart c = true) (h : type.IsType) :
    baseTypeName (companionType type suffix) = baseTypeName type ++ suffix := by
  obtain ⟨library, arguments, hparts⟩ := h.exists_hasParts
  exact (hparts.companionType hs).baseTypeName_eq (h.companionType hs)

/-! ### What a field refers to -/

namespace Field
variable {f : Field}

/-- The generated field is of the type, and its value is read by the type's `fromMap`. -/
structure RefersTo (f : Field) (type suffix : Text) : Prop where
  declared : f.generatedType suffix = type ++ (if f.nullable && type != "dynamic" then "?" else "" : Text)
  decoded : f.decodeExpr suffix =
    f.mapAccess ++ " != null ? " ++ type ++ ".fromMap(" ++ f.mapAccess ++ ") : " ++ f.nullFallback

theorem refersTo_companionType (hkind : f.kind = .nested) (htemplates : f.templates = {}) (suffix : Text) :
    f.RefersTo (companionType f.type suffix) suffix := by
  cases converts (.inr htemplates) suffix with
  | custom d e h => exact absurd (h.symm.trans htemplates) nofun
  | enumerated _ h => exact absurd (h.symm.trans hkind) nofun
  | plain _ h => exact absurd (h.symm.trans hkind) nofun
  | nested _ _ hdecode _ htype =>
    refine ⟨?_, hdecode⟩
    rw [generatedType_eq, isMarked, htype]

theorem plainType_of_not_nested (h : ¬ (f.kind = .nested ∧ f.templates = {})) (suffix : Text) :
    f.plainType suffix = f.type := by
  rw [plainType, isNested]
  refine if_neg fun hif => h ?_
  rw [Bool.and_eq_true, beq_iff_eq, Templates.isEmpty_iff] at hif
  exact hif

end Field

namespace Generation
variable {o : Options}

/-- The companion of a declared type has the name of the class generated for its base name, in the same library and
with the same arguments. So a field of a nested type without templates is declared and read by that name, which is
the name of the class generated for a source class exactly when the source class is the one that the field's type
names; every other field keeps its declared type. -/
theorem nested_references (hs : isIdentifierTail o.suffix = true) :
    (∀ line d, Declaration.parse? line = some d →
      baseTypeName (companionType d.type o.suffix) = TransferClass.nameFor (baseTypeName d.type) o ∧
      ∃ library arguments, HasParts d.type library (baseTypeName d.type) arguments ∧
        HasParts (companionType d.type o.suffix) library (TransferClass.nameFor (baseTypeName d.type) o) arguments) ∧
    ∀ t g, generate t o = .ok g → ∀ c ∈ g.classes, ∀ f ∈ c.fields,
      (f.kind = .nested ∧ f.templates = {} → f.RefersTo (companionType f.type o.suffix) o.suffix) ∧
      (¬ (f.kind = .nested ∧ f.templates = {}) → f.plainType o.suffix = f.type) ∧
      ∀ c' ∈ g.classes,
        (baseTypeName (companionType f.type o.suffix) = TransferClass.nameFor c'.name o ↔
          baseTypeName f.type = c'.name) ∧
        ∃ s, SourceClass.first? (TransferClass.render c' o) = some s ∧ s.name = TransferClass.nameFor c'.name o := by
  have hpart := isIdentifierPart_of_isIdentifierTail hs
  constructor
  · intro line d hline
    obtain ⟨_, _, _, hread⟩ := Declaration.parse?_eq_some_iff.mp hline
    obtain ⟨library, arguments, hparts⟩ := hread.type.exists_hasParts
    exact ⟨baseTypeName_companionType hpart hread.type, library, arguments, hparts, hparts.companionType hpart⟩
  · intro t g hg c hc f hf
    have htype := ((classes_wellFormed hg c hc).fields f hf).type
    refine ⟨fun h => Field.refersTo_companionType h.1 h.2 o.suffix,
      fun h => Field.plainType_of_not_nested h o.suffix, fun c' hc' => ⟨?_, ?_⟩⟩
    · rw [baseTypeName_companionType hpart htype, TransferClass.nameFor, List.append_left_inj]
    · obtain ⟨s, hfirst, hname, -⟩ := TransferClass.first?_render
        (TransferClass.nameFor_isIdentifier (classes_wellFormed hg c' hc') hpart)
      exact ⟨s, hfirst, hname⟩

/-- A reference with a library, and with arguments that have dots and brackets of their own. -/
def pagedList : Text := "class Page \x7b
  final int n;
\x7d
class Shelf \x7b
  final my.Page<core.Map<a.B, C>>? page;
\x7d
"

theorem nested_references_pagedList :
    (∃ d, Declaration.parse? "  final my.Page<core.Map<a.B, C>>? page;" = some d ∧ ∃ library arguments,
      HasParts d.type library "Page" arguments ∧ HasParts (companionType d.type "DTO") library "PageDTO" arguments) ∧
    ∃ g, generate pagedList { discovery := .multi } = .ok g ∧ ∃ c ∈ g.classes, ∃ f ∈ c.fields, ∃ c' ∈ g.classes,
      f.type = "my.Page<core.Map<a.B, C>>".toList ∧ c'.name = "Page".toList ∧
      f.RefersTo "my.PageDTO<core.Map<a.B, C>>" "DTO" ∧
      baseTypeName "my.PageDTO<core.Map<a.B, C>>" = "PageDTO".toList ∧
      ∃ s, SourceClass.first? (TransferClass.render c' { discovery := .multi }) = some s ∧
        s.name = "PageDTO".toList := by
  obtain ⟨hdeclared, hrun⟩ := nested_references (o := { discovery := .multi }) (by decide)
  constructor
  · have hline : Declaration.parse? "  final my.Page<core.Map<a.B, C>>? page;" =
        some ⟨"my.Page<core.Map<a.B, C>>", "page", true, true, []⟩ := by decide +kernel
    have hbase : baseTypeName "my.Page<core.Map<a.B, C>>" = "Page".toList := by decide +kernel
    obtain ⟨-, library, arguments, htype, hcompanion⟩ := hdeclared _ _ hline
    rw [hbase] at htype hcompanion
    exact ⟨_, hline, library, arguments, htype, hcompanion⟩
  · obtain ⟨g, hg, hp⟩ := exists_generation_of_any (t := pagedList) (o := { discovery := .multi })
      (p := fun g => g.classes.any fun c => c.fields.any fun f => g.classes.any fun c' =>
        f.type == "my.Page<core.Map<a.B, C>>" && f.kind == .nested && f.templates == {} && c'.name == "Page")
      (by decide +kernel)
    obtain ⟨c, hc, hp⟩ := List.any_eq_true.mp hp
    obtain ⟨f, hf, hp⟩ := List.any_eq_true.mp hp
    obtain ⟨c', hc', hp⟩ := List.any_eq_true.mp hp
    simp only [Bool.and_eq_true, beq_iff_eq] at hp
    obtain ⟨⟨⟨htype, hkind⟩, htemplates⟩, hname⟩ := hp
    obtain ⟨hrefers, -, hclasses⟩ := hrun _ g hg c hc f hf
    obtain ⟨hiff, s, hfirst, hs⟩ := hclasses c' hc'
    have hrefers := hrefers ⟨hkind, htemplates⟩
    have hbase : baseTypeName f.type = c'.name := by
      rw [htype, hname]
      decide +kernel
    have hreference := hiff.mpr hbase
    rw [htype] at hrefers hreference
    rw [hname] at hreference hs
    exact ⟨g, hg, c, hc, f, hf, c', hc', htype, hname, hrefers, hreference, s, hfirst, hs⟩

end Generation

end DartTransfer

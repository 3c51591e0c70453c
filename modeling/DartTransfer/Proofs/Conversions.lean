import Mathlib.Data.List.TakeWhile
import DartTransfer.Proofs.Emission

/-!
# How a field is converted

The expression that reads a field, the one that writes it and its type are chosen each on its own, yet
for one and the same way of conversion (`Field.Converts`): templates come in pairs, and without them the
kind of the value decides. The types take their `?` from the nullability alone, unless the name of a
companion brings a `?` of its own, which only a suffix can do (`Generation.conversions_agree`).
-/

namespace DartTransfer

/-- A directive that gives one of the two templates gives both. -/
theorem Metadata.templates_cases (comments : List Text) :
    (∃ d e, (ofComments comments).templates = ⟨some d, some e⟩) ∨ (ofComments comments).templates = {} := by
  show (∃ d e, ((comments.filterMap Directive.parse?).findSome? Templates.ofDirective?).getD {} = _) ∨
    ((comments.filterMap Directive.parse?).findSome? Templates.ofDirective?).getD {} = {}
  cases h : (comments.filterMap Directive.parse?).findSome? Templates.ofDirective? with
  | none => exact .inr rfl
  | some templates =>
    obtain ⟨directive, -, hof⟩ := List.exists_of_findSome?_eq_some h
    cases directive with
    | enumMarker => exact absurd hof nofun
    | parsing d e => exact .inl ⟨d, e, (Option.some.inj hof).symm⟩

theorem Templates.isEmpty_iff {t : Templates} : t.isEmpty = true ↔ t = {} := by
  cases t
  simp [isEmpty]

theorem companionType_of_notMem {type : Text} (h : '<' ∉ type) (suffix : Text) :
    companionType type suffix = type ++ suffix := by
  have hall : ∀ c ∈ type, (c != '<') = true := fun c hc => bne_iff_ne.mpr fun e => h (e ▸ hc)
  rw [companionType, List.takeWhile_eq_self_iff.mpr hall, List.dropWhile_eq_nil_iff.mpr hall,
    List.append_nil]

theorem getLast?_companionType_of_mem {type : Text} (h : '<' ∈ type) (suffix : Text) :
    (companionType type suffix).getLast? = type.getLast? := by
  have hne : type.dropWhile (· != '<') ≠ [] := by
    intro e
    exact absurd (List.dropWhile_eq_nil_iff.mp e '<' h) (by decide)
  rw [companionType, List.getLast?_append_of_ne_nil _ hne, ← Text.IsType.append type,
    List.getLast?_append_of_ne_nil _ hne, Text.IsType.append type]

/-- The text ends in one `?` and no more. -/
def Text.endsInMark (t : Text) : Bool := t.getLast? == some '?' && t.dropLast.getLast? != some '?'

theorem Text.endsInMark_concat (t : Text) : (t ++ ['?']).endsInMark = (t.getLast? != some '?') := by
  simp [endsInMark]

theorem Text.endsInMark_of_getLast?_ne {t : Text} (h : t.getLast? ≠ some '?') : t.endsInMark = false := by
  rw [endsInMark, beq_eq_false_iff_ne.mpr h, Bool.false_and]

namespace Field
variable {f : Field} {suffix : Text}

/-- The ways of conversion; under each of them reading, writing and the type fit together. -/
inductive Converts (f : Field) (suffix : Text) : Prop
  /-- Both templates are there and are filled in. -/
  | custom (d e : Text) (templates : f.templates = ⟨some d, some e⟩)
      (decode : f.decodeExpr suffix = substitute d f.mapAccess)
      (encode : f.encodeExpr = substitute e f.name)
      (type : f.plainType suffix = f.type)
  /-- The value goes through the two functions that its name stands for. -/
  | enumerated (templates : f.templates = {}) (kind : f.kind = .enumerated)
      (decode : f.decodeExpr suffix = f.name ++ "FromString(" ++ f.mapAccess ++ ")")
      (encode : f.encodeExpr = f.name ++ "ToString(" ++ f.name ++ ")")
      (type : f.plainType suffix = f.type)
  /-- The value is of the companion, which has `fromMap` and `toMap`. -/
  | nested (templates : f.templates = {}) (kind : f.kind = .nested)
      (decode : f.decodeExpr suffix = f.mapAccess ++ " != null ? " ++ companionType f.type suffix ++
        ".fromMap(" ++ f.mapAccess ++ ") : " ++
          (if f.nullable then "null" else "throw ArgumentError.notNull('" ++ f.key ++ "')" : Text))
      (encode : f.encodeExpr = f.name ++ (if f.nullable then "?.toMap()" else ".toMap()" : Text))
      (type : f.plainType suffix = companionType f.type suffix)
  /-- The value is taken as it is. -/
  | plain (templates : f.templates = {}) (kind : f.kind = .plain)
      (decode : f.decodeExpr suffix = f.mapAccess) (encode : f.encodeExpr = f.name)
      (type : f.plainType suffix = f.type)

theorem converts (h : (∃ d e, f.templates = ⟨some d, some e⟩) ∨ f.templates = {}) (suffix : Text) :
    f.Converts suffix := by
  rcases h with ⟨d, e, h⟩ | h
  · refine .custom d e h ?_ ?_ ?_
    · rw [decodeExpr, h]; rfl
    · rw [encodeExpr, h]; rfl
    · rw [plainType, h]; simp [Templates.isEmpty]
  · have hdecode (source : Text) : f.templates.decodeOf source = none := by rw [h]; rfl
    have hencode (source : Text) : f.templates.encodeOf source = none := by rw [h]; rfl
    cases hk : f.kind with
    | plain =>
      refine .plain h hk ?_ ?_ ?_
      · rw [decodeExpr, hdecode, hk]
      · rw [encodeExpr, hencode, hk]
      · rw [plainType, isNested, hk]; rfl
    | enumerated =>
      refine .enumerated h hk ?_ ?_ ?_
      · rw [decodeExpr, hdecode, hk]
      · rw [encodeExpr, hencode, hk]
      · rw [plainType, isNested, hk]; rfl
    | nested =>
      refine .nested h hk ?_ ?_ ?_
      · rw [decodeExpr, hdecode, hk]
        rfl
      · rw [encodeExpr, hencode, hk]
        cases f.nullable <;> rfl
      · rw [plainType, isNested, hk, h]; rfl

/-- The parameter of the constructor may be left out exactly when the field takes null. -/
theorem required_parameterLine_eq_none_iff (f : Field) :
    Text.wordAt? "required" none (Text.trimStart f.parameterLine) = none ↔ f.nullable = true := by
  rw [parameterLine]
  cases f.nullable with
  | true => exact iff_of_true rfl rfl
  | false =>
    refine iff_of_false (Option.ne_none_iff_exists'.mpr ⟨" this.".toList ++ f.name ++ ",".toList, ?_⟩)
      Bool.false_ne_true
    have hnext : (" this.".toList ++ f.name ++ ",".toList).head? = some ' ' := rfl
    refine Text.wordAt?_eq_some_iff.mpr ⟨rfl, rfl, ?_⟩
    rw [hnext, Option.any_some]
    exact isWord_of_isBlank (by decide)

/-- Where null is taken, and only there, the types of the field and of the parameter of `copyWith` have
one `?` behind them; `dynamic` takes null as it is. -/
structure MarksAgree (f : Field) (suffix : Text) : Prop where
  generated : (f.generatedType suffix).endsInMark = true ↔
    f.nullable = true ∧ f.plainType suffix ≠ "dynamic".toList
  copied : f.plainType suffix = "dynamic".toList ∧ f.copyType suffix = "dynamic".toList ∨
    f.copyType suffix = f.plainType suffix ++ "?" ∧ (f.copyType suffix).endsInMark = true

theorem generatedType_of_isMarked (h : f.isMarked suffix = true) :
    f.generatedType suffix = f.plainType suffix ++ ['?'] := by
  rw [generatedType_eq, h]
  rfl

theorem generatedType_of_not_isMarked (h : f.isMarked suffix = false) :
    f.generatedType suffix = f.plainType suffix := by
  rw [generatedType_eq, h, if_neg Bool.false_ne_true]
  exact List.append_nil _

theorem isMarked_iff : f.isMarked suffix = true ↔
    f.nullable = true ∧ f.plainType suffix ≠ "dynamic".toList := by
  rw [isMarked, Bool.and_eq_true, bne_iff_ne]

/-- The types are right whenever the type less its own `?` has none. -/
theorem marksAgree_iff (f : Field) (suffix : Text) :
    f.MarksAgree suffix ↔ (f.plainType suffix).getLast? ≠ some '?' := by
  constructor
  · intro ⟨hgenerated, hcopied⟩ hlast
    have hdynamic : f.plainType suffix ≠ "dynamic".toList := by
      intro e
      rw [e] at hlast
      exact absurd hlast (by decide)
    cases hm : f.isMarked suffix with
    | true =>
      -- a second `?`
      have htwo := hgenerated.mpr (isMarked_iff.mp hm)
      rw [generatedType_of_isMarked hm, Text.endsInMark_concat, hlast] at htwo
      exact absurd htwo (by decide)
    | false =>
      -- a `?` where none is due, which `copyWith` takes for its own
      rw [copyType, generatedType_of_not_isMarked hm, hlast] at hcopied
      rcases hcopied with ⟨e, -⟩ | ⟨e, -⟩
      · exact hdynamic e
      · exact absurd (congrArg List.length e) (by simp)
  · intro hlast
    have hone := Text.endsInMark_concat (f.plainType suffix)
    rw [bne_iff_ne.mpr hlast] at hone
    cases hm : f.isMarked suffix with
    | true =>
      refine ⟨iff_of_true ?_ (isMarked_iff.mp hm), .inr ?_⟩
      · rw [generatedType_of_isMarked hm]
        exact hone
      · rw [copyType, generatedType_of_isMarked hm, List.getLast?_concat]
        exact ⟨rfl, hone⟩
    | false =>
      refine ⟨iff_of_false ?_ fun h => ?_, ?_⟩
      · rw [generatedType_of_not_isMarked hm, Text.endsInMark_of_getLast?_ne hlast]
        exact Bool.false_ne_true
      · rw [isMarked_iff.mpr h] at hm
        exact Bool.noConfusion hm
      · rw [copyType, generatedType_of_not_isMarked hm, beq_eq_false_iff_ne.mpr hlast]
        by_cases hdynamic : f.plainType suffix = "dynamic".toList
        · exact .inl ⟨hdynamic, by rw [hdynamic]; rfl⟩
        · rw [beq_eq_false_iff_ne.mpr hdynamic]
          exact .inr ⟨rfl, hone⟩

/-- Only the name of a companion may bring a `?`, where the suffix has one and ends the type. -/
theorem getLast?_plainType_eq_mark_iff (h : f.type.IsType) :
    (f.plainType suffix).getLast? = some '?' ↔
      f.kind = .nested ∧ f.templates = {} ∧ '<' ∉ f.type ∧ suffix.getLast? = some '?' := by
  have hcompanion : (f.isNested && f.templates.isEmpty) = true ↔ f.kind = .nested ∧ f.templates = {} := by
    rw [Bool.and_eq_true, isNested, beq_iff_eq, Templates.isEmpty_iff]
  rw [plainType, ← and_assoc, ← hcompanion]
  split
  · next hif =>
    rw [and_iff_right hif]
    by_cases hargs : '<' ∈ f.type
    · refine iff_of_false ?_ fun hs => hs.1 hargs
      rw [getLast?_companionType_of_mem hargs]
      exact h.getLast?_ne_mark
    · rw [companionType_of_notMem hargs, and_iff_right hargs]
      cases suffix with
      | nil =>
        rw [List.append_nil]
        exact iff_of_false h.getLast?_ne_mark (Option.some_ne_none '?').symm
      | cons c s => rw [List.getLast?_append_of_ne_nil _ (List.cons_ne_nil c s)]
  · next hif => exact iff_of_false h.getLast?_ne_mark fun hs => hif hs.1

end Field

namespace Generation
variable {t : Text} {o : Options} {g : Generation} {c : DataClass} {f : Field}

theorem templates_cases (h : generate t o = .ok g) (hc : c ∈ g.classes) (hf : f ∈ c.fields) :
    (∃ d e, f.templates = ⟨some d, some e⟩) ∨ f.templates = {} := by
  obtain ⟨d, k, rfl⟩ := exists_resolve h hc hf
  exact Metadata.templates_cases d.comments

/-- Each field of a generated class is read, written and typed by one way of conversion. It may be left
out of the constructor exactly when it takes null, and its types say as much by one `?` unless the type
is the bare name of a companion whose suffix ends in a `?`. -/
theorem conversions_agree (h : generate t o = .ok g) (hc : c ∈ g.classes) (hf : f ∈ c.fields) :
    f.Converts o.suffix ∧
      (Text.wordAt? "required" none (Text.trimStart f.parameterLine) = none ↔ f.nullable = true) ∧
      f.generatedType o.suffix = f.plainType o.suffix ++
        (if f.nullable && f.plainType o.suffix != "dynamic" then "?" else "" : Text) ∧
      (f.MarksAgree o.suffix ↔
        ¬(f.kind = .nested ∧ f.templates = {} ∧ '<' ∉ f.type ∧ o.suffix.getLast? = some '?')) := by
  have hwell := (classes_wellFormed h c hc).fields f hf
  refine ⟨Field.converts (templates_cases h hc hf) o.suffix, f.required_parameterLine_eq_none_iff,
    f.generatedType_eq o.suffix, ?_⟩
  rw [Field.marksAgree_iff, ← Field.getLast?_plainType_eq_mark_iff hwell.type]

/-- A field of a type with arguments, in front of which a suffix does not end the type. -/
def boxedField : Text := "class A {
  final Box<int>? box;
}
"

theorem conversions_agree_boxedField :
    ∃ g, generate boxedField { suffix := "?" } = .ok g ∧ ∃ c ∈ g.classes, ∃ f ∈ c.fields,
      f.type = "Box<int>".toList ∧ f.Converts "?" ∧ f.MarksAgree "?" := by
  obtain ⟨g, hg, hp⟩ := exists_generation_of_any (t := boxedField) (o := { suffix := "?" })
    (p := fun g => g.classes.any fun c => c.fields.any fun f => f.type == "Box<int>") (by decide +kernel)
  obtain ⟨c, hc, hp⟩ := List.any_eq_true.mp hp
  obtain ⟨f, hf, hp⟩ := List.any_eq_true.mp hp
  have htype : f.type = "Box<int>".toList := beq_iff_eq.mp hp
  obtain ⟨hconverts, -, -, hmarks⟩ := conversions_agree hg hc hf
  refine ⟨g, hg, c, hc, f, hf, htype, hconverts, hmarks.mpr fun hs => hs.2.2.1 ?_⟩
  rw [htype]
  decide

/-- A field whose type is a bare name. -/
def bareField : Text := "class A {
  final B b;
}
"

/-- Under a suffix that is a `?` the generated field has one without taking null. -/
theorem marked_bareField :
    ∃ g, generate bareField { suffix := "?" } = .ok g ∧ ∃ c ∈ g.classes, ∃ f ∈ c.fields,
      f.nullable = false ∧ (f.generatedType "?").endsInMark = true := by
  obtain ⟨g, hg, hp⟩ := exists_generation_of_any (t := bareField) (o := { suffix := "?" })
    (p := fun g => g.classes.any fun c => c.fields.any fun f =>
      !f.nullable && (f.generatedType "?").endsInMark) (by decide +kernel)
  obtain ⟨c, hc, hp⟩ := List.any_eq_true.mp hp
  obtain ⟨f, hf, hp⟩ := List.any_eq_true.mp hp
  rw [Bool.and_eq_true, Bool.not_eq_true'] at hp
  exact ⟨g, hg, c, hc, f, hf, hp⟩

end Generation

end DartTransfer

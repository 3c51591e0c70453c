import Mathlib.Data.List.Forall2
import DartTransfer.Proofs.Constructors
import DartTransfer.Proofs.Forms
import DartTransfer.Proofs.Generated

/-!
# What decides whether a field is nullable

A body is read in one way (`Constructor.Reading`): without a call of the class name, or as the names
that the parameters of its first call require. Under the policy of the constructor it is that reading
which decides about a field, and the `?` of its declaration where there is no call; under the policy of
the marker it is the `?` alone (`Generation.nullable_iff`).
-/

namespace DartTransfer

namespace Constructor
variable {name : Text}

/-! ### Readings -/

/-- How a body is read for the constructor of the class `name`: as one without a call of the name, or as
the names that the parameters of the first call require. -/
inductive Reading (name body : Text) : Option (List Text) → Prop
  | absent (h : Text.Nowhere (IsCall name) none body) : Reading name body none
  | present {ahead v after params : Text} {names : List Text}
      (first : Text.First (IsCall name) none body ahead v)
      (call : CallsAt name (Text.lastOr none ahead) v after) (extent : Parameters after params)
      (required : RequiredIn none params names) : Reading name body (some names)

theorem reading_find? (name body : Text) : Reading name body ((find? body name).map (·.required)) := by
  rw [find?]
  cases h : firstCall? name none body with
  | none => exact .absent (nowhere_of_firstCall?_eq_none h)
  | some after =>
    obtain ⟨ahead, v, first, call⟩ := firstCall?_eq_some h
    exact .present first call (upToClose_eq_iff.mp rfl) (requiredIn_requiredNames none _)

theorem Reading.find?_eq {body : Text} {reading : Option (List Text)} (h : Reading name body reading) :
    (find? body name).map (·.required) = reading := by
  cases h with
  | absent h => rw [find?, firstCall?_eq_none_iff.mpr h, Option.map_none, Option.map_none]
  | present first call extent required =>
    rw [find?, firstCall?_eq_some_iff.mpr ⟨_, _, first, call⟩, Option.map_some, Option.map_some,
      upToClose_eq_iff.mpr extent, required.unique (requiredIn_requiredNames none _)]

theorem find?_of_absent {body : Text} (h : Reading name body none) : find? body name = none :=
  Option.map_eq_none_iff.mp h.find?_eq

theorem find?_of_present {body : Text} {names : List Text} (h : Reading name body (some names)) :
    find? body name = some ⟨names⟩ := by
  obtain ⟨_, hfind, rfl⟩ := Option.map_eq_some_iff.mp h.find?_eq
  exact hfind

end Constructor

/-! ### The fields of a class -/

theorem DataClass.body_of_ofSource? {o : Options} {c : SourceClass} {d : DataClass}
    (h : ofSource? o c = some d) : d.body = c.body := by
  unfold ofSource? at h
  split at h
  · exact absurd h nofun
  · cases h
    rfl

/-- The lines that are read are written in accepted forms. -/
theorem Declaration.exists_forms (p : Declaration → Bool) (ls : List Text) : ∃ forms : List Form,
    (∀ form ∈ forms, form.Accepted) ∧ (forms.map (·.text)).Sublist ls ∧
      forms.map (·.declaration) = (ls.filterMap parse?).filter p := by
  induction ls with
  | nil => exact ⟨[], nofun, .slnil, rfl⟩
  | cons l ls ih =>
    obtain ⟨forms, haccepted, htexts, hforms⟩ := ih
    cases hd : parse? l with
    | none =>
      rw [List.filterMap_cons_none hd]
      exact ⟨forms, haccepted, htexts.cons l, hforms⟩
    | some d =>
      rw [List.filterMap_cons_some hd, List.filter_cons]
      split
      · obtain ⟨form, hform, rfl, rfl⟩ := parse?_eq_some_iff_form.mp hd
        exact ⟨form :: forms, List.forall_mem_cons.mpr ⟨hform, haccepted⟩, htexts.cons_cons _,
          congrArg (form.declaration :: ·) hforms⟩
      · exact ⟨forms, haccepted, htexts.cons l, hforms⟩

theorem SourceClass.exists_forms (c : SourceClass) (e : Extraction) : ∃ forms : List Declaration.Form,
    (∀ form ∈ forms, form.Accepted) ∧ (forms.map (·.text)).Sublist (Text.lines c.body) ∧
      List.Forall₂ (fun form f => DeclaredField.ofDeclaration form.declaration [] [] = f.bare) forms
        (c.declaredFields e) := by
  obtain ⟨p, hp⟩ : ∃ p : Declaration → Bool, (c.declaredFields e).map (·.bare) =
      (((Text.lines c.body).filterMap Declaration.parse?).filter p).map (.ofDeclaration · [] []) := by
    cases e with
    | directiveAware =>
      refine ⟨(·.isFinal), ?_⟩
      rw [List.filter_filterMap]
      exact map_bare_commentedFieldsAfter [] (Text.lines c.body)
    | permissive =>
      refine ⟨fun _ => true, ?_⟩
      rw [List.filter_true, List.map_filterMap, declaredFields, permissiveFields, List.map_filterMap]
      simp only [Option.map_map]
      rfl
  obtain ⟨forms, haccepted, htexts, hforms⟩ := Declaration.exists_forms p (Text.lines c.body)
  refine ⟨forms, haccepted, htexts, List.forall₂_map_left_iff.mp (List.forall₂_map_right_iff.mp ?_)⟩
  rw [hp, ← hforms, List.map_map]
  exact List.forall₂_refl _

namespace DeclaredField
variable {f : DeclaredField} {name body : Text}

theorem isNullable_of_absent (h : Constructor.Reading name body none) :
    f.isNullable (Constructor.find? body name) = f.isMarked := by
  rw [Constructor.find?_of_absent h]
  rfl

theorem isNullable_iff_of_present {names : List Text} (h : Constructor.Reading name body (some names)) :
    f.isNullable (Constructor.find? body name) = true ↔ f.name ∉ names := by
  rw [Constructor.find?_of_present h, isNullable, Constructor.requires, Bool.not_eq_true',
    ← Bool.not_eq_true, List.contains_iff_mem]

end DeclaredField

namespace Generation
variable {t : Text} {o : Options} {g : Generation} {c : DataClass}

/-- A body is read for the constructor of its class in exactly one way, and each field of a generated
class has a line that declares it. By the marker it takes null exactly when its type has a `?` there; by
the constructor, the same where the body has no call, and otherwise exactly when its name is not among
those that the parameters require. -/
theorem nullable_iff (h : generate t o = .ok g) (hc : c ∈ g.classes) :
    (∃! reading, Constructor.Reading c.name c.body reading) ∧
      ∃ forms : List Declaration.Form, (∀ form ∈ forms, form.Accepted) ∧
        (forms.map (·.text)).Sublist (Text.lines c.body) ∧
        List.Forall₂ (fun form f => f.name = form.name ∧ f.type = form.type ∧
          (o.nullability = .byMarker → f.nullable = form.isMarked) ∧
          (o.nullability = .byConstructor →
            (Constructor.Reading c.name c.body none → f.nullable = form.isMarked) ∧
              ∀ names, Constructor.Reading c.name c.body (some names) →
                (f.nullable = true ↔ f.name ∉ names))) forms c.fields := by
  obtain ⟨s, -, hs⟩ := exists_source h hc
  obtain ⟨hname, -, -, hfields, -⟩ := DataClass.ofSource?_eq_some hs
  have hbody := DataClass.body_of_ofSource? hs
  obtain ⟨forms, haccepted, htexts, hforms⟩ := s.exists_forms o.extraction
  refine ⟨⟨_, Constructor.reading_find? c.name c.body, fun _ hreading => hreading.find?_eq.symm⟩, forms,
    haccepted, hbody ▸ htexts, ?_⟩
  rw [hfields, hname, hbody, List.forall₂_map_right_iff]
  refine hforms.imp fun form f hform => ?_
  simp only [DeclaredField.ofDeclaration, DeclaredField.bare, DeclaredField.mk.injEq] at hform
  obtain ⟨htype, hfname, hmarked, -, -⟩ := hform
  refine ⟨hfname.symm, htype.symm, fun hn => ?_, fun hn => ⟨fun habsent => ?_, fun names hnames => ?_⟩⟩
  · rw [hn]
    exact hmarked.symm
  · rw [hn]
    exact (DeclaredField.isNullable_of_absent habsent).trans hmarked.symm
  · rw [hn]
    exact DeclaredField.isNullable_iff_of_present hnames

/-- A class whose constructor comes behind a named one, has a call among its parameters, and a name that
ends in `required`. -/
def requiredTail : Text := "class A {
  final int? x;
  final int y;
  A.of();
  A ({required
    this.x = f(1), required this.z$required this.y});
}
"

theorem nullable_iff_requiredTail :
    ∃ g, generate requiredTail {} = .ok g ∧ ∃ c ∈ g.classes,
      Constructor.Reading c.name c.body (some ["x", "z$required"]) ∧ ∃ forms : List Declaration.Form,
        List.Forall₂ (fun form f => f.name = form.name ∧
          (f.nullable = true ↔ f.name ∉ ["x".toList, "z$required".toList])) forms c.fields := by
  obtain ⟨g, hg, hp⟩ := exists_generation_of_any (t := requiredTail) (o := {})
    (p := fun g => g.classes.any fun c =>
      (Constructor.find? c.body c.name).map (·.required) == some ["x".toList, "z$required".toList])
    (by decide +kernel)
  obtain ⟨c, hc, hp⟩ := List.any_eq_true.mp hp
  have hreading := Constructor.reading_find? c.name c.body
  rw [beq_iff_eq.mp hp] at hreading
  obtain ⟨-, forms, -, -, hforms⟩ := nullable_iff hg hc
  refine ⟨g, hg, c, hc, hreading, forms, hforms.imp fun form f hf => ⟨hf.1, ?_⟩⟩
  exact (hf.2.2.2 rfl).2 _ hreading

end Generation

end DartTransfer

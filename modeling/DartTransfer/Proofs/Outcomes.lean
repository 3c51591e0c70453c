import DartTransfer.Proofs.Generated

/-!
# What becomes of each located class

A located class with fields gives the data class `DataClass.resolved`, which depends on nothing but the
class and the options, and the edit `sourceEdit` of its own span; a class without fields gives a
diagnostic. So the classes, the edits and the diagnostics of a run are what the located classes of the
one kind and of the other give, in the order of the text. In multi mode a run fails only where nothing is
located, in single mode also where the class has no fields (`Generation.accounts_for_classes`).
-/

namespace DartTransfer

namespace SourceClass

/-- Whether the body of the class declares a field. -/
def hasFields (o : Options) (c : SourceClass) : Bool := !(c.declaredFields o.extraction).isEmpty

/-- What is reported of a class without fields. -/
def fieldless (c : SourceClass) : Text × Fault := (c.name, .noFields c.name)

end SourceClass

namespace DataClass

/-- The data class that a located class with fields gives. -/
def resolved (o : Options) (c : SourceClass) : DataClass where
  name := c.name
  body := c.body
  span := c.span
  usesEquatable := c.usesEquatable
  fields := (c.declaredFields o.extraction).map (·.resolve o (c.decidingConstructor? o.nullability))

theorem ofSource?_eq (o : Options) (c : SourceClass) :
    ofSource? o c = (Option.guard (·.hasFields o) c).map (resolved o) := by
  rw [ofSource?, Option.guard, SourceClass.hasFields]
  split
  · next h => rw [h]; rfl
  · next fs hne =>
    rw [List.isEmpty_eq_false_iff.mpr hne]
    rfl

theorem length_fields_resolved (o : Options) (c : SourceClass) :
    (resolved o c).fields.length = (c.declaredFields o.extraction).length := List.length_map _

end DataClass

/-- The edit that a located class with fields gives: its span, and what takes its place. -/
def sourceEdit (t : Text) (o : Options) (c : SourceClass) : Edit :=
  ⟨c.span, replacementFor (t.slice c.span) (TransferClass.render (.resolved o c) o) o⟩

theorem classOutcome_eq (t : Text) (o : Options) (c : SourceClass) : classOutcome t o c =
    if c.hasFields o then .generated (.resolved o c) (sourceEdit t o c)
    else .skipped c.name (.noFields c.name) := by
  rw [classOutcome, DataClass.ofSource?_eq, Option.guard]
  cases c.hasFields o <;> rfl

theorem classOutcome_diagnostic? (t : Text) (o : Options) (c : SourceClass) :
    (classOutcome t o c).diagnostic? = (Option.guard (!·.hasFields o) c).map (·.fieldless) := by
  rw [classOutcome_eq, Option.guard]
  cases c.hasFields o <;> rfl

/-! ### When a run fails -/

section
variable {t : Text} {o : Options} {c : SourceClass}

theorem generate_of_locate_eq_nil (h : SourceClass.locate o.discovery t = []) :
    generate t o = .error .noClass := by
  rw [generate, h]
  rfl

theorem generate_of_locate_eq_cons {cs : List SourceClass} (h : SourceClass.locate o.discovery t = c :: cs) :
    generate t o =
      if o.discovery = .single ∧ c.hasFields o = false then .error (.noFields c.name)
      else .ok ⟨(c :: cs).map (classOutcome t o),
        importEdit? t (((c :: cs).map (classOutcome t o)).filterMap (·.class?)) o⟩ := by
  rw [generate, h, List.map_cons, classOutcome_eq]
  cases o.discovery <;> cases c.hasFields o <;> rfl

/-- Whatever keeps a run from generating is a matter of the text. -/
theorem kind_of_generate {fault : Fault} (h : generate t o = .error fault) : fault.kind = .structuralMismatch := by
  cases hcs : SourceClass.locate o.discovery t with
  | nil =>
    rw [generate_of_locate_eq_nil hcs] at h
    exact Except.error.inj h ▸ rfl
  | cons c cs =>
    rw [generate_of_locate_eq_cons hcs] at h
    split at h
    · exact Except.error.inj h ▸ rfl
    · exact absurd h nofun

theorem generate_eq_noClass_iff : generate t o = .error .noClass ↔ SourceClass.locate o.discovery t = [] := by
  refine ⟨fun h => ?_, generate_of_locate_eq_nil⟩
  cases hcs : SourceClass.locate o.discovery t with
  | nil => rfl
  | cons c cs =>
    rw [generate_of_locate_eq_cons hcs] at h
    split at h
    · exact absurd h (by simp)
    · exact absurd h nofun

theorem exists_generation_multi (ho : o.discovery = .multi) (h : SourceClass.locate .multi t ≠ []) :
    ∃ g, generate t o = .ok g := by
  obtain ⟨c, cs, hcs⟩ := List.exists_cons_of_ne_nil h
  rw [generate_of_locate_eq_cons (by rw [ho]; exact hcs), if_neg (by rw [ho]; exact nofun)]
  exact ⟨_, rfl⟩

/-- In single mode the first class decides. -/
theorem generate_single (ho : o.discovery = .single) (hc : SourceClass.first? t = some c) :
    (generate t o = .error (.noFields c.name) ↔ c.hasFields o = false) ∧
      (c.hasFields o = true → ∃ g, generate t o = .ok g) := by
  have hcs : SourceClass.locate o.discovery t = [c] := by rw [ho, SourceClass.locate, hc]; rfl
  rw [generate_of_locate_eq_cons hcs]
  cases c.hasFields o <;> simp [ho]

end

/-! ### The three results -/

namespace Generation
variable {t : Text} {o : Options} {g : Generation}

section
variable {cs : List SourceClass} (h : g.outcomes = cs.map (classOutcome t o))
include h

theorem classes_of_outcomes : g.classes = (cs.filter (·.hasFields o)).map (.resolved o) := by
  rw [classes, h, List.filterMap_map, Function.comp_def, funext (classOutcome_class? t o),
    funext (DataClass.ofSource?_eq o), ← List.map_filterMap, List.filterMap_eq_filter]

theorem classEdits_of_outcomes : g.classEdits = (cs.filter (·.hasFields o)).map (sourceEdit t o) := by
  rw [classEdits, h, List.filterMap_map, Function.comp_def, funext (classOutcome_edit? t o),
    funext fun c => congrArg (Option.map (classEdit t o)) (DataClass.ofSource?_eq o c), ← List.map_filterMap,
    ← List.map_filterMap, List.filterMap_eq_filter, List.map_map]
  rfl

theorem diagnostics_of_outcomes : g.diagnostics = (cs.filter (!·.hasFields o)).map (·.fieldless) := by
  rw [diagnostics, h, List.filterMap_map, Function.comp_def, funext (classOutcome_diagnostic? t o),
    ← List.map_filterMap, List.filterMap_eq_filter]

end

theorem classes_eq_map (h : generate t o = .ok g) :
    g.classes = ((SourceClass.locate o.discovery t).filter (·.hasFields o)).map (.resolved o) :=
  classes_of_outcomes (generate_eq_ok h).1

theorem classEdits_eq_map (h : generate t o = .ok g) :
    g.classEdits = ((SourceClass.locate o.discovery t).filter (·.hasFields o)).map (sourceEdit t o) :=
  classEdits_of_outcomes (generate_eq_ok h).1

theorem diagnostics_eq_map (h : generate t o = .ok g) :
    g.diagnostics = ((SourceClass.locate o.discovery t).filter (!·.hasFields o)).map (·.fieldless) :=
  diagnostics_of_outcomes (generate_eq_ok h).1

/-- Every located class is accounted for. With fields it gives one class and one edit, both of its name
and span, and without fields one diagnostic; what it gives is made of nothing but the options and its own
text. A run fails where there is no class, and in single mode where the first class has no fields. -/
theorem accounts_for_classes (t : Text) (o : Options) :
    (generate t o = .error .noClass ↔ SourceClass.locate o.discovery t = []) ∧
    (o.discovery = .multi → SourceClass.locate .multi t ≠ [] → ∃ g, generate t o = .ok g ∧
      g.classes = ((SourceClass.locate .multi t).filter (·.hasFields o)).map (.resolved o) ∧
      g.classEdits = ((SourceClass.locate .multi t).filter (·.hasFields o)).map (sourceEdit t o) ∧
      g.diagnostics = ((SourceClass.locate .multi t).filter (!·.hasFields o)).map (·.fieldless)) ∧
    (o.discovery = .single → ∀ c, SourceClass.first? t = some c →
      (generate t o = .error (.noFields c.name) ↔ c.hasFields o = false) ∧
      (c.hasFields o = true → ∃ g, generate t o = .ok g ∧ g.classes = [.resolved o c] ∧
        g.classEdits = [sourceEdit t o c] ∧ g.diagnostics = [])) ∧
    (∀ c, (DataClass.resolved o c).name = c.name ∧ (DataClass.resolved o c).span = c.span ∧
      (DataClass.resolved o c).fields.length = (c.declaredFields o.extraction).length ∧
      (sourceEdit t o c).span = c.span) := by
  refine ⟨generate_eq_noClass_iff, fun ho hne => ?_, fun ho c hc => ?_,
    fun c => ⟨rfl, rfl, DataClass.length_fields_resolved o c, rfl⟩⟩
  · obtain ⟨g, hg⟩ := exists_generation_multi ho hne
    rw [← ho]
    exact ⟨g, hg, classes_eq_map hg, classEdits_eq_map hg, diagnostics_eq_map hg⟩
  · obtain ⟨hfail, hok⟩ := generate_single ho hc
    refine ⟨hfail, fun hfields => ?_⟩
    obtain ⟨g, hg⟩ := hok hfields
    have hcs : SourceClass.locate o.discovery t = [c] := by rw [ho, SourceClass.locate, hc]; rfl
    refine ⟨g, hg, ?_, ?_, ?_⟩
    · rw [classes_eq_map hg, hcs, List.filter_cons_of_pos hfields]
      rfl
    · rw [classEdits_eq_map hg, hcs, List.filter_cons_of_pos hfields]
      rfl
    · rw [diagnostics_eq_map hg, hcs, List.filter_cons_of_neg (by simp [hfields])]
      rfl

/-- A class without fields between two that have one. -/
def emptyBetween : Text := "class A\x7bfinal B b;\x7dclass C\x7b\x7dclass D\x7bfinal E e;\x7d"

theorem accounts_for_classes_emptyBetween :
    ∃ g, generate emptyBetween { discovery := .multi } = .ok g ∧
      g.classes.map (·.name) = ["A".toList, "D".toList] ∧ g.classEdits.map (·.span) = [⟨0, 19⟩, ⟨28, 47⟩] ∧
      g.diagnostics = [("C".toList, .noFields "C")] := by
  obtain ⟨-, hmulti, -⟩ := accounts_for_classes emptyBetween { discovery := .multi }
  have hlocate : SourceClass.locate .multi emptyBetween =
      [⟨"A", [], "final B b;", ⟨0, 19⟩⟩, ⟨"C", [], [], ⟨19, 28⟩⟩, ⟨"D", [], "final E e;", ⟨28, 47⟩⟩] := by
    decide +kernel
  obtain ⟨g, hg, hclasses, hedits, hdiagnostics⟩ := hmulti rfl (by rw [hlocate]; exact List.cons_ne_nil _ _)
  rw [hlocate] at hclasses hedits hdiagnostics
  refine ⟨g, hg, ?_, ?_, ?_⟩
  · rw [hclasses]
    decide +kernel
  · rw [hedits]
    decide +kernel
  · rw [hdiagnostics]
    decide +kernel

end Generation

end DartTransfer

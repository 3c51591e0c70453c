import DartTransfer.Proofs.Generated
import DartTransfer.Proofs.Keys
import DartTransfer.Proofs.Separators

/-!
# What a resolved field holds

A template is a part of one line, and filling it in brings in nothing but the replacement
(`mem_substitute`). So a field of a generated class has a type, a name, and otherwise texts without
a newline (`Field.WellFormed`, `Generation.classes_wellFormed`).
-/

namespace DartTransfer

/-! ### Templates -/

theorem Directive.newline_notMem_of_parsing {comment d e : Text}
    (h : parse? comment = some (.parsing d e)) : '\n' ∉ d ∧ '\n' ∉ e := by
  obtain ⟨_, payload, hkeyed, -, ⟨s, r, hsplit, rfl, rfl⟩, -, -⟩ := parse?_eq_parsing_iff.mp h
  have hpayload := hkeyed.newline
  rw [(splitAtComma?_eq_some_iff.mp hsplit).1] at hpayload
  refine ⟨fun hc => hpayload ?_, fun hc => hpayload ?_⟩
  · exact List.mem_append_left _ (Text.mem_of_mem_trim hc)
  · exact List.mem_append_right _ (List.mem_cons_of_mem _ (Text.mem_of_mem_trim hc))

theorem mem_substituteAfter {before : Option Char} {replacement t : Text} {c : Char}
    (h : c ∈ substituteAfter before replacement t) : c ∈ t ∨ c ∈ replacement := by
  fun_induction substituteAfter before replacement t with
  | case1 before t r hr ih =>
    obtain ⟨-, rfl, -⟩ := Text.wordAt?_eq_some_iff.mp hr
    rcases List.mem_append.mp h with h | h
    · exact .inr h
    · exact (ih h).imp_left (List.mem_append_right _)
  | case2 => exact absurd h List.not_mem_nil
  | case3 before d r hd ih =>
    rcases List.mem_cons.mp h with rfl | h
    · exact .inl List.mem_cons_self
    · exact (ih h).imp_left (List.mem_cons_of_mem _)

theorem newline_notMem_substitute {template replacement : Text} (ht : '\n' ∉ template)
    (hr : '\n' ∉ replacement) : '\n' ∉ substitute template replacement := by
  intro h
  rcases mem_substituteAfter h with h | h
  · exact ht h
  · exact hr h

/-- Both conversions stay on one line. -/
structure Templates.OnOneLine (t : Templates) : Prop where
  decode : ∀ d ∈ t.decode, '\n' ∉ d
  encode : ∀ e ∈ t.encode, '\n' ∉ e

theorem Metadata.templates_onOneLine (comments : List Text) :
    (ofComments comments).templates.OnOneLine := by
  show ((((comments.filterMap Directive.parse?).findSome? Templates.ofDirective?).getD {}).OnOneLine)
  cases h : (comments.filterMap Directive.parse?).findSome? Templates.ofDirective? with
  | none => exact ⟨nofun, nofun⟩
  | some t =>
    obtain ⟨directive, hmem, hof⟩ := List.exists_of_findSome?_eq_some h
    obtain ⟨comment, -, hparse⟩ := List.mem_filterMap.mp hmem
    cases directive with
    | enumMarker => exact absurd hof nofun
    | parsing d e =>
      cases hof
      obtain ⟨hd, he⟩ := Directive.newline_notMem_of_parsing hparse
      exact ⟨fun d' h' => Option.some.inj h' ▸ hd, fun e' h' => Option.some.inj h' ▸ he⟩

/-! ### Fields -/

/-- What the fields of a generated class hold. -/
structure Field.WellFormed (f : Field) : Prop where
  type : f.type.IsType
  semicolon : ';' ∉ f.type
  newline : '\n' ∉ f.type
  name : f.name.IsIdentifier
  key : '\n' ∉ f.key
  templates : f.templates.OnOneLine
  docs : ∀ d ∈ f.docs, d.IsComment

theorem DeclaredField.resolve_wellFormed (o : Options) (c : Option Constructor) (f : DeclaredField)
    (h : f.WellRead) : (f.resolve o c).WellFormed := by
  have hname : '\n' ∉ f.name := h.name.notMem (isIdentifierPart_of_isBlank (by decide))
  refine ⟨h.type, h.semicolon, h.newline, h.name, ?_, Metadata.templates_onOneLine _, ?_⟩
  · exact o.style.notMem_convert (by decide) (by decide) (by decide) hname
  · exact fun d hd => h.leading d (List.mem_of_mem_filter hd)

/-- What the classes of a generation hold. -/
structure DataClass.WellFormed (c : DataClass) : Prop where
  name : c.name.IsIdentifier
  fields_ne : c.fields ≠ []
  fields : ∀ f ∈ c.fields, f.WellFormed

theorem DataClass.ofSource?_wellFormed {o : Options} {c : SourceClass} {d : DataClass}
    (hn : c.name.IsIdentifier) (h : ofSource? o c = some d) : d.WellFormed := by
  obtain ⟨hname, -, -, hfields, hne⟩ := ofSource?_eq_some h
  refine ⟨hname ▸ hn, ?_, ?_⟩
  · rw [hfields]
    simpa using hne
  · rw [hfields]
    intro f hf
    obtain ⟨g, hg, rfl⟩ := List.mem_map.mp hf
    exact g.resolve_wellFormed o _ (c.declaredFields_wellRead o.extraction g hg)

theorem Generation.classes_wellFormed {t : Text} {o : Options} {g : Generation}
    (h : generate t o = .ok g) : ∀ c ∈ g.classes, c.WellFormed := by
  intro c hc
  obtain ⟨d, hd, hof⟩ := exists_source h hc
  obtain ⟨_, _, -, hn⟩ := SourceClass.exists_slice_of_mem_locate hd
  exact DataClass.ofSource?_wellFormed hn hof

end DartTransfer

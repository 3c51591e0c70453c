import DartTransfer.Proofs.FirstClass
import DartTransfer.Proofs.Imports
import DartTransfer.Proofs.Outcomes
import DartTransfer.Proofs.Searches

/-!
# A class that is replaced

Without a suffix the generated class takes the place of its source, which in single mode runs to the
end of the text: nothing of the text behind the class is left but the blanks at its end
(`Generation.replaced_to_end`), whether or not a brace closes the class ahead of them
(`Generation.enum_lost`).
-/

namespace DartTransfer

namespace Text
variable {s t tail : Text}

theorem blankEnd_append {c : Char} (hc : c ∈ t) (hb : isBlank c = false) (s : Text) :
    blankEnd (s ++ t) = blankEnd t := by
  have hlast : ∀ d ∈ (s ++ t.trimEnd).getLast?, isBlank d = false := by
    rw [List.getLast?_append_of_ne_nil s (trimEnd_ne_nil hc hb)]
    exact fun d hd => trimEnd_getLast? hd
  rw [← trimEnd_append_blankEnd t, ← List.append_assoc, blankEnd,
    splitEnd_run hlast fun d hd => blankEnd_all hd, trimEnd_append_blankEnd]

theorem suffix_blankEnd (hb : ∀ c ∈ t, isBlank c = true) (s : Text) : t <:+ blankEnd (s ++ t) := by
  have hblank : ∀ c ∈ s.blankEnd ++ t, isBlank c = true :=
    List.forall_mem_append.mpr ⟨fun c hc => blankEnd_all hc, hb⟩
  rw [← trimEnd_append_blankEnd s, List.append_assoc, blankEnd,
    splitEnd_run (fun c hc => trimEnd_getLast? hc) hblank]
  exact List.suffix_append s.blankEnd t

/-- With the blanks at the end of a text, `s` ends as the text does if `s` alone ends in what is visible
of that end. -/
theorem suffix_append_blankEnd_iff (ht : tail <:+ t) : tail <:+ s ++ t.blankEnd ↔ tail.trimEnd <:+ s := by
  obtain ⟨ahead, rfl⟩ := ht
  have hsplit := trimEnd_append_blankEnd tail
  by_cases hb : ∀ c ∈ tail, isBlank c = true
  · have hnil : tail.trimEnd = [] := trimEnd_run (a := []) nofun hb
    rw [hnil]
    exact iff_of_true ((suffix_blankEnd hb ahead).trans (List.suffix_append s _)) List.nil_suffix
  · obtain ⟨c, hc, hvisible⟩ : ∃ c ∈ tail, isBlank c = false := by simpa using hb
    rw [blankEnd_append hc hvisible]
    constructor
    · rintro ⟨u, hu⟩
      have hcut : u ++ tail.trimEnd ++ tail.blankEnd = s ++ tail.blankEnd := by
        rw [List.append_assoc, hsplit]
        exact hu
      exact ⟨u, List.append_cancel_right hcut⟩
    · rintro ⟨u, rfl⟩
      exact ⟨u, by rw [List.append_assoc, hsplit]⟩

end Text

namespace Generation
variable {t : Text} {o : Options} {g : Generation}

/-- In single mode one class is generated, with all that follows it in the text. -/
theorem exists_class_of_single (h : generate t o = .ok g) (hd : o.discovery = .single) :
    ∃ c above piece, g.classes = [c] ∧ t = above ++ piece ∧
      c.span = ⟨above.byteLength, above.byteLength + piece.byteLength⟩ := by
  cases hfirst : SourceClass.first? t with
  | none =>
    have hnil : SourceClass.locate o.discovery t = [] := by rw [hd, SourceClass.locate, hfirst]; rfl
    rw [generate_of_locate_eq_nil hnil] at h
    cases h
  | some d =>
    have hcs : SourceClass.locate o.discovery t = [d] := by rw [hd, SourceClass.locate, hfirst]; rfl
    have hfields : d.hasFields o = true := by
      rw [← Bool.not_eq_false]
      intro hnone
      rw [(generate_single hd hfirst).1.mpr hnone] at h
      cases h
    have hclasses : g.classes = [.resolved o d] := by
      rw [classes_eq_map h, hcs, List.filter_cons_of_pos hfields]
      rfl
    have hcuts := cuts_classes h
    rw [hclasses] at hcuts
    obtain ⟨above, piece, rest, ht, hstart, hstop, -⟩ := hcuts
    rw [Nat.zero_add] at hstart
    have hmem : d ∈ SourceClass.locate .single t := by rw [← hd, hcs]; exact List.mem_singleton_self d
    have hend := (SourceClass.exists_slice_of_mem_single hmem).1
    obtain rfl : rest = [] := by
      refine Text.byteLength_eq_zero_iff.mp ?_
      have htotal := congrArg Text.byteLength ht
      simp only [Text.byteLength_append] at htotal
      change d.span.start = above.byteLength at hstart
      change d.span.stop = d.span.start + piece.byteLength at hstop
      omega
    rw [List.append_nil] at ht
    refine ⟨_, above, piece, hclasses, ht, ?_⟩
    rw [← hstart, ← hstop]

/-- The class edit leaves what is ahead of the class and the blanks at the end of the text. -/
theorem splice_replaced (hs : o.suffix = []) {c : DataClass} {front behind piece : Text}
    (ht : t = front ++ (behind ++ piece)) (hstart : c.span.start = (front ++ behind).byteLength)
    (hstop : c.span.stop = c.span.start + piece.byteLength) (hclass : "class".toList <+: piece) :
    Edit.splice front.byteLength (behind ++ piece) [classEdit t o c] =
      behind ++ (TransferClass.render c o).trimEnd ++ t.blankEnd := by
  have hslice : t.slice c.span = piece := by
    rw [ht, ← List.append_assoc, ← List.append_nil (front ++ behind ++ piece)]
    exact Text.slice_append hstart hstop
  have hblanks : t.blankEnd = piece.blankEnd := by
    rw [ht, ← List.append_assoc]
    exact Text.blankEnd_append (c := 'c') (hclass.subset (by decide)) (by decide) _
  have hreplace : (classEdit t o c).replacement = (TransferClass.render c o).trimEnd ++ t.blankEnd := by
    rw [classEdit, hslice, replacementFor, hs, hblanks]
    rfl
  have hcut : (classEdit t o c).span.start = front.byteLength + behind.byteLength := by
    rw [← Text.byteLength_append]
    exact hstart
  have hsplice : Edit.splice front.byteLength (behind ++ piece ++ []) [classEdit t o c] = _ :=
    Edit.splice_cons hcut hstop
  rw [List.append_nil] at hsplice
  rw [hsplice, hreplace, Edit.splice, List.append_nil, List.append_assoc]

/-- In single mode and without a suffix the result is the text ahead of the class, with the missing
imports in it, the generated class, and the blanks at the end of the source. So an end of the source, as
what follows the brace that closes the class, is an end of the result exactly when the visible part of
it ends what is ahead of those blanks. -/
theorem replaced_to_end (h : generate t o = .ok g) (hd : o.discovery = .single) (hs : o.suffix = []) :
    ∃ c above piece front, g.classes = [c] ∧ t = above ++ piece ∧
      c.span = ⟨above.byteLength, above.byteLength + piece.byteLength⟩ ∧
      (g.importEdit = none ∧ front = above ∨
        ∃ e ahead behind, g.importEdit = some e ∧ e.span = ⟨ahead.byteLength, ahead.byteLength⟩ ∧
          above = ahead ++ behind ∧ front = ahead ++ e.replacement ++ behind) ∧
      g.apply t = .ok (front ++ (TransferClass.render c o).trimEnd ++ t.blankEnd) ∧
      ∀ tail : Text, tail <:+ t → (tail <:+ front ++ (TransferClass.render c o).trimEnd ++ t.blankEnd ↔
        tail.trimEnd <:+ front ++ (TransferClass.render c o).trimEnd) := by
  obtain ⟨c, above, piece, hclasses, ht, hspan⟩ := exists_class_of_single h hd
  have hstart : c.span.start = above.byteLength := by rw [hspan]
  have hstop : c.span.stop = c.span.start + piece.byteLength := by rw [hspan]
  have hclass : "class".toList <+: piece := by
    have hclosed := (isClosed_of_mem h (hclasses ▸ List.mem_singleton_self c)).open_eq
    rwa [ht, ← List.append_nil (above ++ piece), Text.slice_append hstart hstop] at hclosed
  have happly : g.apply t = .ok (Edit.splice 0 t g.edits) := Edit.applyAll_of_cuts (cuts h)
  refine ⟨c, above, piece, ?_⟩
  cases he : importEdit? t g.classes o with
  | none =>
    have hsplice : Edit.splice 0 t g.edits = above ++ (TransferClass.render c o).trimEnd ++ t.blankEnd := by
      have htop : t = [] ++ (above ++ piece) := ht
      have hreplaced := splice_replaced hs htop hstart hstop hclass
      rw [← ht] at hreplaced
      rw [edits_eq h, he, hclasses]
      exact hreplaced
    exact ⟨above, hclasses, ht, hspan, .inl ⟨by rw [importEdit_eq h, he], rfl⟩, by rw [happly, hsplice],
      fun tail htail => Text.suffix_append_blankEnd_iff htail⟩
  | some e =>
    obtain ⟨d, ds, ahead, rest, hcs, -, hcut, hinsert, hle, -⟩ := importEdit?_eq_some he
    obtain ⟨rfl, rfl⟩ := List.cons.inj (hclasses.symm.trans hcs)
    obtain ⟨behind, rfl, rfl⟩ := Text.exists_of_byteLength_le (hcut.symm.trans ht) (hstart ▸ hle)
    have hreplaced := splice_replaced hs hcut hstart hstop hclass
    obtain ⟨-, hsplice⟩ := splice_edits h he hcut hinsert
    rw [hclasses, List.map_singleton, hreplaced] at hsplice
    refine ⟨ahead ++ e.replacement ++ behind, hclasses, ht, hspan,
      .inr ⟨e, ahead, behind, by rw [importEdit_eq h, he], hinsert, rfl, rfl⟩, ?_,
      fun tail htail => Text.suffix_append_blankEnd_iff htail⟩
    rw [happly, hsplice]
    simp only [List.append_assoc]

theorem replaced_to_end_blanksBehind :
    ∃ g r, generate blanksBehind { suffix := "" } = .ok g ∧ g.apply blanksBehind = .ok r ∧
      "\n\n".toList <:+ r := by
  obtain ⟨g, hg⟩ := exists_generation (t := blanksBehind) (o := { suffix := "" }) (by decide +kernel)
  obtain ⟨c, above, piece, front, -, -, -, -, happly, hends⟩ := replaced_to_end hg rfl rfl
  have htail : "\n\n".toList <:+ blanksBehind := by decide
  have hnil : Text.trimEnd "\n\n" = [] := by decide
  exact ⟨g, _, hg, happly, (hends _ htail).mpr (hnil ▸ List.nil_suffix)⟩

def fieldBody : Text := "\n  final int x;\n"

def enumeration : Text := "\n\nenum E \x7b a, b \x7d\n"

/-- A class with an enumeration behind it. -/
def enumBehind : Text := "class A ".toList ++ '\x7b' :: (fieldBody ++ '\x7d' :: enumeration)

/-- The enumeration follows the brace that closes the class, and goes with it. -/
theorem enum_lost :
    Text.Closes '\x7b' '\x7d' (fieldBody ++ '\x7d' :: enumeration) fieldBody enumeration ∧
      ∃ g, generate enumBehind { suffix := "" } = .ok g ∧
        ∃ r ∈ (g.apply enumBehind).toOption, ¬ enumeration <:+ r := by
  obtain ⟨g, hg, happly⟩ := exists_generation_of_any (t := enumBehind) (o := { suffix := "" })
    (p := fun g => (g.apply enumBehind).toOption.any (!enumeration.isSuffixOf ·)) (by decide +kernel)
  obtain ⟨r, hr, hsuffix⟩ := (Option.any_eq_true _ _).mp happly
  refine ⟨⟨rfl, by decide, by decide⟩, g, hg, r, hr, fun h => ?_⟩
  rw [List.isSuffixOf_iff_suffix.mpr h] at hsuffix
  exact Bool.false_ne_true hsuffix

end Generation

end DartTransfer

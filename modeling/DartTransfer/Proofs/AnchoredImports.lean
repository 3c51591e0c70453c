import DartTransfer.Proofs.Imports

/-!
# Directives above inserted imports

The imports that a text lacks go below a line, not below a directive. So the directive that starts on
the line stays whole exactly when its semicolon stands there too (`Generation.imports_below_line`);
one that goes on in the next line is cut in two (`Generation.directive_split`).
-/

namespace DartTransfer

/-- A semicolon behind the start of the line is on it unless a newline or the end comes first. -/
theorem Text.LastImport.semicolon_iff {above front line rest below u v : Text}
    (h : above.LastImport front line rest) (ht : above ++ below = front ++ u ++ ';' :: v) :
    u ++ [';'] <+: line ↔ '\n' ∉ u ∧ (front ++ u).byteLength < above.byteLength := by
  have hline : line <+: u ++ ';' :: v := by
    rw [h.append] at ht
    simp only [List.append_assoc] at ht
    exact ⟨rest ++ below, List.append_cancel_left ht⟩
  have hmark : u ++ [';'] <+: u ++ ';' :: v := ⟨v, by simp⟩
  rw [h.append]
  simp only [Text.byteLength_append]
  constructor
  · rintro ⟨w, rfl⟩
    refine ⟨fun hm => h.whole (by simp [hm]), ?_⟩
    have hpos := ';'.utf8Size_pos
    simp only [Text.byteLength_append, Text.byteLength_cons]
    omega
  · rintro ⟨hu, hlt⟩
    by_cases hle : u.length < line.length
    · exact List.prefix_of_prefix_length_le hmark hline (by simpa using Nat.succ_le_of_lt hle)
    · obtain ⟨w, rfl⟩ : line <+: u :=
        List.prefix_of_prefix_length_le hline (List.prefix_append ..) (Nat.le_of_not_lt hle)
      -- the text goes on behind the line with a newline, which is in `w` or takes the semicolon's place
      have hrest : rest ++ below = w ++ ';' :: v := by
        rw [h.append] at ht
        simp only [List.append_assoc] at ht
        exact List.append_cancel_left (List.append_cancel_left ht)
      cases rest with
      | nil =>
        simp only [Text.byteLength_append, Text.byteLength_nil] at hlt
        omega
      | cons d rest =>
        obtain rfl : d = '\n' := h.ends d rfl
        cases w with
        | nil => exact absurd (List.cons.inj hrest).1 (by decide)
        | cons d w =>
          obtain rfl := (List.cons.inj hrest).1
          exact absurd (by simp) hu

namespace Generation
variable {t : Text} {o : Options} {g : Generation} {e : Edit}

theorem byteLength_takeBytes_start (h : generate t o = .ok g) {c : DataClass} (hc : c ∈ g.classes) :
    (t.takeBytes c.span.start).byteLength = c.span.start := by
  obtain ⟨front, piece, tail, rfl, hstart, -⟩ := (cuts_classes h).exists_append (List.mem_map_of_mem hc)
  rw [hstart, Nat.zero_add, List.append_assoc, Text.takeBytes_byteLength]

/-- Missing imports go right below the last line above the first class that starts with `import` or
`library`, and to the top if there is none. Of the semicolons behind the start of that line, the ones
above the imports are those with no newline ahead of them, as long as the class does not start first. -/
theorem imports_below_line (h : generate t o = .ok g) (he : g.importEdit = some e) :
    ∃ c cs r, g.classes = c :: cs ∧ g.apply t = .ok r ∧
      ((∃ front line rest, (t.takeBytes c.span.start).LastImport front line rest ∧
          e.span = ⟨(front ++ line).byteLength, (front ++ line).byteLength⟩ ∧
          front ++ line ++ e.replacement <+: r ∧
          ∀ u v, t = front ++ u ++ ';' :: v →
            (u ++ [';'] <+: line ↔ '\n' ∉ u ∧ (front ++ u).byteLength < c.span.start)) ∨
        Text.NoImportBelow ('\n' :: t.takeBytes c.span.start) ∧ e.span = ⟨0, 0⟩ ∧ e.replacement <+: r) := by
  rw [importEdit_eq h] at he
  have happly : g.apply t = .ok (Edit.splice 0 t g.edits) := Edit.applyAll_of_cuts (cuts h)
  obtain ⟨c, cs, hcs, -, hplace⟩ := importEdit?_lastImport he
  have hlength := byteLength_takeBytes_start h (hcs ▸ List.mem_cons_self : c ∈ g.classes)
  have hsplit : t = t.takeBytes c.span.start ++ t.dropBytes c.span.start :=
    (Text.takeBytes_append_dropBytes ..).symm
  refine ⟨c, cs, _, hcs, happly, ?_⟩
  rcases hplace with ⟨front, line, rest, hlast, rfl⟩ | ⟨hnone, rfl⟩
  · refine .inl ⟨front, line, rest, hlast, rfl, ?_, fun u v ht => ?_⟩
    · have ht : t = front ++ line ++ (rest ++ t.dropBytes c.span.start) := by
        rw [← List.append_assoc, ← hlast.append]
        exact hsplit
      obtain ⟨-, hsplice⟩ := splice_edits h he ht rfl
      exact ⟨_, by rw [hsplice, List.append_assoc]⟩
    · rw [← hlength]
      exact hlast.semicolon_iff (hsplit.symm.trans ht)
  · have ht : t = [] ++ t := rfl
    obtain ⟨-, hsplice⟩ := splice_edits h he ht rfl
    exact .inr ⟨hnone, rfl, _, hsplice.symm⟩

theorem imports_below_line_importAtClass :
    ∃ g e r, generate importAtClass {} = .ok g ∧ g.importEdit = some e ∧ g.apply importAtClass = .ok r ∧
      ∃ front line rest, Text.LastImport "import 'é';" front line rest ∧
        front ++ line ++ e.replacement <+: r := by
  obtain ⟨g, hg, hp⟩ := exists_generation_of_any (t := importAtClass) (o := {})
    (p := fun g => g.importEdit.any (·.span == ⟨12, 12⟩) && g.classes.all (·.span.start == 12))
    (by decide +kernel)
  obtain ⟨hedit, hstart⟩ := Bool.and_eq_true_iff.mp hp
  obtain ⟨e, he, hspan⟩ := (Option.any_eq_true _ _).mp hedit
  obtain ⟨c, cs, r, hcs, hr, ⟨front, line, rest, hlast, -, hprefix, -⟩ | ⟨-, htop, -⟩⟩ :=
    imports_below_line hg he
  · have hc : c.span.start = 12 := by simpa using List.all_eq_true.mp hstart c (hcs ▸ List.mem_cons_self)
    have habove : importAtClass.takeBytes 12 = "import 'é';".toList := by decide
    rw [hc, habove] at hlast
    exact ⟨g, e, r, hg, he, hr, front, line, rest, hlast, hprefix⟩
  · rw [beq_iff_eq.mp hspan] at htop
    exact absurd htop (by decide)

/-- A directive that goes on in the line below. -/
def continuedImport : Text := "import 'a.dart'\n    show B;\nclass A \x7b\n  final int x;\n\x7d\n"

/-- The directive is cut ahead of its semicolon. -/
theorem directive_split :
    ∃ g e, generate continuedImport {} = .ok g ∧ g.importEdit = some e ∧
      continuedImport.takeBytes e.span.start = "import 'a.dart'".toList ∧
      ';' ∉ continuedImport.takeBytes e.span.start ∧ ∃ r ∈ (g.apply continuedImport).toOption,
        "import 'a.dart'\nimport 'dart:convert';\n    show B;".toList <+: r := by
  obtain ⟨g, hg, hp⟩ := exists_generation_of_any (t := continuedImport) (o := {})
    (p := fun g => g.importEdit.any (·.span == ⟨15, 15⟩) && (g.apply continuedImport).toOption.any
      ("import 'a.dart'\nimport 'dart:convert';\n    show B;".toList.isPrefixOf ·))
    (by decide +kernel)
  obtain ⟨hedit, happly⟩ := Bool.and_eq_true_iff.mp hp
  obtain ⟨e, he, hspan⟩ := (Option.any_eq_true _ _).mp hedit
  obtain ⟨r, hr, hprefix⟩ := (Option.any_eq_true _ _).mp happly
  have habove : continuedImport.takeBytes e.span.start = "import 'a.dart'".toList := by
    rw [beq_iff_eq.mp hspan]
    decide
  exact ⟨g, e, hg, he, habove, habove ▸ by decide, r, hr, List.isPrefixOf_iff_prefix.mp hprefix⟩

end Generation

end DartTransfer

import DartTransfer.Proofs.Blocks
import DartTransfer.Proofs.InTurn
import DartTransfer.Proofs.Outcomes

/-!
# Runs on joined texts

Behind a text whose last block ends with the text, the scan for blocks starts afresh: what it finds in
the rest is what it finds in the rest alone, moved by the length of the text ahead
(`SourceClass.locate_append`). No class looks beyond its own span, so a multi-class run on the two texts
joined gives what the runs on the two texts give (`Generation.generate_append`).
-/

namespace DartTransfer

/-! ### Spans behind a text -/

namespace Text

theorem takeBytes_add (t u : Text) (n : Nat) :
    takeBytes (byteLength t + n) (t ++ u) = t ++ takeBytes n u := by
  induction t with
  | nil => simp
  | cons c t ih =>
    rw [List.cons_append, takeBytes, byteLength_cons, if_pos (by omega), Nat.add_assoc,
      Nat.add_sub_cancel_left, ih, List.cons_append]

theorem dropBytes_add (t u : Text) (n : Nat) : dropBytes (byteLength t + n) (t ++ u) = dropBytes n u := by
  induction t with
  | nil => simp
  | cons c t ih =>
    rw [List.cons_append, dropBytes, byteLength_cons, if_pos (by omega), Nat.add_assoc,
      Nat.add_sub_cancel_left, ih]

end Text

/-- The span as many bytes further back. -/
def Span.shift (n : Nat) (s : Span) : Span := ⟨n + s.start, n + s.stop⟩

def SourceClass.shift (n : Nat) (c : SourceClass) : SourceClass := { c with span := c.span.shift n }

def DataClass.shift (n : Nat) (c : DataClass) : DataClass := { c with span := c.span.shift n }

def Edit.shift (n : Nat) (e : Edit) : Edit := { e with span := e.span.shift n }

theorem Text.slice_shift (t u : Text) (s : Span) : slice (t ++ u) (s.shift t.byteLength) = slice u s := by
  rw [slice, slice, Span.shift, dropBytes_add, Nat.add_sub_add_left]

/-- A text behind the cut one is not seen by its spans. -/
theorem Span.Cuts.slice_append {t : Text} {ss : List Span} {s : Span} (h : Cuts 0 t ss) (hs : s ∈ ss)
    (u : Text) : (t ++ u).slice s = t.slice s := by
  obtain ⟨ahead, piece, rest, rfl, hstart, hstop⟩ := h.exists_append hs
  rw [Nat.zero_add] at hstart
  rw [List.append_assoc _ rest u, Text.slice_append hstart hstop, Text.slice_append hstart hstop]

namespace Edit
variable {t : Text} {es : List Edit}

theorem start_shift (n : Nat) (e : Edit) : (e.shift n).span.start = n + e.span.start := rfl

theorem stop_shift (n : Nat) (e : Edit) : (e.shift n).span.stop = n + e.span.stop := rfl

theorem splice_shift (n position : Nat) (t : Text) (es : List Edit) :
    splice (n + position) t (es.map (·.shift n)) = splice position t es := by
  induction es generalizing position t with
  | nil => rfl
  | cons e es ih =>
    rw [List.map_cons, splice, splice, start_shift, stop_shift, Nat.add_sub_add_left, Nat.add_sub_add_left,
      ih]
    rfl

/-- Edits of two texts are made in the two texts joined. -/
theorem splice_append {position : Nat} (h : Span.Cuts position t (es.map (·.span))) (u : Text)
    (fs : List Edit) : splice position (t ++ u) (es ++ fs.map (·.shift (position + t.byteLength))) =
      splice position t es ++ splice 0 u fs := by
  induction es generalizing position t with
  | nil =>
    cases fs with
    | nil => rfl
    | cons f fs =>
      rw [List.nil_append, List.map_cons, splice, splice, start_shift, stop_shift, splice_shift,
        Nat.add_assoc, Nat.add_sub_cancel_left, Text.takeBytes_add, Nat.add_assoc, Nat.add_sub_cancel_left,
        Text.dropBytes_add, splice, Nat.sub_zero, Nat.sub_zero]
      simp only [List.append_assoc]
      rfl
  | cons e es ih =>
    obtain ⟨ahead, piece, rest, rfl, hs, he, hr⟩ := h
    have hlength : position + (ahead ++ piece ++ rest).byteLength = e.span.stop + rest.byteLength := by
      rw [he, hs, Text.byteLength_append, Text.byteLength_append]
      omega
    rw [List.append_assoc _ rest u, List.cons_append, splice_cons hs he, splice_cons hs he, hlength, ih hr]
    simp only [List.append_assoc]

end Edit

/-! ### The scan -/

namespace Heading
variable {before before' : Option Char} {t skipped : Text} {h : Heading}

/-- Of the character ahead it counts only whether it is part of a word. -/
theorem find?_congr (hb : before.any isWord = before'.any isWord) : find? before t = find? before' t := by
  cases t with
  | nil => rfl
  | cons c t => rw [find?, find?, at?, at?, Text.wordAt?, Text.wordAt?, hb]

/-- A first heading with a brace behind it stays the first one, whatever follows. -/
theorem find?_append (e : find? before t = some (skipped, h)) (hbrace : '\x7b' ∈ h.rest) (u : Text) :
    find? before (t ++ u) = some (skipped, ⟨h.lead, h.name, h.rest ++ u⟩) := by
  obtain ⟨rest, rfl, hat, hno⟩ := find?_eq_some e
  obtain ⟨hb, rfl, hlead, hname, hend⟩ := at?_eq_some_iff.mp hat
  obtain ⟨header, r, hrest, -⟩ := List.eq_append_cons_of_mem hbrace
  refine find?_eq_some_iff.mpr ⟨h.lead ++ h.name ++ (h.rest ++ u), by simp, ?_, ?_⟩
  · refine at?_eq_some_iff.mpr ⟨hb, rfl, hlead, hname, ?_⟩
    intro c hc
    refine hend c ?_
    rw [hrest] at hc ⊢
    cases header <;> exact hc
  · intro x y hxy hy
    have hnone := hno x y hxy hy
    rw [← Option.not_isSome_iff_eq_none] at hnone ⊢
    -- either text goes on behind `y` to the brace, which no heading crosses
    have happ (v : Text) : y ++ (h.lead ++ h.name ++ (header ++ '\x7b' :: v)) =
        y ++ (h.lead ++ h.name ++ header) ++ '\x7b' :: v := by simp
    rw [hrest, happ, at?_of_append_brace] at hnone
    rwa [hrest, List.append_assoc header, List.cons_append, happ, at?_of_append_brace]

end Heading

namespace SourceClass

theorem allFrom_shift (n position : Nat) (before : Option Char) (t : Text) :
    allFrom (n + position) before t = (allFrom position before t).map (·.shift n) := by
  fun_induction allFrom position before t with
  | case1 position before t hfind => exact allFrom_of_noHeading hfind
  | case2 position before t skipped h hfind hopen => exact allFrom_of_noOpening hfind hopen
  | case3 position before t skipped h hfind header r hopen hclose =>
    exact allFrom_of_noClosing hfind hopen hclose
  | case4 position before t skipped h hfind header r hopen body rest hclose start stop ih =>
    rw [allFrom_of_block hfind hopen hclose]
    dsimp only
    rw [List.map_cons, ← ih, shift, Span.shift, Nat.add_assoc n position, Nat.add_assoc n]

/-- Behind a last block that ends with its text the scan goes on as behind any closing brace. -/
theorem allFrom_append (position : Nat) (before : Option Char) (t u : Text)
    (hend : ∃ c ∈ (allFrom position before t).getLast?, c.span.stop = position + t.byteLength) :
    allFrom position before (t ++ u) =
      allFrom position before t ++ allFrom (position + t.byteLength) (some '\x7d') u := by
  fun_induction allFrom position before t with
  | case1 => simp at hend
  | case2 => simp at hend
  | case3 => simp at hend
  | case4 position before t skipped h hfind header r hopen body rest hclose start stop ih =>
    obtain ⟨t', rfl, hat, -⟩ := Heading.find?_eq_some hfind
    obtain rfl := Heading.append_of_at? hat
    obtain ⟨hrest, hheader⟩ := Text.splitAt?_eq_some_iff.mp hopen
    obtain ⟨rfl, hbody⟩ := Text.splitAt?_eq_some_iff.mp hclose
    have hstop : stop + rest.byteLength =
        position + (skipped ++ (h.lead ++ h.name ++ h.rest)).byteLength := by
      show start + _ + _ = _
      rw [hrest]
      simp [start, Nat.add_assoc]
    have hjoined : h.rest ++ u = header ++ '\x7b' :: (body ++ '\x7d' :: (rest ++ u)) := by simp [hrest]
    rw [allFrom_of_block (Heading.find?_append hfind (by rw [hrest]; simp) u)
      (Text.splitAt?_eq_some_iff.mpr ⟨hjoined, hheader⟩) (Text.splitAt?_eq_some_iff.mpr ⟨rfl, hbody⟩),
      ← hstop, List.cons_append]
    dsimp only
    refine congrArg (_ :: ·) ?_
    show allFrom stop (some '\x7d') (rest ++ u) = _
    cases hcs : allFrom stop (some '\x7d') rest with
    | nil =>
      -- this block is the last one, so nothing of the text is left behind it
      rw [hcs] at hend
      obtain ⟨c, hc, hcstop⟩ := hend
      obtain rfl := Option.some.inj hc
      have hlast : stop = position + (skipped ++ (h.lead ++ h.name ++ h.rest)).byteLength := hcstop
      have hnil : rest = [] := Text.byteLength_eq_zero_iff.mp (by omega)
      rw [hnil]
      rfl
    | cons d ds =>
      rw [hcs, List.getLast?_cons_cons] at hend
      rw [← hcs]
      refine ih ?_
      rw [hcs, hstop]
      exact hend

theorem locate_append {t : Text} (hend : ∃ c ∈ (locate .multi t).getLast?, c.span.stop = t.byteLength)
    (u : Text) : locate .multi (t ++ u) =
      locate .multi t ++ (locate .multi u).map (·.shift t.byteLength) := by
  have happ := allFrom_append 0 none t u (by rwa [Nat.zero_add])
  have hbrace : isIdentifierPart '\x7d' = false := isIdentifierPart_of_mem_marks (by decide)
  rw [isIdentifierPart, Bool.or_eq_false_iff] at hbrace
  have hword : (some '\x7d').any isWord = (none : Option Char).any isWord := by
    rw [Option.any_some, hbrace.1, Option.any_none]
  have hfresh : allFrom 0 (some '\x7d') u = allFrom 0 none u := by
    rw [allFrom_eq, allFrom_eq 0 none, Heading.find?_congr hword]
  have hshift := allFrom_shift t.byteLength 0 (some '\x7d') u
  rw [Nat.add_zero, hfresh] at hshift
  rw [Nat.zero_add, hshift] at happ
  exact happ

/-- The transfer class that is written does not depend on the place of its source. -/
theorem sourceEdit_shift (t u : Text) (o : Options) (c : SourceClass) :
    sourceEdit (t ++ u) o (c.shift t.byteLength) = (sourceEdit u o c).shift t.byteLength := by
  rw [sourceEdit, shift, Text.slice_shift]
  rfl

theorem sourceEdit_append {t : Text} {c : SourceClass} (hc : c ∈ locate .multi t) (u : Text) (o : Options) :
    sourceEdit (t ++ u) o c = sourceEdit t o c := by
  rw [sourceEdit, (scan_locate .multi t).cuts.slice_append (List.mem_map_of_mem hc), sourceEdit]

end SourceClass

/-! ### Runs -/

namespace Generation
variable {t t₁ t₂ : Text} {o : Options} {g g₁ g₂ : Generation}

/-- `g` is what the run gives, and is empty where there is no class. -/
def CountsFor (g : Generation) (t : Text) (o : Options) : Prop :=
  generate t o = .ok g ∨ generate t o = .error .noClass ∧ g = ⟨[], none⟩

namespace CountsFor

theorem exists_of_multi (ho : o.discovery = .multi) (t : Text) : ∃ g : Generation, g.CountsFor t o := by
  by_cases h : SourceClass.locate .multi t = []
  · exact ⟨⟨[], none⟩, .inr ⟨generate_of_locate_eq_nil (by rw [ho, h]), rfl⟩⟩
  · obtain ⟨g, hg⟩ := exists_generation_multi ho h
    exact ⟨g, .inl hg⟩

theorem outcomes_eq (h : g.CountsFor t o) :
    g.outcomes = (SourceClass.locate o.discovery t).map (classOutcome t o) := by
  rcases h with h | ⟨h, rfl⟩
  · exact (generate_eq_ok h).1
  · rw [generate_eq_noClass_iff.mp h]
    rfl

theorem cuts (h : g.CountsFor t o) : Span.Cuts 0 t (g.edits.map (·.span)) := by
  rcases h with h | ⟨-, rfl⟩
  · exact Generation.cuts h
  · trivial

theorem cuts_classEdits (h : g.CountsFor t o) : Span.Cuts 0 t (g.classEdits.map (·.span)) :=
  h.cuts.sublist ((List.sublist_append_right _ _).map _)

theorem applyAll_classEdits (h : g.CountsFor t o) :
    Edit.applyAll t g.classEdits = .ok (Edit.splice 0 t g.classEdits) :=
  Edit.applyAll_of_cuts h.cuts_classEdits

/-- The imports may as well be inserted once the classes are edited. -/
theorem apply_eq (h : g.CountsFor t o) :
    g.apply t = Edit.applyAll (Edit.splice 0 t g.classEdits) g.importEdit.toList := by
  have hcuts := h.cuts
  rw [apply]
  cases hi : g.importEdit with
  | none =>
    rw [edits, hi, Option.toList_none, List.nil_append, h.applyAll_classEdits]
    rfl
  | some e =>
    have hedits : g.edits = e :: g.classEdits := by rw [edits, hi]; rfl
    rw [hedits] at hcuts ⊢
    obtain ⟨hall, -⟩ := Edit.foldlM_applyAll [] hcuts
    obtain ⟨hclasses, -⟩ := Edit.foldlM_applyAll [] h.cuts_classEdits
    rw [List.reverse_cons, List.foldlM_append, hclasses] at hall
    rw [Edit.applyAll_of_cuts hcuts]
    -- what is left of the fold is the insertion alone
    change Edit.applyAll _ [e] >>= pure = _ at hall
    rw [bind_pure] at hall
    exact hall.symm

end CountsFor

/-- Behind a text that ends with its last class a second text is run as it is on its own: the classes,
the edits and the diagnostics of the joined texts are those of the two, the latter moved by the length
of the first text, and so is the edited text, up to the imports. -/
theorem generate_append (ho : o.discovery = .multi)
    (hend : ∃ c ∈ (SourceClass.locate .multi t₁).getLast?, c.span.stop = t₁.byteLength) (t₂ : Text) :
    ∃ (g g₁ g₂ : Generation) (r₁ r₂ : Text),
      generate (t₁ ++ t₂) o = .ok g ∧ generate t₁ o = .ok g₁ ∧ g₂.CountsFor t₂ o ∧
      g.classes = g₁.classes ++ g₂.classes.map (·.shift t₁.byteLength) ∧
      g.classEdits = g₁.classEdits ++ g₂.classEdits.map (·.shift t₁.byteLength) ∧
      g.diagnostics = g₁.diagnostics ++ g₂.diagnostics ∧
      Edit.applyAll t₁ g₁.classEdits = .ok r₁ ∧ Edit.applyAll t₂ g₂.classEdits = .ok r₂ ∧
      Edit.applyAll (t₁ ++ t₂) g.classEdits = .ok (r₁ ++ r₂) ∧
      g₁.apply t₁ = Edit.applyAll r₁ g₁.importEdit.toList ∧
      g₂.apply t₂ = Edit.applyAll r₂ g₂.importEdit.toList ∧
      g.apply (t₁ ++ t₂) = Edit.applyAll (r₁ ++ r₂) g.importEdit.toList := by
  have hlocate := SourceClass.locate_append hend t₂
  have hne : SourceClass.locate .multi t₁ ≠ [] := by
    obtain ⟨c, hc, -⟩ := hend
    exact List.ne_nil_of_mem (List.mem_of_getLast? hc)
  obtain ⟨g₁, hg₁⟩ := exists_generation_multi ho hne
  obtain ⟨g, hg⟩ := exists_generation_multi (t := t₁ ++ t₂) ho
    (by rw [hlocate]; exact List.append_ne_nil_of_left_ne_nil hne _)
  obtain ⟨g₂, h₂⟩ := CountsFor.exists_of_multi ho t₂
  have h : g.CountsFor (t₁ ++ t₂) o := .inl hg
  have h₁ : g₁.CountsFor t₁ o := .inl hg₁
  have hedits : g.classEdits = g₁.classEdits ++ g₂.classEdits.map (·.shift t₁.byteLength) := by
    rw [classEdits_of_outcomes h.outcomes_eq, classEdits_of_outcomes h₁.outcomes_eq,
      classEdits_of_outcomes h₂.outcomes_eq, ho, hlocate, List.filter_append, List.filter_map,
      List.map_append, List.map_map, List.map_map]
    refine congrArg₂ (· ++ ·) (List.map_congr_left fun c hc => ?_) (List.map_congr_left fun c _ => ?_)
    · exact SourceClass.sourceEdit_append (List.mem_of_mem_filter hc) t₂ o
    · exact SourceClass.sourceEdit_shift t₁ t₂ o c
  have hsplice : Edit.splice 0 (t₁ ++ t₂) g.classEdits =
      Edit.splice 0 t₁ g₁.classEdits ++ Edit.splice 0 t₂ g₂.classEdits := by
    have happ := Edit.splice_append h₁.cuts_classEdits t₂ g₂.classEdits
    rwa [Nat.zero_add, ← hedits] at happ
  refine ⟨g, g₁, g₂, _, _, hg, hg₁, h₂, ?_, hedits, ?_, h₁.applyAll_classEdits, h₂.applyAll_classEdits,
    hsplice ▸ h.applyAll_classEdits, h₁.apply_eq, h₂.apply_eq, hsplice ▸ h.apply_eq⟩
  -- the fields and the diagnostic of a class are the same wherever it stands
  · rw [classes_of_outcomes h.outcomes_eq, classes_of_outcomes h₁.outcomes_eq,
      classes_of_outcomes h₂.outcomes_eq, ho, hlocate, List.filter_append, List.filter_map, List.map_append,
      List.map_map, List.map_map]
    rfl
  · rw [diagnostics_of_outcomes h.outcomes_eq, diagnostics_of_outcomes h₁.outcomes_eq,
      diagnostics_of_outcomes h₂.outcomes_eq, ho, hlocate, List.filter_append, List.filter_map,
      List.map_append, List.map_map]
    rfl

/-- A text that ends with its last class, and one whose class stands right behind the seam. -/
def firstPart : Text := "class A{final B b;}"

def secondPart : Text := "class C{final D d;}//é"

theorem generate_append_parts : ∃ g,
    generate (firstPart ++ secondPart) { discovery := .multi } = .ok g ∧
      g.classes.map (·.span) = [⟨0, 19⟩, ⟨19, 38⟩] := by
  have hfirst : SourceClass.locate .multi firstPart = [⟨"A", [], "final B b;", ⟨0, 19⟩⟩] := by
    decide +kernel
  have hsecond : SourceClass.locate .multi secondPart = [⟨"C", [], "final D d;", ⟨0, 19⟩⟩] := by
    decide +kernel
  obtain ⟨g, g₁, g₂, -, -, hg, hg₁, h₂, hclasses, -⟩ :=
    generate_append (o := { discovery := .multi }) rfl ⟨_, by rw [hfirst]; rfl, by decide⟩ secondPart
  refine ⟨g, hg, ?_⟩
  rw [hclasses, classes_eq_map hg₁, classes_of_outcomes h₂.outcomes_eq, hfirst, hsecond]
  decide +kernel

end Generation

end DartTransfer

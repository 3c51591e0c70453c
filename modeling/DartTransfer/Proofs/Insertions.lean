import Mathlib.Data.List.Forall2
import DartTransfer.Proofs.Generated

/-!
# An edited text is its source with insertions

`Piece`: an edited text as a list of pieces, each kept from the source or inserted. An edit that
puts its text in front of some end of its span only inserts (`Edit.Inserts`), and a batch of such
edits gives pieces whose kept parts are the source (`Edit.exists_pieces`). With a suffix every edit
of a run is one of these: the imports are an insertion as they stand, and a transfer class goes
behind the last visible character of its class (`Generation.insertions_only`).
-/

namespace DartTransfer

inductive Piece
  | kept (t : Text)
  | inserted (t : Text)
  deriving DecidableEq, Repr

namespace Piece

def text : Piece → Text
  | kept t => t
  | inserted t => t

def source : Piece → Text
  | kept t => t
  | inserted _ => []

def result (ps : List Piece) : Text := ps.flatMap text

/-- The edited text with the insertions erased. -/
def original (ps : List Piece) : Text := ps.flatMap source

/-- The insertions, each with its position in the source, of which the pieces are the part from
`position` on. -/
def insertions (position : Nat) : List Piece → List (Nat × Text)
  | [] => []
  | kept t :: ps => insertions (position + t.byteLength) ps
  | inserted t :: ps => (position, t) :: insertions position ps

@[simp] theorem result_cons (p : Piece) (ps : List Piece) :
  result (p :: ps) = p.text ++ result ps := rfl

@[simp] theorem original_cons (p : Piece) (ps : List Piece) :
  original (p :: ps) = p.source ++ original ps := rfl

end Piece

namespace Edit

/-- The edit of the text `t` inserts `i.2` at position `i.1` and keeps the rest of its span. -/
def Inserts (t : Text) (e : Edit) (i : Nat × Text) : Prop :=
  ∃ kept left, t.slice e.span = kept ++ left ∧ e.replacement = kept ++ i.2 ++ left ∧
    i.1 = e.span.start + kept.byteLength

/-- Edits that only insert keep all of the text, which is `rest` behind `front`. -/
theorem exists_pieces (front : Text) {rest : Text} {es : List Edit} {is : List (Nat × Text)}
    (hc : Span.Cuts front.byteLength rest (es.map (·.span)))
    (hi : List.Forall₂ (Inserts (front ++ rest)) es is) :
    ∃ ps, Piece.result ps = splice front.byteLength rest es ∧ Piece.original ps = rest ∧
      Piece.insertions front.byteLength ps = is := by
  generalize ht : front ++ rest = t at hi
  induction hi generalizing front rest with
  | nil =>
    exact ⟨[.kept rest], by simp [Piece.result, Piece.text, splice],
      by simp [Piece.original, Piece.source], rfl⟩
  | @cons e i es is he _ ih =>
    obtain ⟨ahead, piece, rest, rfl, hs, hstop, hc⟩ := hc
    have hslice : t.slice e.span = piece := by
      rw [← ht, ← List.append_assoc, ← List.append_assoc]
      exact Text.slice_append (by rw [hs, Text.byteLength_append]) hstop
    obtain ⟨kept, left, hpiece, hrep, hpos⟩ := he
    rw [hslice] at hpiece
    subst hpiece
    have hfront : e.span.stop = (front ++ (ahead ++ (kept ++ left))).byteLength := by
      simp only [hstop, hs, Text.byteLength_append]
      omega
    rw [hfront] at hc
    obtain ⟨ps, hres, horig, hins⟩ := ih _ hc (by rw [← ht]; simp)
    refine ⟨.kept (ahead ++ kept) :: .inserted i.2 :: .kept left :: ps, ?_, ?_, ?_⟩
    · rw [splice_cons hs hstop, hrep, hfront, ← hres]
      simp [Piece.text]
    · simp [Piece.source, horig]
    · have hleft : i.1 + left.byteLength = (front ++ (ahead ++ (kept ++ left))).byteLength := by
        rw [hpos, ← hfront, hstop, Text.byteLength_append, Nat.add_assoc]
      have hat : front.byteLength + (ahead ++ kept).byteLength = i.1 := by
        rw [hpos, hs, Text.byteLength_append, Nat.add_assoc]
      rw [Piece.insertions, Piece.insertions, Piece.insertions, hat, hleft, hins]

end Edit

namespace Text

/-- `p` is the position right behind the last character in the span that is not blank. -/
def IsVisibleEnd (t : Text) (s : Span) (p : Nat) : Prop :=
  ∃ visible c left, t.slice s = visible ++ c :: left ∧ isBlank c = false ∧
    (∀ d ∈ left, isBlank d = true) ∧
    p = s.start + byteLength (visible ++ [c])

theorem occursIn_iff {p t : Text} : occursIn p t = true ↔ p <:+: t := by
  induction t with
  | nil => rw [occursIn, List.infix_nil, List.isEmpty_iff]
  | cons c t ih => rw [occursIn, Bool.or_eq_true, List.isPrefixOf_iff_prefix, ih, List.infix_cons_iff]

theorem isVisibleEnd_trimEnd {t : Text} {s : Span} {c : Char} (hc : c ∈ t.slice s)
    (hb : isBlank c = false) : t.IsVisibleEnd s (s.start + (t.slice s).trimEnd.byteLength) := by
  have hsplit := trimEnd_append_blankEnd (t.slice s)
  have hne : (t.slice s).trimEnd ≠ [] := trimEnd_ne_nil hc hb
  have hlast := List.dropLast_append_getLast hne
  refine ⟨_, _, (t.slice s).blankEnd, ?_, trimEnd_getLast? (List.getLast?_eq_getLast_of_ne_nil hne),
    fun d hd => blankEnd_all hd, by rw [hlast]⟩
  rw [← hlast, List.append_assoc, List.singleton_append] at hsplit
  exact hsplit.symm

end Text

namespace Generation
variable {t : Text} {o : Options} {g : Generation}

theorem mem_missingImports {cs : List DataClass} {i : Text} :
    i ∈ missingImports t cs o ↔ i ∈ TransferClass.requiredImports cs o ∧ ¬ i <:+: t := by
  rw [missingImports, List.mem_filter, ← Text.occursIn_iff, Bool.not_eq_true', Bool.not_eq_true]

/-- The insertion of a transfer class behind its class. -/
def memberInsertion (t : Text) (o : Options) (c : DataClass) : Nat × Text :=
  (c.span.start + (t.slice c.span).trimEnd.byteLength, "\n\n" ++ (TransferClass.render c o).trimEnd)

theorem inserts_classEdit (hs : o.suffix ≠ []) (c : DataClass) :
    (classEdit t o c).Inserts t (memberInsertion t o c) := by
  refine ⟨(t.slice c.span).trimEnd, (t.slice c.span).blankEnd,
    (Text.trimEnd_append_blankEnd _).symm, ?_, rfl⟩
  rw [classEdit, replacementFor, if_neg (by simpa using hs), memberInsertion]
  simp

theorem isVisibleEnd_class (h : generate t o = .ok g) {c : DataClass} (hc : c ∈ g.classes) :
    t.IsVisibleEnd c.span (memberInsertion t o c).1 := by
  obtain ⟨gap, tail, hslice⟩ := exists_slice h hc
  exact Text.isVisibleEnd_trimEnd (c := 'c') (by rw [hslice]; simp) (by decide)

/-- With a suffix the edited text is the source with insertions only: the missing imports at one
point ahead of the first generated class, and each transfer class behind the last visible character
of its class. -/
theorem insertions_only (h : generate t o = .ok g) (hs : o.suffix ≠ []) :
    ∃ ps missing imports members, g.apply t = .ok (Piece.result ps) ∧ Piece.original ps = t ∧
      Piece.insertions 0 ps = imports ++ members ∧
      missing.Sublist (TransferClass.requiredImports g.classes o) ∧
      (∀ i, i ∈ missing ↔ i ∈ TransferClass.requiredImports g.classes o ∧ ¬ i <:+: t) ∧
      (imports = [] ∧ (g.classes = [] ∨ missing = []) ∨
        ∃ p lines, imports = [(p, lines)] ∧ missing ≠ [] ∧ (∃ c ∈ g.classes.head?, p ≤ c.span.start) ∧
          (lines = "\n".toList ++ Text.joinWith "\n" missing ∨
            p = 0 ∧ lines = Text.joinWith "\n" missing ++ "\n\n".toList)) ∧
      List.Forall₂ (fun c i => t.IsVisibleEnd c.span i.1 ∧
        i.2 = "\n\n".toList ++ (TransferClass.render c o).trimEnd) g.classes members := by
  have hclasses : List.Forall₂ (Edit.Inserts t) g.classEdits (g.classes.map (memberInsertion t o)) := by
    rw [classEdits_eq h, List.forall₂_map_left_iff, List.forall₂_map_right_iff, List.forall₂_same]
    intro c _
    exact inserts_classEdit hs c
  have hmembers : List.Forall₂ (fun c i => t.IsVisibleEnd c.span i.1 ∧
      i.2 = "\n\n".toList ++ (TransferClass.render c o).trimEnd) g.classes
        (g.classes.map (memberInsertion t o)) := by
    rw [List.forall₂_map_right_iff, List.forall₂_same]
    intro c hc
    exact ⟨isVisibleEnd_class h hc, rfl⟩
  have hcuts := cuts h
  have happly : g.apply t = .ok (Edit.splice 0 t g.edits) := Edit.applyAll_of_cuts hcuts
  have hsub : (missingImports t g.classes o).Sublist (TransferClass.requiredImports g.classes o) :=
    List.filter_sublist
  cases hi : g.importEdit with
  | none =>
    rw [edits, hi, Option.toList_none, List.nil_append] at hcuts happly
    obtain ⟨ps, hres, horig, hins⟩ := Edit.exists_pieces [] hcuts hclasses
    rw [importEdit_eq h, importEdit?_eq_none_iff] at hi
    refine ⟨ps, _, [], _, ?_, horig, hins, hsub, fun i => mem_missingImports, .inl ⟨rfl, hi⟩, hmembers⟩
    rw [happly, hres]
    rfl
  | some e =>
    have hedits : g.edits = e :: g.classEdits := by rw [edits, hi]; rfl
    rw [hedits] at hcuts happly
    rw [importEdit_eq h] at hi
    obtain ⟨c, cs, ahead, rest, hc, hne, rfl, hspan, hle, hrep⟩ := importEdit?_eq_some hi
    have hinsert : e.Inserts (ahead ++ rest) (ahead.byteLength, e.replacement) := by
      refine ⟨[], [], ?_, by simp, by rw [hspan]; rfl⟩
      rw [hspan, Text.slice_self]
      rfl
    obtain ⟨ps, hres, horig, hins⟩ := Edit.exists_pieces [] hcuts (hclasses.cons hinsert)
    refine ⟨ps, _, [(ahead.byteLength, e.replacement)], _, ?_, horig, hins, hsub,
      fun i => mem_missingImports, ?_, hmembers⟩
    · rw [happly, hres]
      rfl
    · refine .inr ⟨_, _, rfl, hne, ⟨c, by rw [hc]; rfl, hle⟩, ?_⟩
      rcases hrep with hrep | ⟨rfl, hrep⟩
      · exact .inl hrep
      · exact .inr ⟨rfl, hrep⟩

/-- A class with blanks behind it, below a comment that is not ASCII. -/
def blanksBehind : Text := "// é\nclass A \x7b\n  final B b; \x7d\n\n"

theorem insertions_only_blanksBehind :
    ∃ g ps, generate blanksBehind {} = .ok g ∧ ({} : Options).suffix ≠ [] ∧
    g.apply blanksBehind = .ok (Piece.result ps) ∧ Piece.original ps = blanksBehind := by
  obtain ⟨g, hg⟩ := exists_generation (t := blanksBehind) (o := {}) (by decide +kernel)
  have hs : ({} : Options).suffix ≠ [] := by decide
  obtain ⟨ps, -, -, -, happly, horig, -⟩ := insertions_only hg hs
  exact ⟨g, ps, hg, hs, happly, horig⟩

end Generation

end DartTransfer

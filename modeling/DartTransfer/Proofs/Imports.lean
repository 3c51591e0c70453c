import DartTransfer.Proofs.ImportFree
import DartTransfer.Proofs.Insertions

/-!
# The imports of an edited text

An import is missing when it stands nowhere in the text, and what is missing is inserted as lines
of its own. So an edited text has a required import as a line when it was missing, and otherwise when
it stands at the head of a line of the source that no edit takes out (`Generation.imports_iff`). What
is found in a comment is neither.
-/

namespace DartTransfer

open Text (Heads HasLine IsDirective Across atHead)

namespace TransferClass
variable {c : DataClass} {cs : List DataClass} {o : Options} {i : Text}

theorem convertImport_isDirective : IsDirective convertImport := by
  refine ⟨by decide, by decide, by decide, by decide, "import 'dart:convert'", by decide, by decide⟩

theorem equatableImport_isDirective : IsDirective equatableImport := by
  refine ⟨by decide, by decide, by decide, by decide, "import 'package:equatable/equatable.dart'",
    by decide, by decide⟩

theorem mem_requiredImports : i ∈ requiredImports cs o ↔
    i = convertImport ∨ i = equatableImport ∧ ∃ c ∈ cs, usesMixin c o = true := by
  have hmixin : (o.equality && cs.any (·.usesEquatable)) = true ↔ ∃ c ∈ cs, usesMixin c o = true := by
    simp only [usesMixin, Bool.and_eq_true, List.any_eq_true]
    exact ⟨fun ⟨ho, c, hc, hu⟩ => ⟨c, hc, ho, hu⟩, fun ⟨c, hc, ho, hu⟩ => ⟨ho, c, hc, hu⟩⟩
  rw [requiredImports, List.mem_cons, ← hmixin]
  split
  · next h => simp [h]
  · next h => simp [h]

theorem isDirective_of_mem (hi : i ∈ requiredImports cs o) : IsDirective i := by
  rcases mem_requiredImports.mp hi with rfl | ⟨rfl, -⟩
  · exact convertImport_isDirective
  · exact equatableImport_isDirective

/-- A transfer class starts with `class` and ends in a brace, with a newline behind it. -/
theorem trimEnd_render (c : DataClass) (o : Options) :
    ∃ r, (render c o).trimEnd = "class".toList ++ r ++ ['\x7d'] := by
  obtain ⟨header, hhead, -⟩ := exists_header c o
  have hrender : render c o = "class".toList ++ (' ' :: nameFor c.name o ++ (header ++ ['\x7b']) ++
      '\n' :: (fieldLines o.suffix c.fields ++ memberLines c o).flatMap (· ++ ['\n'])) ++
        ['\x7d'] ++ ['\n'] := by
    rw [render_eq, hhead, bodyLines, ← List.append_assoc (fieldLines ..), List.flatMap_append]
    simp
  have hlast : ∀ (r : Text), ∀ d ∈ (r ++ ['\x7d']).getLast?, isBlank d = false := by
    intro r d hd
    rw [List.getLast?_concat] at hd
    obtain rfl : '\x7d' = d := Option.some.inj hd
    decide
  rw [hrender, Text.trimEnd_run (hlast _) (List.all_eq_true.mp (by decide))]
  exact ⟨_, rfl⟩

end TransferClass

namespace Generation
variable {t p : Text} {o : Options} {g : Generation} {s : Bool}

theorem atHead_blankEnd {piece : Text} (hclass : "class".toList <+: piece) :
    atHead s piece = atHead false piece.blankEnd := by
  have hne : piece.trimEnd ≠ [] :=
    Text.trimEnd_ne_nil (c := 'c') (hclass.subset (by decide)) (by decide)
  have hlast := List.getLast?_eq_some_getLast hne
  have hsplit := Text.trimEnd_append_blankEnd piece
  rw [← hsplit, Text.atHead_append, hsplit,
    Text.atHead_of_getLast? hlast (Text.trimEnd_getLast? hlast)]

/-- The generated class ends in a brace, so what comes behind it stands apart. -/
theorem heads_render_append (hp : IsDirective p) {blanks : Text} (hblank : ∀ d ∈ blanks, isBlank d = true)
    (c : DataClass) (o : Options) (out : Text) :
    Heads p s (fun _ => True) ((TransferClass.render c o).trimEnd ++ (blanks ++ out)) ↔
      Heads p true (fun _ => True) (TransferClass.render c o) ∨
        Heads p (atHead false blanks) (fun _ => True) out := by
  obtain ⟨r, htrim⟩ := TransferClass.trimEnd_render c o
  have hbrace : '\x7d' ∈ (TransferClass.render c o).trimEnd.getLast? := by
    rw [htrim]
    exact List.getLast?_concat
  have hopen : "class".toList <+: (TransferClass.render c o).trimEnd :=
    ⟨r ++ ['\x7d'], by rw [htrim, List.append_assoc]⟩
  rw [Text.heads_append (hp.not_across_brace hbrace), Text.atHead_of_getLast? hbrace (by decide),
    hp.heads_blank_append hblank, ← hp.heads_trimEnd (TransferClass.render c o), hp.heads_class hopen,
    hp.heads_class (s := true) hopen]

/-- A class edit keeps the class when there is a suffix, and brings in the generated class. -/
theorem heads_replacementFor (hp : IsDirective p) {piece : Text} (hclass : "class".toList <+: piece)
    (c : DataClass) (o : Options) (out : Text) :
    Heads p s (fun _ => True) (replacementFor piece (TransferClass.render c o) o ++ out) ↔
      (o.suffix ≠ [] ∧ Heads p s (fun _ => True) piece) ∨
        Heads p true (fun _ => True) (TransferClass.render c o) ∨
        Heads p (atHead s piece) (fun _ => True) out := by
  have hblank : ∀ d ∈ piece.blankEnd, isBlank d = true := fun d hd => Text.blankEnd_all hd
  rw [atHead_blankEnd hclass, replacementFor]
  split
  · next hs =>
    rw [List.append_assoc, heads_render_append hp hblank]
    simp [List.isEmpty_iff.mp hs]
  · next hs =>
    have hsuffix : o.suffix ≠ [] := by simpa using hs
    have hgap : ∀ d ∈ "\n\n".toList, isBlank d = true := List.all_eq_true.mp (by decide)
    rw [List.append_assoc, List.append_assoc, List.append_assoc,
      Text.heads_append (hp.not_across_newline ?_), hp.heads_blank_append hgap,
      heads_render_append hp hblank, hp.heads_trimEnd]
    · simp [hsuffix]
    · rfl

theorem class_prefix_replacementFor {piece : Text} (hclass : "class".toList <+: piece) (c : DataClass)
    (o : Options) : "class".toList <+: replacementFor piece (TransferClass.render c o) o := by
  obtain ⟨r, htrim⟩ := TransferClass.trimEnd_render c o
  obtain ⟨tail, rfl⟩ := hclass
  rw [replacementFor]
  split
  · exact ⟨r ++ ['\x7d'] ++ Text.blankEnd ("class".toList ++ tail), by rw [htrim]; simp⟩
  · have hlast : ∀ d ∈ "class".toList.getLast?, isBlank d = false := by
      intro d hd
      obtain rfl : 's' = d := Option.some.inj hd
      decide
    rw [Text.trimEnd_append hlast]
    exact ⟨_, by simp only [List.append_assoc]; rfl⟩

/-! ### All class edits -/

/-- The text `p` behind `u` is in none of the classes that are replaced. -/
def Spared (o : Options) (cs : List DataClass) (p u : Text) : Prop :=
  o.suffix = [] → ∀ c ∈ cs, (u ++ p).byteLength ≤ c.span.start ∨ c.span.stop ≤ u.byteLength

/-- A class that begins with `class`, and ends in a brace or with the text. -/
structure IsClosed (t : Text) (s : Span) : Prop where
  open_eq : "class".toList <+: t.slice s
  close_eq : '\x7d' ∈ (t.slice s).getLast? ∨ s.stop = t.byteLength

theorem spared_of_le {cs : List DataClass} {u : Text}
    (h : ∀ c ∈ cs, (u ++ p).byteLength ≤ c.span.start) : Spared o cs p u :=
  fun _ c hc => .inl (h c hc)

theorem spared_cons_of_le {c : DataClass} {cs : List DataClass} {u : Text}
    (h : c.span.stop ≤ u.byteLength) : Spared o (c :: cs) p u ↔ Spared o cs p u := by
  refine forall_congr' fun _ => ?_
  rw [List.forall_mem_cons]
  exact and_iff_right (.inr h)

/-- Nothing inside a class is spared when the class is replaced. -/
theorem heads_spared_piece (hp : IsDirective p) {front piece : Text} {c : DataClass} {cs : List DataClass}
    (hstart : c.span.start = front.byteLength) (hstop : c.span.stop = (front ++ piece).byteLength) :
    Heads p s (fun u => Spared o (c :: cs) p (front ++ u)) piece ↔
      o.suffix ≠ [] ∧ Heads p s (fun _ => True) piece := by
  constructor
  · rintro ⟨u, v, rfl, hu, hspared⟩
    refine ⟨fun hs => ?_, u, v, rfl, hu, trivial⟩
    have hpos : p.byteLength ≠ 0 := mt Text.byteLength_eq_zero_iff.mp hp.ne_nil
    have hout := hspared hs c List.mem_cons_self
    simp only [Text.byteLength_append] at hout hstop
    omega
  · rintro ⟨hs, u, v, rfl, hu, -⟩
    exact ⟨u, v, rfl, hu, fun hnil => absurd hnil hs⟩

theorem IsClosed.not_across {front ahead piece rest : Text} {c : Span} (hp : IsDirective p)
    (hslice : (front ++ (ahead ++ piece ++ rest)).slice c = piece)
    (hstop : c.stop = (front ++ (ahead ++ piece)).byteLength)
    (h : IsClosed (front ++ (ahead ++ piece ++ rest)) c) : ¬ Across p piece rest := by
  rcases h.close_eq with hbrace | hend
  · exact hp.not_across_brace (hslice ▸ hbrace)
  · have hnil : rest = [] := by
      rw [hstop] at hend
      simp only [Text.byteLength_append] at hend
      exact Text.byteLength_eq_zero_iff.mp (by omega)
    exact Text.not_across_of_head (by simp [hnil])

/-- The source is cut where the result is: ahead of a class, in the class and behind it. -/
theorem heads_spared_cons (hp : IsDirective p) {front ahead piece rest : Text} {c : DataClass}
    {cs : List DataClass} (hclass : "class".toList <+: piece) (hbehind : ¬ Across p piece rest)
    (hstart : c.span.start = (front ++ ahead).byteLength)
    (hstop : c.span.stop = (front ++ (ahead ++ piece)).byteLength)
    (hlater : ∀ d ∈ cs, c.span.stop ≤ d.span.start) :
    Heads p s (fun u => Spared o (c :: cs) p (front ++ u)) (ahead ++ piece ++ rest) ↔
      Heads p s (fun _ => True) ahead ∨
        (o.suffix ≠ [] ∧ Heads p (atHead s ahead) (fun _ => True) piece) ∨
          Heads p (atHead s (ahead ++ piece))
            (fun u => Spared o cs p (front ++ (ahead ++ piece) ++ u)) rest := by
  have hahead : Heads p s (fun u => Spared o (c :: cs) p (front ++ u)) ahead ↔
      Heads p s (fun _ => True) ahead := by
    refine Heads.congr fun u v hu => iff_of_true (spared_of_le ?_) trivial
    have hle : (front ++ u ++ p).byteLength ≤ c.span.start := by
      rw [hstart, hu]
      simp only [Text.byteLength_append]
      omega
    refine List.forall_mem_cons.mpr ⟨hle, fun d hd => ?_⟩
    have hbetween : c.span.start ≤ c.span.stop := by
      rw [hstart, hstop]
      simp only [Text.byteLength_append]
      omega
    exact hle.trans (hbetween.trans (hlater d hd))
  have hpiece : Heads p (atHead s ahead) (fun u => Spared o (c :: cs) p (front ++ (ahead ++ u))) piece ↔
      o.suffix ≠ [] ∧ Heads p (atHead s ahead) (fun _ => True) piece := by
    simp only [← List.append_assoc] at hstop ⊢
    exact heads_spared_piece hp hstart hstop
  have hrest : Heads p (atHead s (ahead ++ piece))
      (fun u => Spared o (c :: cs) p (front ++ (ahead ++ (piece ++ u)))) rest ↔
        Heads p (atHead s (ahead ++ piece))
          (fun u => Spared o cs p (front ++ (ahead ++ piece) ++ u)) rest := by
    refine Heads.congr fun u v _ => ?_
    have hle : c.span.stop ≤ (front ++ (ahead ++ piece) ++ u).byteLength := by
      rw [hstop, Text.byteLength_append _ u]
      omega
    rw [← spared_cons_of_le hle]
    simp only [List.append_assoc]
  rw [List.append_assoc,
    Text.heads_append (hp.not_across_class (hclass.trans (List.prefix_append ..))),
    Text.heads_append hbehind, ← Text.atHead_append, hahead, hpiece, hrest]

/-- The class edits keep what is at the head of a line in no class that is replaced, and bring in
the generated classes. -/
theorem heads_splice (hp : IsDirective p) (front : Text) {rest : Text} {cs : List DataClass}
    (hcuts : Span.Cuts front.byteLength rest (cs.map (·.span)))
    (hcs : ∀ c ∈ cs, IsClosed (front ++ rest) c.span) :
    Heads p s (fun _ => True)
        (Edit.splice front.byteLength rest (cs.map (classEdit (front ++ rest) o))) ↔
      Heads p s (fun u => Spared o cs p (front ++ u)) rest ∨
        ∃ c ∈ cs, Heads p true (fun _ => True) (TransferClass.render c o) := by
  generalize ht : front ++ rest = t at hcs
  induction cs generalizing front rest s with
  | nil => simp [Edit.splice, Spared]
  | cons c cs ih =>
    obtain ⟨ahead, piece, rest, rfl, hstart, hstop, hcuts⟩ := hcuts
    dsimp only at hstart hstop hcuts
    have hfront : c.span.stop = (front ++ (ahead ++ piece)).byteLength := by
      rw [hstop, hstart, Text.byteLength_append, Text.byteLength_append, Nat.add_assoc]
    have hahead : c.span.start = (front ++ ahead).byteLength := by
      rw [hstart, Text.byteLength_append]
    have hslice : t.slice c.span = piece := by
      rw [← ht, ← List.append_assoc, ← List.append_assoc]
      exact Text.slice_append hahead hstop
    obtain ⟨hclosed, hcs⟩ := List.forall_mem_cons.mp hcs
    have hclass : "class".toList <+: piece := hslice ▸ hclosed.open_eq
    have hbehind : ¬ Across p piece rest := IsClosed.not_across hp (ht ▸ hslice) hfront (ht ▸ hclosed)
    have hlater : ∀ d ∈ cs, c.span.stop ≤ d.span.start :=
      fun d hd => hcuts.le_start _ (List.mem_map_of_mem hd)
    have hsource := heads_spared_cons (s := s) (o := o) hp hclass hbehind hahead hfront hlater
    have hopen : "class".toList <+: (classEdit t o c).replacement :=
      class_prefix_replacementFor (hslice.symm ▸ hclass) c o
    rw [hfront] at hcuts
    have hrest := ih (s := atHead s (ahead ++ piece)) _ hcuts (by rw [← ht]; simp) hcs
    rw [List.map_cons, Edit.splice_cons (e := classEdit t o c) hstart hstop, hsource, List.append_assoc,
      Text.heads_append (hp.not_across_class (hopen.trans (List.prefix_append ..))), classEdit, hslice,
      heads_replacementFor hp hclass, hfront, ← Text.atHead_append, hrest, List.exists_mem_cons_iff,
      or_assoc, or_assoc]
    exact or_congr_right (or_congr_right or_left_comm)

theorem isClosed_of_mem (h : generate t o = .ok g) {c : DataClass} (hc : c ∈ g.classes) :
    IsClosed t c.span := by
  obtain ⟨gap, tail, hslice⟩ := exists_slice h hc
  obtain ⟨d, hd, hof⟩ := exists_source h hc
  refine ⟨⟨gap ++ c.name ++ tail, by rw [hslice]; simp⟩, ?_⟩
  rw [(DataClass.ofSource?_eq_some hof).2.1]
  exact SourceClass.getLast?_slice_of_mem_locate hd

/-! ### The inserted lines -/

theorem isDirective_of_mem_missing {cs : List DataClass} : ∀ i ∈ missingImports t cs o, IsDirective i :=
  fun _ hi => TransferClass.isDirective_of_mem (mem_missingImports.mp hi).1

theorem atHead_of_endsInImport (h : t.EndsInImport) : atHead s t = false := by
  obtain ⟨front, line, rfl, hn, himport⟩ := h
  have hvisible : ∃ d ∈ line, isBlank d = false := by
    rw [isImportLine, Bool.or_eq_true] at himport
    rcases himport with hword | hword
    · obtain ⟨r, hr⟩ := Option.isSome_iff_exists.mp hword
      obtain ⟨-, rfl, -⟩ := Text.wordAt?_eq_some_iff.mp hr
      exact ⟨'i', by simp, by decide⟩
    · obtain ⟨r, hr⟩ := Option.isSome_iff_exists.mp hword
      obtain ⟨-, rfl, -⟩ := Text.wordAt?_eq_some_iff.mp hr
      exact ⟨'l', by simp, by decide⟩
  obtain ⟨d, hd, hb⟩ := hvisible
  rw [Text.atHead_append, Text.atHead_of_mem hd hb hn]

theorem class_prefix_of_takeBytes (h : generate t o = .ok g) {c : DataClass} {cs : List DataClass}
    (hcs : g.classes = c :: cs) {rest : Text} (ht : t = t.takeBytes c.span.start ++ rest) :
    "class".toList <+: rest := by
  have hcuts := cuts_classes h
  rw [hcs] at hcuts
  obtain ⟨front, piece, tail, ht', hstart, hstop, -⟩ := hcuts
  have hfront : t.takeBytes c.span.start = front := by
    rw [hstart, Nat.zero_add, ht', List.append_assoc, Text.takeBytes_byteLength]
  have hrest : rest = piece ++ tail := by
    rw [hfront, ht', List.append_assoc] at ht
    exact (List.append_cancel_left ht).symm
  have hclass := (isClosed_of_mem h (hcs ▸ List.mem_cons_self)).open_eq
  rw [ht', Text.slice_append (by rw [hstart, Nat.zero_add]) hstop] at hclass
  exact hrest ▸ hclass.trans (List.prefix_append ..)

/-- The text is cut between lines where the imports go in, and each of them becomes a line. -/
theorem heads_importEdit (hp : IsDirective p) (h : generate t o = .ok g) {e : Edit}
    (he : importEdit? t g.classes o = some e) :
    ∃ ahead rest, t = ahead ++ rest ∧ e.span = ⟨ahead.byteLength, ahead.byteLength⟩ ∧
      ¬ Across p ahead rest ∧ ∀ out,
        Heads p true (fun _ => True) (ahead ++ (e.replacement ++ out)) ↔
          Heads p true (fun _ => True) ahead ∨ p ∈ missingImports t g.classes o ∨
            Heads p (atHead true ahead) (fun _ => True) out := by
  obtain ⟨c, cs, ahead, rest, hcs, hne, ht, hspan, -, hrep⟩ := importEdit?_anchored he
  refine ⟨ahead, rest, ht, hspan, ?_, fun out => ?_⟩
  · rcases hrep with ⟨-, rfl | hnewline, -⟩ | ⟨rfl, -⟩
    · exact hp.not_across_class (class_prefix_of_takeBytes h hcs ht)
    · exact Text.not_across_of_head fun d hd => hnewline d hd ▸ hp.newline_notMem
    · exact Text.not_across_of_getLast? (by simp)
  · rcases hrep with ⟨hends, -, hrep⟩ | ⟨rfl, hrep⟩
    · have hstate : atHead true ahead = false := atHead_of_endsInImport hends
      rw [hrep, hstate]
      exact hp.heads_below hne isDirective_of_mem_missing hstate
    · have habove := hp.heads_above (b := out) hne isDirective_of_mem_missing
      rw [List.nil_append, hrep]
      exact habove.trans (or_iff_right (hp.not_heads_blank (by simp))).symm

theorem edits_eq (h : generate t o = .ok g) :
    g.edits = (importEdit? t g.classes o).toList ++ g.classes.map (classEdit t o) := by
  rw [edits, importEdit_eq h, classEdits_eq h]

/-- With an import edit the result is the text ahead of it, the imports and what the class edits make
of the rest. -/
theorem splice_edits (h : generate t o = .ok g) {e : Edit} (he : importEdit? t g.classes o = some e)
    {ahead rest : Text} (ht : t = ahead ++ rest) (hspan : e.span = ⟨ahead.byteLength, ahead.byteLength⟩) :
    Span.Cuts ahead.byteLength rest (g.classes.map (·.span)) ∧
      Edit.splice 0 t g.edits = ahead ++ (e.replacement ++
        Edit.splice ahead.byteLength rest (g.classes.map (classEdit t o))) := by
  have hedits : g.edits = e :: g.classes.map (classEdit t o) := by
    rw [edits_eq h, he]
    rfl
  have hcuts := cuts h
  rw [hedits] at hcuts ⊢
  obtain ⟨front, piece, tail, ht', hstart, hstop, hcuts⟩ := hcuts
  simp only [hspan] at hstart hstop hcuts
  obtain rfl : piece = [] := Text.byteLength_eq_zero_iff.mp (by omega)
  rw [List.append_nil] at ht'
  obtain ⟨rfl, rfl⟩ := Text.append_inj_of_byteLength (ht'.symm.trans ht) (by omega)
  have hstart' : e.span.start = 0 + front.byteLength := by rw [hspan, Nat.zero_add]
  have hstop' : e.span.stop = e.span.start + Text.byteLength [] := by rw [hspan]; rfl
  refine ⟨?_, ?_⟩
  · rw [← span_classEdits h, classEdits_eq h]
    exact hcuts
  · have hsplice : Edit.splice 0 (front ++ [] ++ tail) (e :: g.classes.map (classEdit t o)) = _ :=
      Edit.splice_cons hstart' hstop'
    rw [List.append_nil, ← ht, hspan] at hsplice
    rw [hsplice, List.append_assoc]

theorem hasLine_apply_iff (h : generate t o = .ok g) (hne : g.classes ≠ []) {i : Text}
    (hi : i ∈ TransferClass.requiredImports g.classes o) :
    HasLine i (Edit.splice 0 t g.edits) ↔ ¬ i <:+: t ∨ Heads i true (Spared o g.classes i) t ∨
      ∃ c ∈ g.classes, HasLine i (TransferClass.render c o) := by
  have hclosed : ∀ c ∈ g.classes, IsClosed t c.span := fun c hc => isClosed_of_mem h hc
  have hp := TransferClass.isDirective_of_mem hi
  simp only [← Text.heads_iff hp]
  cases hedit : importEdit? t g.classes o with
  | none =>
    have hmissing := (importEdit?_eq_none_iff.mp hedit).resolve_left hne
    have hin : i <:+: t := by
      by_contra hnot
      exact absurd (mem_missingImports.mpr ⟨hi, hnot⟩) (by simp [hmissing])
    have hsplice := heads_splice (s := true) hp (o := o) [] (cuts_classes h) hclosed
    rw [edits_eq h, hedit]
    exact hsplice.trans (or_iff_right (not_not.mpr hin)).symm
  | some e =>
    obtain ⟨ahead, rest, ht, hspan, hapart, hheads⟩ := heads_importEdit hp h hedit
    obtain ⟨hcuts, happly⟩ := splice_edits h hedit ht hspan
    have hsplice := heads_splice (s := atHead true ahead) hp (o := o) ahead hcuts (ht ▸ hclosed)
    rw [← ht] at hsplice
    have hahead : Heads i true (Spared o g.classes i) ahead ↔ Heads i true (fun _ => True) ahead := by
      refine Heads.congr fun u v hu => iff_of_true (spared_of_le fun c hc => ?_) trivial
      have hle := hcuts.le_start _ (List.mem_map_of_mem hc)
      rw [hu, Text.byteLength_append] at hle
      omega
    have hsource : Heads i true (Spared o g.classes i) t ↔ Heads i true (fun _ => True) ahead ∨
        Heads i (atHead true ahead) (fun u => Spared o g.classes i (ahead ++ u)) rest := by
      rw [ht, Text.heads_append hapart, hahead]
    have hmissing : i ∈ missingImports t g.classes o ↔ ¬ i <:+: t :=
      mem_missingImports.trans (and_iff_right hi)
    rw [happly, hheads, hsplice, hsource, hmissing]
    exact or_left_comm.trans (or_congr_right or_assoc.symm)

/-- No generated line is a required import. -/
theorem not_hasLine_render_of_mem (h : generate t o = .ok g) (hs : isIdentifierTail o.suffix = true)
    {i : Text} (hi : i ∈ TransferClass.requiredImports g.classes o) :
    ∀ c ∈ g.classes, ¬ HasLine i (TransferClass.render c o) := by
  intro c hc
  have himport : "import '".toList <+: i := by
    rcases TransferClass.mem_requiredImports.mp hi with rfl | ⟨rfl, -⟩ <;> decide
  exact TransferClass.not_hasLine_render (classes_wellFormed h c hc)
    (isIdentifierPart_of_isIdentifierTail hs) (TransferClass.isDirective_of_mem hi) himport

/-- Behind a run the text has a required import as a line exactly when the source had it nowhere, or
had it at the head of a line and in no class that is replaced. Of the lines that are generated it is
none, unless a suffix that is no part of an identifier brings it in. -/
theorem imports_iff (h : generate t o = .ok g) (hne : g.classes ≠ []) :
    TransferClass.convertImport ∈ TransferClass.requiredImports g.classes o ∧
      (TransferClass.equatableImport ∈ TransferClass.requiredImports g.classes o ↔
        ∃ c ∈ g.classes, TransferClass.usesMixin c o = true) ∧
      ∃ r, g.apply t = .ok r ∧ ∀ i ∈ TransferClass.requiredImports g.classes o,
        (HasLine i r ↔ ¬ i <:+: t ∨ Heads i true (Spared o g.classes i) t ∨
          ∃ c ∈ g.classes, HasLine i (TransferClass.render c o)) ∧
        (isIdentifierTail o.suffix = true →
          ∀ c ∈ g.classes, ¬ HasLine i (TransferClass.render c o)) := by
  refine ⟨TransferClass.mem_requiredImports.mpr (.inl rfl), ?_, _, Edit.applyAll_of_cuts (cuts h),
    fun i hi => ⟨hasLine_apply_iff h hne hi, fun hs => not_hasLine_render_of_mem h hs hi⟩⟩
  rw [TransferClass.mem_requiredImports, or_iff_right (by decide), and_iff_right rfl]

/-- A class that has one import above it and one in its body. -/
def importTwice : Text :=
  "import 'dart:convert';\nclass A \x7b\n  final int x; // import 'dart:convert';\n\x7d\n"

theorem imports_iff_importTwice :
    ∃ g r, generate importTwice { suffix := "" } = .ok g ∧ g.classes ≠ [] ∧
      g.apply importTwice = .ok r ∧ HasLine TransferClass.convertImport r := by
  obtain ⟨g, hg, hclasses⟩ := exists_generation_of_any (t := importTwice) (o := { suffix := "" })
    (p := fun g => !g.classes.isEmpty && g.classes.all (22 ≤ ·.span.start)) (by decide +kernel)
  rw [Bool.and_eq_true, List.all_eq_true] at hclasses
  have hne : g.classes ≠ [] := by simpa using hclasses.1
  obtain ⟨hmem, -, r, hr, hall⟩ := imports_iff hg hne
  have hlength : Text.byteLength ([] ++ TransferClass.convertImport) = 22 := by decide
  refine ⟨g, r, hg, hne, hr, (hall _ hmem).1.mpr (.inr (.inl ?_))⟩
  refine ⟨[], importTwice.drop 22, by decide, rfl, fun _ c hc => .inl ?_⟩
  rw [hlength]
  exact of_decide_eq_true (hclasses.2 c hc)

/-- An import that the source has, but in no line of its own, is missing behind a run. -/
theorem exists_not_hasLine (h : generate t o = .ok g) (hne : g.classes ≠ [])
    (hs : isIdentifierTail o.suffix = true) {i : Text}
    (hi : i ∈ TransferClass.requiredImports g.classes o) (hin : i <:+: t) (hline : ¬ HasLine i t) :
    ∃ r ∈ (g.apply t).toOption, ¬ HasLine i r := by
  have happly : g.apply t = .ok (Edit.splice 0 t g.edits) := Edit.applyAll_of_cuts (cuts h)
  refine ⟨_, by rw [happly]; rfl, ?_⟩
  rw [hasLine_apply_iff h hne hi]
  rintro (hnot | ⟨u, v, ht, hu, -⟩ | ⟨c, hc, hrender⟩)
  · exact hnot hin
  · exact hline ((Text.heads_iff (TransferClass.isDirective_of_mem hi)).mp ⟨u, v, ht, hu, trivial⟩)
  · exact not_hasLine_render_of_mem h hs hi c hc hrender

/-- A class below a comment with an import in it. -/
def importInComment : Text := "// import 'dart:convert';\nclass A \x7b\n  final int x;\n\x7d\n"

/-- A class with an import in its body. -/
def importInClass : Text := "class A \x7b\n  final int x; // import 'dart:convert';\n\x7d\n"

/-- The import is found in the comment, or in the class that is replaced, and is not inserted. -/
theorem import_notInserted :
    (∃ g ∈ (generate importInComment {}).toOption, g.classes ≠ [] ∧
      ∃ r ∈ (g.apply importInComment).toOption, ¬ HasLine TransferClass.convertImport r) ∧
    ∃ g ∈ (generate importInClass { suffix := "" }).toOption, g.classes ≠ [] ∧
      ∃ r ∈ (g.apply importInClass).toOption, ¬ HasLine TransferClass.convertImport r := by
  have hmem {cs : List DataClass} {o : Options} :
      TransferClass.convertImport ∈ TransferClass.requiredImports cs o :=
    TransferClass.mem_requiredImports.mpr (.inl rfl)
  constructor
  · obtain ⟨g, hg, hclasses⟩ := exists_generation_of_any (t := importInComment) (o := {})
      (p := (!·.classes.isEmpty)) (by decide +kernel)
    have hne : g.classes ≠ [] := by simpa using hclasses
    exact ⟨g, by rw [hg]; rfl, hne, exists_not_hasLine hg hne (by decide) hmem (by decide) (by decide)⟩
  · obtain ⟨g, hg, hclasses⟩ := exists_generation_of_any (t := importInClass) (o := { suffix := "" })
      (p := (!·.classes.isEmpty)) (by decide +kernel)
    have hne : g.classes ≠ [] := by simpa using hclasses
    exact ⟨g, by rw [hg]; rfl, hne, exists_not_hasLine hg hne (by decide) hmem (by decide) (by decide)⟩

end Generation

end DartTransfer

import DartTransfer.DataClass
import DartTransfer.Proofs.Declarations

/-!
# Comments and the fields they stand at

The text of a comment is trimmed and within one line (`Text.IsComment`), and whatever a class body
declares consists of a type, a name and such comments (`SourceClass.declaredFields_wellRead`). A
comment walk adds a comment to the run above the next field, hands the run to the field that ends
it, and drops it at any other line.
-/

namespace DartTransfer

namespace Text

/-- A text with no blank at either end. -/
structure IsTrimmed (t : Text) : Prop where
  start : ∀ c ∈ t.head?, isBlank c = false
  stop : ∀ c ∈ t.getLast?, isBlank c = false

theorem mem_of_mem_trimStart {c : Char} {t : Text} (h : c ∈ trimStart t) : c ∈ t :=
  (List.dropWhile_sublist _).mem h

theorem mem_of_mem_trimEnd {c : Char} {t : Text} (h : c ∈ trimEnd t) : c ∈ t := by
  rw [← trimEnd_append_blankEnd t]
  exact List.mem_append_left _ h

theorem mem_of_mem_trim {c : Char} {t : Text} (h : c ∈ trim t) : c ∈ t :=
  mem_of_mem_trimStart (mem_of_mem_trimEnd h)

theorem isTrimmed_trim (t : Text) : IsTrimmed (trim t) := by
  refine ⟨?_, fun _ hc => trimEnd_getLast? hc⟩
  intro c hc
  have hstart : c ∈ (trimStart t).head? := by
    rw [← trimEnd_append_blankEnd (trimStart t), List.head?_append, ← trim, Option.mem_def.mp hc]
    rfl
  exact head?_dropWhile hstart

theorem IsTrimmed.trim_eq {t : Text} (h : IsTrimmed t) : trim t = t := by
  have hstart : trimStart t = t := dropWhile_run (a := []) (by simp) h.start
  have hstop : trimEnd (t ++ []) = t := trimEnd_run h.stop (by simp)
  rw [trim, hstart, ← List.append_nil t, hstop, List.append_nil]

/-- What the text of a comment can be. -/
structure IsComment (t : Text) : Prop where
  trimmed : t.IsTrimmed
  newline : '\n' ∉ t

end Text

theorem isComment_of_commentText? {line t : Text} (hn : '\n' ∉ line)
    (h : commentText? line = some t) : t.IsComment := by
  obtain ⟨r, hr, rfl⟩ := Option.map_eq_some_iff.mp h
  refine ⟨Text.isTrimmed_trim _, fun hc => hn ?_⟩
  have hmem : '\n' ∈ r := (List.dropWhile_sublist _).mem (Text.mem_of_mem_trim hc)
  refine Text.mem_of_mem_trimStart ?_
  rw [Text.stripPrefix?_eq_some_iff.mp hr]
  exact List.mem_append_right _ hmem

theorem commentText?_of_ownCommentText? {line t : Text} (h : ownCommentText? line = some t) :
    commentText? line = some t := by
  rw [ownCommentText?] at h
  split at h
  · exact absurd h nofun
  · exact h

/-- A comment starts with a character that no modifier has. -/
theorem DeclaresNoField.of_commentText? {line t : Text} (h : commentText? line = some t) :
    DeclaresNoField line := by
  obtain ⟨r, hr, -⟩ := Option.map_eq_some_iff.mp h
  refine .of_foreign ⟨line.takeWhile isBlank, [], '/', '/' :: r, ?_, ?_, rfl, by decide, by decide⟩
  · rw [List.append_nil]
    calc line = line.takeWhile isBlank ++ Text.trimStart line := List.takeWhile_append_dropWhile.symm
      _ = line.takeWhile isBlank ++ '/' :: '/' :: r := by rw [Text.stripPrefix?_eq_some_iff.mp hr]; rfl
  · exact List.all_eq_true.mpr fun c hc => Text.takeWhile_all hc

theorem isComment_of_mem_ownCommentRun {ls : List Text} (hls : ∀ l ∈ ls, '\n' ∉ l) :
    ∀ t ∈ ownCommentRun ls, t.IsComment := by
  induction ls with
  | nil => simp [ownCommentRun]
  | cons l ls ih =>
    intro t ht
    rw [ownCommentRun] at ht
    split at ht
    · next u hu =>
      rcases List.mem_cons.mp ht with rfl | ht
      · exact isComment_of_commentText? (hls l List.mem_cons_self) (commentText?_of_ownCommentText? hu)
      · exact ih (fun m hm => hls m (List.mem_cons_of_mem _ hm)) t ht
    · exact absurd ht List.not_mem_nil

namespace DeclaredField

/-- What a field that is read off the lines of a class can hold. -/
structure WellRead (f : DeclaredField) : Prop where
  type : f.type.IsType
  semicolon : ';' ∉ f.type
  newline : '\n' ∉ f.type
  name : f.name.IsIdentifier
  leading : ∀ t ∈ f.leading, t.IsComment
  trailing : ∀ t ∈ f.trailing, t.IsComment

theorem wellRead_ofDeclaration {line : Text} {d : Declaration} {leading trailing : List Text}
    (hn : '\n' ∉ line) (hd : Declaration.parse? line = some d) (hl : ∀ t ∈ leading, t.IsComment)
    (ht : ∀ t ∈ trailing, t.IsComment) :
    (ofDeclaration d leading trailing).WellRead := by
  obtain ⟨lead, gap, pad, h⟩ := Declaration.exists_readAs hd
  exact ⟨h.type, h.semicolon_notMem_type, fun hc => hn (h.mem_of_mem_type hc), h.name, hl, ht⟩

end DeclaredField

theorem commentedFieldsAfter_wellRead {above ls : List Text} (ha : ∀ t ∈ above, t.IsComment)
    (hls : ∀ l ∈ ls, '\n' ∉ l) : ∀ f ∈ commentedFieldsAfter above ls, f.WellRead := by
  fun_induction commentedFieldsAfter above ls with
  | case1 => simp
  | case2 above l ls d hd below ih =>
    have hl : '\n' ∉ l := hls l List.mem_cons_self
    have hls' : ∀ m ∈ ls, '\n' ∉ m := fun m hm => hls m (List.mem_cons_of_mem _ hm)
    obtain ⟨hparse, -⟩ := Option.filter_eq_some_iff.mp hd
    intro f hf
    rcases List.mem_cons.mp hf with rfl | hf
    · refine DeclaredField.wellRead_ofDeclaration hl hparse ha fun t ht => ?_
      rcases List.mem_append.mp ht with ht | ht
      · refine isComment_of_commentText? ?_ (Option.mem_toList.mp ht)
        obtain ⟨lead, gap, pad, h⟩ := Declaration.exists_readAs hparse
        intro hc
        refine hl ?_
        rw [h.append]
        exact List.mem_append_right _ (List.mem_cons_of_mem _ hc)
      · exact isComment_of_mem_ownCommentRun hls' t ht
    · exact ih (by simp) (fun m hm => hls' m (List.mem_of_mem_drop hm)) f hf
  | case3 above l ls hd t ht ih =>
    refine ih ?_ fun m hm => hls m (List.mem_cons_of_mem _ hm)
    intro u hu
    rcases List.mem_append.mp hu with hu | hu
    · exact ha u hu
    · rw [List.mem_singleton.mp hu]
      exact isComment_of_commentText? (hls l List.mem_cons_self) ht
  | case4 above l ls hd ht ih => exact ih (by simp) fun m hm => hls m (List.mem_cons_of_mem _ hm)

theorem permissiveFields_wellRead (body : Text) : ∀ f ∈ permissiveFields body, f.WellRead := by
  intro f hf
  obtain ⟨l, hl, e⟩ := List.mem_filterMap.mp hf
  obtain ⟨d, hd, rfl⟩ := Option.map_eq_some_iff.mp e
  exact DeclaredField.wellRead_ofDeclaration (Text.newline_notMem_of_mem_lines body l hl) hd
    (by simp) (by simp)

theorem SourceClass.declaredFields_wellRead (c : SourceClass) (e : Extraction) :
    ∀ f ∈ c.declaredFields e, f.WellRead := by
  cases e with
  | directiveAware =>
    exact commentedFieldsAfter_wellRead (by simp) (Text.newline_notMem_of_mem_lines c.body)
  | permissive => exact permissiveFields_wellRead c.body

/-! ### The walk without its comments -/

/-- The final declaration that a line is, as a walk looks for it. -/
def Declaration.final? (line : Text) : Option Declaration := (parse? line).filter (·.isFinal)

/-- The lines that a field takes below it declare nothing that the walk looks for. -/
theorem filterMap_drop_ownCommentRun (ls : List Text) :
    (ls.drop (ownCommentRun ls).length).filterMap Declaration.final? =
      ls.filterMap Declaration.final? := by
  induction ls with
  | nil => rfl
  | cons l ls ih =>
    rw [ownCommentRun]
    split
    · next t ht =>
      have hl : Declaration.final? l = none :=
        DeclaresNoField.of_commentText? (commentText?_of_ownCommentText? ht)
      rw [List.length_cons, List.drop_succ_cons, ih, List.filterMap_cons_none hl]
    · rw [List.length_nil, List.drop_zero]

/-- A field less its comments. -/
def DeclaredField.bare (f : DeclaredField) : DeclaredField := ⟨f.type, f.name, f.isMarked, [], []⟩

/-- The comments apart, a walk gives the final declarations of the lines. -/
theorem map_bare_commentedFieldsAfter (above ls : List Text) :
    (commentedFieldsAfter above ls).map (·.bare) =
      (ls.filterMap Declaration.final?).map (.ofDeclaration · [] []) := by
  fun_induction commentedFieldsAfter above ls with
  | case1 => rfl
  | case2 above l ls d hd below ih =>
    have hl : Declaration.final? l = some d := hd
    rw [List.map_cons, ih, filterMap_drop_ownCommentRun, List.filterMap_cons_some hl, List.map_cons]
    rfl
  | case3 above l ls hd t ht ih =>
    have hl : Declaration.final? l = none := hd
    rw [ih, List.filterMap_cons_none hl]
  | case4 above l ls hd ht ih =>
    have hl : Declaration.final? l = none := hd
    rw [ih, List.filterMap_cons_none hl]

/-! ### The walk on single lines -/

section
variable {above ls : List Text} {l : Text}

theorem commentedFieldsAfter_comment {t : Text} (hl : DeclaresNoField l)
    (ht : commentText? l = some t) :
    commentedFieldsAfter above (l :: ls) = commentedFieldsAfter (above ++ [t]) ls := by
  rw [commentedFieldsAfter, show (Declaration.parse? l).filter (·.isFinal) = none from hl, ht]

theorem commentedFieldsAfter_declaration {d : Declaration} (hd : Declaration.parse? l = some d)
    (hfinal : d.isFinal = true) (hrest : d.rest = []) (hls : ownCommentRun ls = []) :
    commentedFieldsAfter above (l :: ls) = .ofDeclaration d above [] :: commentedFieldsAfter [] ls := by
  have hfilter : (Declaration.parse? l).filter (·.isFinal) = some d :=
    Option.filter_eq_some_iff.mpr ⟨hd, hfinal⟩
  rw [commentedFieldsAfter, hfilter]
  dsimp only
  rw [hrest, hls]
  rfl

theorem commentedFieldsAfter_eq_nil (hls : ∀ l ∈ ls, DeclaresNoField l) :
    commentedFieldsAfter above ls = [] := by
  induction ls generalizing above with
  | nil => rw [commentedFieldsAfter]
  | cons l ls ih =>
    have hl : (Declaration.parse? l).filter (·.isFinal) = none := hls l List.mem_cons_self
    rw [commentedFieldsAfter, hl]
    have hrest : ∀ m ∈ ls, DeclaresNoField m := fun m hm => hls m (List.mem_cons_of_mem _ hm)
    cases commentText? l with
    | none => exact ih hrest
    | some t => exact ih hrest

end

end DartTransfer

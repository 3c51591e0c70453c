import DartTransfer.Field
import DartTransfer.Proofs.CharacterClasses
import DartTransfer.Proofs.Runs
import Mathlib.Data.List.Basic
import Mathlib.Tactic.Set

/-!
# How a line is read as a declaration

A line with a semicolon is a declaration when the part ahead of the first one ends in a name, and a
type with its modifiers stands ahead of the name: `Declaration.ReadAs` names the parts, and
`Declaration.parse?_eq_some_iff` says that these are the lines that are read. A line declares no
final field when its first word has a character that no modifier has (`DeclaresNoField.of_foreign`).
-/

namespace DartTransfer

/-- What a declaration can have as its type: a dotted name, with arguments or without. -/
structure Text.IsType (t : Text) : Prop where
  start : ∃ c ∈ (t.takeWhile (· != '<')).head?, isIdentifierStart c = true
  parts : ∀ c ∈ t.takeWhile (· != '<'), Declaration.isTypePart c = true
  arguments : Declaration.areTypeArguments (t.dropWhile (· != '<')) = true

namespace Text.IsType
variable {t suffix : Text}

theorem append (t : Text) : t.takeWhile (· != '<') ++ t.dropWhile (· != '<') = t :=
  List.takeWhile_append_dropWhile

theorem ne_nil (h : t.IsType) : t ≠ [] := by
  rintro rfl
  obtain ⟨c, hc, -⟩ := h.start
  simp at hc

/-- A type ends in a part of its name or in the bracket that closes its arguments. -/
theorem getLast?_eq (h : t.IsType) : ∀ c ∈ t.getLast?, c = '>' ∨ Declaration.isTypePart c = true := by
  intro c hc
  rw [← append t, List.getLast?_append] at hc
  have harg := h.arguments
  rw [Declaration.areTypeArguments, Bool.or_eq_true, Bool.and_eq_true, beq_iff_eq,
    List.isEmpty_iff] at harg
  rcases harg with harg | ⟨harg, -⟩
  · rw [harg] at hc
    exact .inr (h.parts c (List.mem_of_getLast? hc))
  · rw [harg] at hc
    exact .inl (Option.some.inj hc).symm

theorem getLast?_not_isBlank (h : t.IsType) : ∀ c ∈ t.getLast?, isBlank c = false := by
  intro c hc
  rcases h.getLast?_eq c hc with rfl | hc
  · decide
  · exact isBlank_of_isTypePart hc

theorem getLast?_ne_mark (h : t.IsType) : t.getLast? ≠ some '?' := by
  intro e
  rcases h.getLast?_eq '?' e with e | e
  · exact absurd e (by decide)
  · rw [isTypePart_of_mem_marks (by decide)] at e
    exact Bool.noConfusion e

theorem arguments_head? (t : Text) : ∀ c ∈ (t.dropWhile (· != '<')).head?, (c != '<') = false :=
  fun _ hc => Text.head?_dropWhile (p := (· != '<')) hc

/-- The type of the generated class is a type too. -/
theorem companionType (h : t.IsType) (hs : ∀ c ∈ suffix, isIdentifierPart c = true) :
    (companionType t suffix).IsType := by
  have hparts : ∀ c ∈ t.takeWhile (· != '<') ++ suffix, Declaration.isTypePart c = true := by
    intro c hc
    rcases List.mem_append.mp hc with hc | hc
    · exact h.parts c hc
    · exact isTypePart_of_isIdentifierPart (hs c hc)
  have hne : ∀ c ∈ t.takeWhile (· != '<') ++ suffix, (c != '<') = true := by
    intro c hc
    refine bne_iff_ne.mpr ?_
    rintro rfl
    exact notMem_of_isTypePart hparts (by decide) hc
  have hfront :
      (DartTransfer.companionType t suffix).takeWhile (· != '<') = t.takeWhile (· != '<') ++ suffix :=
    Text.takeWhile_run hne (arguments_head? t)
  have hback : (DartTransfer.companionType t suffix).dropWhile (· != '<') = t.dropWhile (· != '<') :=
    Text.dropWhile_run hne (arguments_head? t)
  refine ⟨?_, ?_, ?_⟩
  · obtain ⟨c, hc, hstart⟩ := h.start
    rw [hfront]
    exact ⟨c, by rw [List.head?_append, Option.mem_def.mp hc]; rfl, hstart⟩
  · rw [hfront]
    exact hparts
  · rw [hback]
    exact h.arguments

end Text.IsType

namespace Declaration
variable {line lead gap pad : Text} {d : Declaration}

theorem modifiersAndType?_eq_some_iff {t type : Text} {ms : List Text} :
    modifiersAndType? t = some (ms, type) ↔
    ∃ lead, t = lead ++ type ∧ '<' ∉ lead ∧ (∀ c ∈ lead.getLast?, isTypePart c = false) ∧ type.IsType ∧
      ms = Text.words lead ∧ ∀ m ∈ ms, m ∈ modifierWords := by
  constructor
  · intro e
    simp only [modifiersAndType?] at e
    split at e
    · next hif =>
      rw [Bool.and_eq_true, Bool.and_eq_true] at hif
      obtain ⟨⟨harg, hstart⟩, hall⟩ := hif
      obtain ⟨rfl, rfl⟩ := Prod.mk.inj (Option.some.inj e)
      set front := t.takeWhile (· != '<')
      set arguments := t.dropWhile (· != '<')
      have hfront : (Text.splitEnd isTypePart front).1 ++ (Text.splitEnd isTypePart front).2 = front :=
        Text.splitEnd_append isTypePart front
      have hne : ∀ c ∈ front, (c != '<') = true := fun _ hc => Text.takeWhile_all (p := (· != '<')) hc
      have hne₂ : ∀ c ∈ (Text.splitEnd isTypePart front).2, (c != '<') = true := fun c hc =>
        hne c (by rw [← hfront]; exact List.mem_append_right _ hc)
      refine ⟨(Text.splitEnd isTypePart front).1, ?_, ?_, fun _ hc => Text.splitEnd_fst_getLast? hc,
        ?_, rfl, ?_⟩
      · rw [← List.append_assoc, hfront]
        exact List.takeWhile_append_dropWhile.symm
      · intro hc
        exact absurd (hne '<' (by rw [← hfront]; exact List.mem_append_left _ hc)) (by decide)
      · refine ⟨?_, ?_, ?_⟩
        · rw [Text.takeWhile_run hne₂ (Text.IsType.arguments_head? t)]
          simpa [Option.any_eq_true] using hstart
        · rw [Text.takeWhile_run hne₂ (Text.IsType.arguments_head? t)]
          exact fun _ hc => Text.splitEnd_snd_all hc
        · rw [Text.dropWhile_run hne₂ (Text.IsType.arguments_head? t)]
          exact harg
      · intro m hm
        exact List.contains_iff_mem.mp (List.all_eq_true.mp hall m hm)
    · exact absurd e nofun
  · rintro ⟨lead, rfl, hopen, hlast, htype, rfl, hall⟩
    have hne : ∀ c ∈ lead, (c != '<') = true := fun c hc => bne_iff_ne.mpr fun e => hopen (e ▸ hc)
    have hfront : (lead ++ type).takeWhile (· != '<') = lead ++ type.takeWhile (· != '<') :=
      List.takeWhile_append_of_pos hne
    have hback : (lead ++ type).dropWhile (· != '<') = type.dropWhile (· != '<') :=
      List.dropWhile_append_of_pos hne
    simp only [modifiersAndType?, hfront, hback, Text.splitEnd_run hlast htype.parts]
    rw [if_pos, Text.IsType.append]
    rw [Bool.and_eq_true, Bool.and_eq_true]
    refine ⟨⟨htype.arguments, ?_⟩, ?_⟩
    · simpa [Option.any_eq_true] using htype.start
    · exact List.all_eq_true.mpr fun m hm => List.contains_iff_mem.mpr (hall m hm)

/-- The `?` of a marked type. -/
def mark (d : Declaration) : Text := if d.isMarked then "?" else ""

/-- How a declaration is read off a line. -/
structure ReadAs (d : Declaration) (line lead gap pad : Text) : Prop where
  append : line = lead ++ d.type ++ d.mark ++ gap ++ d.name ++ pad ++ ';' :: d.rest
  free : ';' ∉ lead ++ d.type
  type : d.type.IsType
  name : d.name.IsIdentifier
  gap_ne : gap ≠ []
  gap_blank : ∀ c ∈ gap, isBlank c = true
  pad_blank : ∀ c ∈ pad, isBlank c = true
  lead_end : ∀ c ∈ lead.getLast?, isTypePart c = false
  lead_open : '<' ∉ lead
  modifiers : ∀ m ∈ Text.words lead, m ∈ modifierWords
  included : ∀ m ∈ Text.words lead, m ∉ excludedModifiers
  isFinal : d.isFinal = (Text.words lead).contains "final"
  plain : d.type ∉ statementWords

theorem parse?_eq_none (h : ';' ∉ line) : parse? line = none := by
  have hne : ∀ c ∈ line, (c != ';') = true := fun c hc => bne_iff_ne.mpr fun e => h (e ▸ hc)
  have : line.dropWhile (· != ';') = [] := by
    simpa using Text.dropWhile_run (b := []) hne (by simp)
  rw [parse?, this]

theorem splitMark_append (t : Text) :
    t = (splitMark t).1 ++ (if (splitMark t).2 then "?" else "" : Text) := by
  rw [splitMark]
  split
  · next h =>
    obtain ⟨s, rfl⟩ := List.getLast?_eq_some_iff.mp (beq_iff_eq.mp h)
    simp
  · simp

theorem splitMark_of_ne {t : Text} (h : t.getLast? ≠ some '?') (isMarked : Bool) :
    splitMark (t ++ (if isMarked then "?" else "" : Text)) = (t, isMarked) := by
  cases isMarked with
  | true => simp [splitMark]
  | false => simpa [splitMark] using h

/-- The declaration that `front` makes up, in a line that goes on with a semicolon and `rest`. -/
def before? (front rest : Text) : Option Declaration :=
  let (lead, name) := Text.splitEnd isIdentifierPart (Text.trimEnd front)
  let (typed, isMarked) := splitMark (Text.trimEnd lead)
  match modifiersAndType? typed with
  | none => none
  | some (modifiers, type) =>
    if name.head?.any isIdentifierStart && lead.getLast?.any isBlank &&
        !modifiers.any excludedModifiers.contains && !statementWords.contains type then
      some ⟨type, name, isMarked, modifiers.contains "final", rest⟩
    else none

theorem parse?_append {front rest : Text} (h : ';' ∉ front) :
    parse? (front ++ ';' :: rest) = before? front rest := by
  have hne : ∀ c ∈ front, (c != ';') = true := fun c hc => bne_iff_ne.mpr fun e => h (e ▸ hc)
  have hsemi : ∀ c ∈ (';' :: rest).head?, (c != ';') = false := by simp
  unfold parse?
  rw [Text.dropWhile_run hne hsemi, Text.takeWhile_run hne hsemi]
  rfl

theorem exists_readAs (e : parse? line = some d) : ∃ lead gap pad, d.ReadAs line lead gap pad := by
  have hsemi : ';' ∈ line := by
    refine Decidable.byContradiction fun h => ?_
    rw [parse?_eq_none h] at e
    exact absurd e nofun
  obtain ⟨front, rest, rfl, hfront⟩ := List.eq_append_cons_of_mem hsemi
  rw [parse?_append hfront] at e
  unfold before? at e
  dsimp only at e
  have hpad := Text.trimEnd_append_blankEnd front
  have hname := Text.splitEnd_append isIdentifierPart (Text.trimEnd front)
  set behind := (Text.splitEnd isIdentifierPart (Text.trimEnd front)).1
  set name := (Text.splitEnd isIdentifierPart (Text.trimEnd front)).2
  have hgap := Text.trimEnd_append_blankEnd behind
  have hmark := splitMark_append (Text.trimEnd behind)
  split at e
  · exact absurd e nofun
  · next ms type hms =>
    split at e
    · next hif =>
      cases e
      obtain ⟨lead, htyped, hopen, hlast, htype, rfl, hall⟩ := modifiersAndType?_eq_some_iff.mp hms
      simp only [Bool.and_eq_true, Bool.not_eq_true', List.any_eq_false] at hif
      obtain ⟨⟨⟨hstart, hblank⟩, hincluded⟩, hplain⟩ := hif
      have happend :
          front = lead ++ type ++ (if (splitMark (Text.trimEnd behind)).2 then "?" else "" : Text) ++
          Text.blankEnd behind ++ name ++ Text.blankEnd front := by
        rw [← htyped, ← hmark, hgap, hname, hpad]
      refine ⟨lead, Text.blankEnd behind, Text.blankEnd front, ?_, ?_, htype, ⟨?_, ?_⟩, ?_, ?_, ?_,
        hlast, hopen, hall, ?_, rfl, ?_⟩
      · exact congrArg (· ++ ';' :: rest) happend
      · intro hc
        refine hfront ?_
        rw [happend]
        iterate 4 refine List.mem_append_left _ ?_
        exact hc
      · simpa [Option.any_eq_true] using hstart
      · exact fun _ hc => Text.splitEnd_snd_all hc
      · intro hnil
        rw [hnil, List.append_nil] at hgap
        obtain ⟨c, hc, hb⟩ := (Option.any_eq_true ..).mp hblank
        rw [← hgap] at hc
        rw [Text.trimEnd_getLast? hc] at hb
        exact Bool.false_ne_true hb
      · exact fun _ hc => Text.blankEnd_all hc
      · exact fun _ hc => Text.blankEnd_all hc
      · exact fun m hm hex => hincluded m hm (List.contains_iff_mem.mpr hex)
      · intro hm
        rw [List.contains_iff_mem.mpr hm] at hplain
        exact Bool.noConfusion hplain
    · exact absurd e nofun

theorem ReadAs.parse?_eq (h : d.ReadAs line lead gap pad) : parse? line = some d := by
  have hpad : ';' ∉ gap ++ d.name ++ pad := by
    rw [List.mem_append, List.mem_append]
    rintro ((hc | hc) | hc)
    · exact absurd (h.gap_blank _ hc) (by decide)
    · exact h.name.notMem (isIdentifierPart_of_mem_marks (by decide)) hc
    · exact absurd (h.pad_blank _ hc) (by decide)
  have hmark : ';' ∉ d.mark := by
    rw [mark]
    split <;> decide
  have hfront : ';' ∉ lead ++ d.type ++ d.mark ++ gap ++ d.name ++ pad := by
    have := h.free
    simp only [List.mem_append, not_or] at this hpad ⊢
    exact ⟨⟨⟨⟨this, hmark⟩, hpad.1.1⟩, hpad.1.2⟩, hpad.2⟩
  have hname : ∀ c ∈ (lead ++ d.type ++ d.mark ++ gap ++ d.name).getLast?, isBlank c = false := by
    intro c hc
    rw [List.getLast?_append_of_ne_nil _ h.name.ne_nil] at hc
    exact isBlank_of_isIdentifierPart (h.name.2 c (List.mem_of_getLast? hc))
  have hgap : ∀ c ∈ (lead ++ d.type ++ d.mark ++ gap).getLast?, isBlank c = true := by
    intro c hc
    rw [List.getLast?_append_of_ne_nil _ h.gap_ne] at hc
    exact h.gap_blank c (List.mem_of_getLast? hc)
  have htyped : ∀ c ∈ (lead ++ d.type ++ d.mark).getLast?, isBlank c = false := by
    intro c hc
    rw [mark] at hc
    split at hc
    · simp at hc
      subst hc
      decide
    · rw [show "".toList = ([] : Text) from rfl, List.append_nil,
        List.getLast?_append_of_ne_nil _ h.type.ne_nil] at hc
      exact h.type.getLast?_not_isBlank c hc
  have hmarks : (lead ++ d.type).getLast? ≠ some '?' := by
    rw [List.getLast?_append_of_ne_nil _ h.type.ne_nil]
    exact h.type.getLast?_ne_mark
  rw [h.append, parse?_append hfront]
  unfold before?
  rw [Text.trimEnd_run hname h.pad_blank,
    Text.splitEnd_run (fun c hc => isIdentifierPart_of_isBlank (hgap c hc)) h.name.2]
  dsimp only
  rw [Text.trimEnd_run htyped h.gap_blank, mark, splitMark_of_ne hmarks]
  dsimp only
  rw [modifiersAndType?_eq_some_iff.mpr ⟨lead, rfl, h.lead_open, h.lead_end, h.type, rfl, h.modifiers⟩]
  dsimp only
  rw [if_pos, ← h.isFinal]
  simp only [Bool.and_eq_true, Bool.not_eq_true', List.any_eq_false]
  refine ⟨⟨⟨?_, ?_⟩, ?_⟩, ?_⟩
  · simpa [Option.any_eq_true] using h.name.1
  · obtain ⟨c, hc⟩ := Option.isSome_iff_exists.mp
      (List.getLast?_isSome.mpr
        (List.append_ne_nil_of_right_ne_nil (lead ++ d.type ++ d.mark) h.gap_ne))
    exact (Option.any_eq_true ..).mpr ⟨c, hc, hgap c hc⟩
  · exact fun m hm hex => h.included m hm (List.contains_iff_mem.mp hex)
  · rw [Bool.eq_false_iff]
    exact fun hm => h.plain (List.contains_iff_mem.mp hm)

theorem ReadAs.mem_of_mem_type (h : d.ReadAs line lead gap pad) {c : Char} (hc : c ∈ d.type) :
    c ∈ line := by
  rw [h.append]
  simp [hc]

theorem ReadAs.semicolon_notMem_type (h : d.ReadAs line lead gap pad) : ';' ∉ d.type :=
  fun hc => h.free (List.mem_append_right lead hc)

theorem of_mem_modifierWords {w : Text} (hw : w ∈ modifierWords) :
    w ≠ [] ∧ ∀ c ∈ w, isTypePart c = true := by
  have hall : modifierWords.all (fun w => !w.isEmpty && w.all isTypePart) = true := by decide
  have h := List.all_eq_true.mp hall w hw
  rw [Bool.and_eq_true, Bool.not_eq_true', List.isEmpty_eq_false_iff] at h
  exact ⟨h.1, List.all_eq_true.mp h.2⟩

/-- The first modifier is the first word of the line, for the type is no part of it. -/
theorem ReadAs.words_eq (h : d.ReadAs line lead gap pad) {m : Text} {ms : List Text}
    (hm : Text.words lead = m :: ms) : ∃ ws, Text.words line = m :: ws ∧ m ∈ modifierWords := by
  obtain ⟨b, r, hlead, hb, hne, hword, hr⟩ := Text.words_eq_cons hm
  have hmod : m ∈ modifierWords := h.modifiers m (by rw [hm]; exact List.mem_cons_self)
  cases r with
  | nil =>
    obtain ⟨c, hc⟩ := Option.isSome_iff_exists.mp (List.getLast?_isSome.mpr hne)
    have hlast :=
      h.lead_end c (by rw [hlead, List.append_nil, List.getLast?_append_of_ne_nil b hne]; exact hc)
    rw [(of_mem_modifierWords hmod).2 c (List.mem_of_getLast? hc)] at hlast
    exact absurd hlast.symm Bool.false_ne_true
  | cons c r =>
    refine ⟨Text.words (c :: (r ++ (d.type ++ d.mark ++ gap ++ d.name ++ pad ++ ';' :: d.rest))),
      ?_, hmod⟩
    have hline :
        line = b ++ (m ++ c :: (r ++ (d.type ++ d.mark ++ gap ++ d.name ++ pad ++ ';' :: d.rest))) := by
      rw [h.append, hlead]
      simp only [List.append_assoc, List.cons_append]
    rw [hline, Text.words_blanks hb, Text.words_run hne hword (by simpa using hr)]

theorem parse?_eq_some_iff : parse? line = some d ↔ ∃ lead gap pad, d.ReadAs line lead gap pad :=
  ⟨exists_readAs, fun ⟨_, _, _, h⟩ => h.parse?_eq⟩

end Declaration

/-- Whether the line is no final field, as a comment walk asks. -/
def DeclaresNoField (line : Text) : Prop := (Declaration.parse? line).filter (·.isFinal) = none

namespace DeclaresNoField

instance (line : Text) : Decidable (DeclaresNoField line) := inferInstanceAs (Decidable (_ = _))

theorem of_notMem {line : Text} (h : ';' ∉ line) : DeclaresNoField line := by
  rw [DeclaresNoField, Declaration.parse?_eq_none h]
  rfl

end DeclaresNoField

/-- Whether the first word of the text has a character that no modifier has. -/
def Text.HasForeignWord (t : Text) : Prop := ∃ b u c r, t = b ++ u ++ c :: r ∧ b.all isBlank = true ∧
  u.all (!isBlank ·) = true ∧ isBlank c = false ∧ ∀ m ∈ modifierWords, c ∉ m

theorem Text.HasForeignWord.append {t : Text} (h : t.HasForeignWord) (s : Text) :
    (t ++ s).HasForeignWord := by
  obtain ⟨b, u, c, r, rfl, hb, hu, hc, hm⟩ := h
  exact ⟨b, u, c, r ++ s, by rw [List.append_assoc _ (c :: r), List.cons_append], hb, hu, hc, hm⟩

theorem Text.HasForeignWord.words_eq {t : Text} (h : t.HasForeignWord) :
    ∃ w ws, t.words = w :: ws ∧ ∃ c ∈ w, ∀ m ∈ modifierWords, c ∉ m := by
  obtain ⟨b, u, c, r, rfl, hb, hu, hc, hm⟩ := h
  refine ⟨u ++ c :: r.takeWhile (!isBlank ·), Text.words (r.dropWhile (!isBlank ·)), ?_, c,
    List.mem_append_right u List.mem_cons_self, hm⟩
  have hword : ∀ e ∈ u ++ c :: r.takeWhile (!isBlank ·), isBlank e = false := by
    intro e he
    rcases List.mem_append.mp he with he | he
    · exact isBlank_of_all hu e he
    · rcases List.mem_cons.mp he with rfl | he
      · exact hc
      · simpa using Text.takeWhile_all he
  rw [← Text.words_run (by simp) hword
    fun e he => by simpa using Text.head?_dropWhile he, List.append_assoc,
    Text.words_blanks (List.all_eq_true.mp hb), List.append_assoc, List.cons_append,
      List.takeWhile_append_dropWhile]

/-- Such a line declares no final field, for a modifier would have to come first. -/
theorem DeclaresNoField.of_foreign {line : Text} (hline : line.HasForeignWord) :
    DeclaresNoField line := by
  rw [DeclaresNoField, Option.filter_eq_none_iff]
  intro d hd
  obtain ⟨lead, gap, pad, h⟩ := Declaration.exists_readAs hd
  rw [h.isFinal, Bool.not_eq_true, Bool.eq_false_iff]
  intro hfinal
  cases hw : Text.words lead with
  | nil =>
    rw [hw] at hfinal
    exact absurd hfinal (by decide)
  | cons m ms =>
    obtain ⟨ws, hm, hmod⟩ := h.words_eq hw
    obtain ⟨w, ws', hw', c, hc, hforeign⟩ := hline.words_eq
    obtain rfl : m = w := (List.cons.inj (hm.symm.trans hw')).1
    exact hforeign m hmod hc

end DartTransfer

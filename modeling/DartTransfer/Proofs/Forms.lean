import DartTransfer.Proofs.Comments

/-!
# The written form of a declaration

`Declaration.Form` names the parts of a line that declares a field, from its indentation to what
stands behind the semicolon. A line has at most one such form (`Form.text_injective`): read from the
first semicolon leftwards, each part is the longest run of its characters. The lines that are read as
declarations are those with a form in which no modifier and no type is ruled out
(`parse?_eq_some_iff_form`).
-/

namespace DartTransfer

namespace Declaration

/-- The parts of a declaration as they are written. -/
structure Form where
  indent : Text
  /-- The modifier words, each with the blanks after it. -/
  modifiers : List (Text × Text)
  typeName : Text
  /-- What stands between the angle brackets after the type name, if they are there. -/
  arguments : Option Text
  isMarked : Bool
  gap : Text
  name : Text
  pad : Text
  rest : Text
  deriving DecidableEq, Repr

namespace Form

def modifierText (ms : List (Text × Text)) : Text := ms.flatMap fun (word, gap) => word ++ gap

def lead (f : Form) : Text := f.indent ++ modifierText f.modifiers

def argumentText : Option Text → Text
  | some a => '<' :: (a ++ ['>'])
  | none => []

def type (f : Form) : Text := f.typeName ++ argumentText f.arguments

/-- The modifiers and the type with its mark. -/
def marked (f : Form) : Text := f.lead ++ f.type ++ (if f.isMarked then "?" else "" : Text)

/-- All that stands ahead of the semicolon. -/
def front (f : Form) : Text := f.marked ++ f.gap ++ f.name ++ f.pad

def text (f : Form) : Text := f.front ++ ';' :: f.rest

/-- The modifier words. -/
def words (f : Form) : List Text := f.modifiers.map (·.1)

/-- A modifier with what separates it from the next word. -/
structure IsModifier (m : Text × Text) : Prop where
  word : m.1 ∈ modifierWords
  gap_ne : m.2 ≠ []
  gap_blank : ∀ c ∈ m.2, isBlank c = true

/-- What the parts can be. The name of a type starts as an identifier does; its arguments may hold
anything but a semicolon and an equals sign. -/
structure WellFormed (f : Form) : Prop where
  indent : ∀ c ∈ f.indent, isBlank c = true
  modifiers : ∀ m ∈ f.modifiers, IsModifier m
  typeStart : ∃ c ∈ f.typeName.head?, isIdentifierStart c = true
  typeName : ∀ c ∈ f.typeName, isTypePart c = true
  arguments : ∀ a ∈ f.arguments, ';' ∉ a ∧ '=' ∉ a
  gap_ne : f.gap ≠ []
  gap_blank : ∀ c ∈ f.gap, isBlank c = true
  name : f.name.IsIdentifier
  pad : ∀ c ∈ f.pad, isBlank c = true

/-- The forms of lines that are read: no modifier and no type is ruled out. -/
structure Accepted (f : Form) : Prop extends WellFormed f where
  included : ∀ w ∈ f.words, w ∉ excludedModifiers
  plain : f.type ∉ statementWords

/-- The declaration that is written. -/
def declaration (f : Form) : Declaration :=
  ⟨f.type, f.name, f.isMarked, f.words.contains "final", f.rest⟩

/-! ### Modifiers -/

namespace IsModifier
variable {m : Text × Text}

theorem word_ne (h : IsModifier m) : m.1 ≠ [] := (of_mem_modifierWords h.word).1

theorem word_not_isBlank (h : IsModifier m) : ∀ c ∈ m.1, isBlank c = false :=
  fun c hc => isBlank_of_isTypePart ((of_mem_modifierWords h.word).2 c hc)

/-- The word ends where the gap starts. -/
theorem head?_gap_append (h : IsModifier m) (t : Text) : ∀ c ∈ (m.2 ++ t).head?, isBlank c = true := by
  intro c hc
  rw [List.head?_append_of_ne_nil _ h.gap_ne] at hc
  exact h.gap_blank c (List.mem_of_head? hc)

end IsModifier

section
variable {ms ns : List (Text × Text)}

theorem modifierText_cons (m : Text × Text) (ms : List (Text × Text)) :
    modifierText (m :: ms) = m.1 ++ (m.2 ++ modifierText ms) := by
  rw [modifierText, List.flatMap_cons, List.append_assoc]
  rfl

theorem head?_modifierText (hms : ∀ m ∈ ms, IsModifier m) :
    ∀ c ∈ (modifierText ms).head?, isBlank c = false := by
  cases ms with
  | nil => intro c hc; exact absurd hc (by simp [modifierText])
  | cons m ms =>
    have hm := hms m List.mem_cons_self
    intro c hc
    rw [modifierText_cons, List.head?_append_of_ne_nil _ hm.word_ne] at hc
    exact hm.word_not_isBlank c (List.mem_of_head? hc)

theorem getLast?_modifierText (hms : ∀ m ∈ ms, IsModifier m) :
    ∀ c ∈ (modifierText ms).getLast?, isBlank c = true := by
  induction ms with
  | nil => intro c hc; exact absurd hc (by simp [modifierText])
  | cons m ms ih =>
    have hm := hms m List.mem_cons_self
    intro c hc
    rw [modifierText_cons, List.getLast?_append_of_ne_nil _ (List.append_ne_nil_of_left_ne_nil hm.gap_ne _),
      List.getLast?_append] at hc
    rcases Option.or_eq_some_iff.mp hc with hc | ⟨-, hc⟩
    · exact ih (fun n hn => hms n (List.mem_cons_of_mem m hn)) c hc
    · exact hm.gap_blank c (List.mem_of_getLast? hc)

theorem words_modifierText (hms : ∀ m ∈ ms, IsModifier m) :
    Text.words (modifierText ms) = ms.map (·.1) := by
  induction ms with
  | nil => rfl
  | cons m ms ih =>
    have hm := hms m List.mem_cons_self
    rw [modifierText_cons, Text.words_run hm.word_ne hm.word_not_isBlank (hm.head?_gap_append _),
      Text.words_blanks hm.gap_blank, ih fun n hn => hms n (List.mem_cons_of_mem m hn), List.map_cons]

theorem modifierText_injective (hms : ∀ m ∈ ms, IsModifier m) (hns : ∀ n ∈ ns, IsModifier n)
    (h : modifierText ms = modifierText ns) : ms = ns := by
  induction ms generalizing ns with
  | nil =>
    cases ns with
    | nil => rfl
    | cons n ns =>
      rw [modifierText_cons] at h
      exact absurd (List.append_eq_nil_iff.mp h.symm).1 (hns n List.mem_cons_self).word_ne
  | cons m ms ih =>
    have hm := hms m List.mem_cons_self
    have hms' : ∀ n ∈ ms, IsModifier n := fun n hn => hms n (List.mem_cons_of_mem m hn)
    cases ns with
    | nil =>
      rw [modifierText_cons] at h
      exact absurd (List.append_eq_nil_iff.mp h).1 hm.word_ne
    | cons n ns =>
      have hn := hns n List.mem_cons_self
      have hns' : ∀ m ∈ ns, IsModifier m := fun m hm => hns m (List.mem_cons_of_mem n hm)
      rw [modifierText_cons, modifierText_cons] at h
      obtain ⟨hword, h⟩ := Text.run_inj (p := fun c => !isBlank c) h (by simpa using hm.word_not_isBlank)
        (by simpa using hm.head?_gap_append _) (by simpa using hn.word_not_isBlank)
        (by simpa using hn.head?_gap_append _)
      obtain ⟨hgap, h⟩ := Text.run_inj h hm.gap_blank (head?_modifierText hms') hn.gap_blank
        (head?_modifierText hns')
      rw [Prod.ext hword hgap, ih hms' hns' h]

/-- Modifier words with blanks after each are modifiers, as the words of a text tell. -/
theorem exists_modifiers {lead : Text} (hwords : ∀ w ∈ Text.words lead, w ∈ modifierWords)
    (hend : ∀ c ∈ lead.getLast?, isTypePart c = false) :
    ∃ indent ms, lead = indent ++ modifierText ms ∧ (∀ c ∈ indent, isBlank c = true) ∧
      ∀ m ∈ ms, IsModifier m := by
  generalize hws : Text.words lead = ws at hwords
  induction ws generalizing lead with
  | nil => exact ⟨lead, [], (List.append_nil lead).symm, Text.isBlank_of_words_eq_nil hws, by simp⟩
  | cons w ws ih =>
    obtain ⟨indent, r, rfl, hindent, hne, hword, hr⟩ := Text.words_eq_cons hws
    have hw := of_mem_modifierWords (hwords w List.mem_cons_self)
    -- a word that ends the text would end it with a part of a type
    have hrne : r ≠ [] := by
      rintro rfl
      obtain ⟨c, hc⟩ := Option.isSome_iff_exists.mp (List.getLast?_isSome.mpr hne)
      rw [List.append_nil, List.getLast?_append_of_ne_nil _ hne] at hend
      have hpart := hw.2 c (List.mem_of_getLast? hc)
      rw [hend c hc] at hpart
      exact Bool.noConfusion hpart
    rw [List.append_assoc, Text.words_blanks hindent, Text.words_run hne hword hr] at hws
    rw [List.getLast?_append_of_ne_nil _ hrne] at hend
    obtain ⟨gap, ms, rfl, hgap, hms⟩ := ih hend (List.cons.inj hws).2
      fun v hv => hwords v (List.mem_cons_of_mem w hv)
    refine ⟨indent, (w, gap) :: ms, by rw [modifierText_cons, List.append_assoc], hindent, ?_⟩
    intro m hm
    rcases List.mem_cons.mp hm with rfl | hm
    · refine ⟨hwords w List.mem_cons_self, ?_, hgap⟩
      rintro rfl
      obtain ⟨c, u, hcu⟩ := List.exists_cons_of_ne_nil hrne
      have hc : c ∈ (modifierText ms).head? := by
        rw [← List.nil_append (modifierText ms), hcu]
        rfl
      have hblank := hr c hc
      rw [head?_modifierText hms c hc] at hblank
      exact Bool.noConfusion hblank
    · exact hms m hm

end

/-! ### Types -/

theorem head?_argumentText (arguments : Option Text) :
    ∀ c ∈ (argumentText arguments).head?, (c != '<') = false := by
  cases arguments <;> simp [argumentText]

theorem argumentText_injective {x y : Option Text} (h : argumentText x = argumentText y) : x = y := by
  cases x with
  | none =>
    cases y with
    | none => rfl
    | some b => exact absurd h.symm (List.cons_ne_nil _ _)
  | some a =>
    cases y with
    | none => exact absurd h (List.cons_ne_nil _ _)
    | some b => rw [List.append_cancel_right (List.cons.inj h).2]

theorem exists_argumentText {t : Text} (ht : areTypeArguments t = true)
    (hhead : ∀ c ∈ t.head?, (c != '<') = false) :
    ∃ arguments, t = argumentText arguments ∧ ∀ a ∈ arguments, '=' ∉ a := by
  rw [areTypeArguments, Bool.or_eq_true, Bool.and_eq_true, beq_iff_eq, List.isEmpty_iff] at ht
  cases t with
  | nil => exact ⟨none, rfl, by simp⟩
  | cons c t =>
    obtain rfl : c = '<' := by simpa using hhead c rfl
    rcases ht with ht | ⟨hlast, heq⟩
    · exact absurd ht (List.cons_ne_nil _ _)
    · obtain ⟨u, hu⟩ := List.getLast?_eq_some_iff.mp hlast
      cases u with
      | nil => exact absurd (List.cons.inj hu).1 (by decide)
      | cons d u =>
        obtain ⟨rfl, rfl⟩ := List.cons.inj hu
        refine ⟨some u, rfl, ?_⟩
        intro a ha
        obtain rfl : u = a := Option.some.inj ha
        simp only [List.contains_eq_mem, Bool.not_eq_true', decide_eq_false_iff_not] at heq
        exact fun hm => heq (by simp [hm])

theorem areTypeArguments_argumentText {arguments : Option Text} (h : ∀ a ∈ arguments, '=' ∉ a) :
    areTypeArguments (argumentText arguments) = true := by
  cases arguments with
  | none => rfl
  | some a =>
    have hlast : ('<' :: (a ++ ['>'])).getLast? = some '>' := List.getLast?_concat (l := '<' :: a)
    have ha := h a rfl
    simp [areTypeArguments, argumentText, hlast, ha]

namespace WellFormed
variable {f g : Form}

theorem typeName_ne_open (h : f.WellFormed) : ∀ c ∈ f.typeName, (c != '<') = true := by
  intro c hc
  refine bne_iff_ne.mpr ?_
  rintro rfl
  exact notMem_of_isTypePart h.typeName (by decide) hc

theorem takeWhile_type (h : f.WellFormed) : f.type.takeWhile (· != '<') = f.typeName :=
  Text.takeWhile_run h.typeName_ne_open (head?_argumentText f.arguments)

theorem dropWhile_type (h : f.WellFormed) : f.type.dropWhile (· != '<') = argumentText f.arguments :=
  Text.dropWhile_run h.typeName_ne_open (head?_argumentText f.arguments)

theorem isType (h : f.WellFormed) : f.type.IsType := by
  refine ⟨?_, ?_, ?_⟩
  · rw [h.takeWhile_type]
    exact h.typeStart
  · rw [h.takeWhile_type]
    exact h.typeName
  · rw [h.dropWhile_type]
    exact areTypeArguments_argumentText fun a ha => (h.arguments a ha).2

theorem semicolon_notMem_type (h : f.WellFormed) : ';' ∉ f.type := by
  rw [type, List.mem_append]
  rintro (hc | hc)
  · exact notMem_of_isTypePart h.typeName (by decide) hc
  · cases ha : f.arguments with
    | none => simp [ha, argumentText] at hc
    | some a =>
      have hnot := (h.arguments a ha).1
      simp [ha, argumentText, hnot] at hc

/-! ### What stands ahead of the type -/

theorem words_lead (h : f.WellFormed) : Text.words f.lead = f.words := by
  rw [lead, Text.words_blanks h.indent, words_modifierText h.modifiers, words]

theorem mem_lead (h : f.WellFormed) {c : Char} (hc : c ∈ f.lead) :
    isBlank c = true ∨ isTypePart c = true := by
  rcases List.mem_append.mp hc with hc | hc
  · exact .inl (h.indent c hc)
  · obtain ⟨m, hm, hc⟩ := List.mem_flatMap.mp hc
    rcases List.mem_append.mp hc with hc | hc
    · exact .inr ((of_mem_modifierWords (h.modifiers m hm).word).2 c hc)
    · exact .inl ((h.modifiers m hm).gap_blank c hc)

theorem notMem_lead (h : f.WellFormed) {c : Char} (hb : isBlank c = false) (hm : c ∈ marks) :
    c ∉ f.lead := by
  intro hc
  rcases h.mem_lead hc with hblank | hpart
  · rw [hb] at hblank
    exact Bool.noConfusion hblank
  · rw [isTypePart_of_mem_marks hm] at hpart
    exact Bool.noConfusion hpart

/-- A lead ends in a blank. -/
theorem getLast?_lead (h : f.WellFormed) : ∀ c ∈ f.lead.getLast?, isBlank c = true := by
  intro c hc
  rw [lead, List.getLast?_append] at hc
  rcases Option.or_eq_some_iff.mp hc with hc | ⟨-, hc⟩
  · exact getLast?_modifierText h.modifiers c hc
  · exact h.indent c (List.mem_of_getLast? hc)

theorem getLast?_lead_not_isTypePart (h : f.WellFormed) :
    ∀ c ∈ f.lead.getLast?, isTypePart c = false := by
  intro c hc
  exact isTypePart_of_isBlank (h.getLast?_lead c hc)

/-! ### A line has one form -/

theorem lead_injective (hf : f.WellFormed) (hg : g.WellFormed) (h : f.lead = g.lead) :
    f.indent = g.indent ∧ f.modifiers = g.modifiers := by
  obtain ⟨hindent, hms⟩ := Text.run_inj h hf.indent (head?_modifierText hf.modifiers) hg.indent
    (head?_modifierText hg.modifiers)
  exact ⟨hindent, modifierText_injective hf.modifiers hg.modifiers hms⟩

theorem getLast?_typed (h : f.WellFormed) : (f.lead ++ f.type).getLast? ≠ some '?' := by
  rw [List.getLast?_append_of_ne_nil _ h.isType.ne_nil]
  exact h.isType.getLast?_ne_mark

theorem getLast?_marked (h : f.WellFormed) : ∀ c ∈ f.marked.getLast?, isBlank c = false := by
  intro c hc
  rw [marked, List.getLast?_append] at hc
  rcases Option.or_eq_some_iff.mp hc with hc | ⟨-, hc⟩
  · split at hc
    · obtain rfl : '?' = c := by simpa using hc
      decide
    · exact absurd hc (by simp)
  · rw [List.getLast?_append_of_ne_nil _ h.isType.ne_nil] at hc
    exact h.isType.getLast?_not_isBlank c hc

theorem getLast?_gap (h : f.WellFormed) :
    ∀ c ∈ (f.marked ++ f.gap).getLast?, isIdentifierPart c = false := by
  intro c hc
  rw [List.getLast?_append_of_ne_nil _ h.gap_ne] at hc
  exact isIdentifierPart_of_isBlank (h.gap_blank c (List.mem_of_getLast? hc))

theorem getLast?_name (h : f.WellFormed) :
    ∀ c ∈ (f.marked ++ f.gap ++ f.name).getLast?, isBlank c = false := by
  intro c hc
  rw [List.getLast?_append_of_ne_nil _ h.name.ne_nil] at hc
  exact isBlank_of_isIdentifierPart (h.name.2 c (List.mem_of_getLast? hc))

theorem semicolon_notMem_front (h : f.WellFormed) : ';' ∉ f.front := by
  have hblank {t : Text} (ht : ∀ c ∈ t, isBlank c = true) : ';' ∉ t :=
    fun hc => absurd (ht ';' hc) (by decide)
  have hname : ';' ∉ f.name := h.name.notMem (isIdentifierPart_of_mem_marks (by decide))
  have hlead : ';' ∉ f.lead := h.notMem_lead (by decide) (by decide)
  simp [front, marked, hlead, h.semicolon_notMem_type, hblank h.gap_blank, hname, hblank h.pad]

theorem typed_injective (hf : f.WellFormed) (hg : g.WellFormed) (h : f.lead ++ f.type = g.lead ++ g.type) :
    f.lead = g.lead ∧ f.typeName = g.typeName ∧ f.arguments = g.arguments := by
  have hopen {k : Form} (hk : k.WellFormed) : ∀ c ∈ k.lead ++ k.typeName, (c != '<') = true := by
    intro c hc
    rcases List.mem_append.mp hc with hc | hc
    · exact bne_iff_ne.mpr fun e => hk.notMem_lead (c := '<') (by decide) (by decide) (e ▸ hc)
    · exact hk.typeName_ne_open c hc
  rw [type, type, ← List.append_assoc, ← List.append_assoc] at h
  obtain ⟨hfront, harguments⟩ := Text.run_inj h (hopen hf) (head?_argumentText _) (hopen hg)
    (head?_argumentText _)
  obtain ⟨hlead, hname⟩ := Text.splitEnd_inj hfront hf.getLast?_lead_not_isTypePart hf.typeName
    hg.getLast?_lead_not_isTypePart hg.typeName
  exact ⟨hlead, hname, argumentText_injective harguments⟩

/-- A line has one form. -/
theorem text_injective (hf : f.WellFormed) (hg : g.WellFormed) (h : f.text = g.text) : f = g := by
  have hsplit : Text.splitAt? ';' f.text = some (f.front, f.rest) :=
    Text.splitAt?_eq_some_iff.mpr ⟨rfl, hf.semicolon_notMem_front⟩
  rw [h, text, Text.splitAt?_eq_some_iff.mpr ⟨rfl, hg.semicolon_notMem_front⟩] at hsplit
  obtain ⟨hfront, hrest⟩ := Prod.mk.inj (Option.some.inj hsplit)
  obtain ⟨hnamed, hpad⟩ := Text.splitEnd_inj hfront hg.getLast?_name hg.pad hf.getLast?_name hf.pad
  obtain ⟨hspaced, hname⟩ :=
    Text.splitEnd_inj hnamed hg.getLast?_gap hg.name.2 hf.getLast?_gap hf.name.2
  obtain ⟨hmarked, hgap⟩ :=
    Text.splitEnd_inj hspaced hg.getLast?_marked hg.gap_blank hf.getLast?_marked hf.gap_blank
  have hmark := congrArg splitMark hmarked
  rw [marked, marked, splitMark_of_ne hg.getLast?_typed, splitMark_of_ne hf.getLast?_typed] at hmark
  obtain ⟨htyped, hmark⟩ := Prod.mk.inj hmark
  obtain ⟨hlead, htype, harguments⟩ := typed_injective hg hf htyped
  obtain ⟨hindent, hmodifiers⟩ := lead_injective hg hf hlead
  cases f
  cases g
  simp_all

end WellFormed

/-! ### The forms that are read -/

theorem Accepted.readAs {f : Form} (h : f.Accepted) :
    f.declaration.ReadAs f.text f.lead f.gap f.pad where
  append := rfl
  free := by
    rw [List.mem_append, not_or]
    exact ⟨h.notMem_lead (by decide) (by decide), h.semicolon_notMem_type⟩
  type := h.isType
  name := h.name
  gap_ne := h.gap_ne
  gap_blank := h.gap_blank
  pad_blank := h.pad
  lead_end := h.getLast?_lead_not_isTypePart
  lead_open := h.notMem_lead (by decide) (by decide)
  modifiers := by
    rw [h.words_lead]
    intro w hw
    obtain ⟨m, hm, rfl⟩ := List.mem_map.mp hw
    exact (h.modifiers m hm).word
  included := by
    rw [h.words_lead]
    exact h.included
  isFinal := by
    rw [h.words_lead]
    rfl
  plain := h.plain

end Form

theorem ReadAs.exists_form {line lead gap pad : Text} {d : Declaration} (h : d.ReadAs line lead gap pad) :
    ∃ f : Form, f.Accepted ∧ f.text = line ∧ f.declaration = d := by
  obtain ⟨indent, ms, rfl, hindent, hms⟩ := Form.exists_modifiers h.modifiers h.lead_end
  obtain ⟨arguments, hargs, heq⟩ :=
    Form.exists_argumentText h.type.arguments (Text.IsType.arguments_head? d.type)
  have htype : d.type.takeWhile (· != '<') ++ Form.argumentText arguments = d.type := by
    rw [← hargs]
    exact Text.IsType.append d.type
  have hwords : Text.words (indent ++ Form.modifierText ms) = ms.map (·.1) := by
    rw [Text.words_blanks hindent, Form.words_modifierText hms]
  have hincluded := h.included
  have hfinal := h.isFinal
  rw [hwords] at hincluded hfinal
  refine ⟨⟨indent, ms, d.type.takeWhile (· != '<'), arguments, d.isMarked, gap, d.name, pad, d.rest⟩,
    ⟨⟨hindent, hms, h.type.start, h.type.parts, ?_, h.gap_ne, h.gap_blank, h.name, h.pad_blank⟩,
      hincluded, ?_⟩, ?_, ?_⟩
  · intro a ha
    refine ⟨fun hc => h.semicolon_notMem_type ?_, heq a ha⟩
    obtain rfl : arguments = some a := ha
    rw [← htype]
    simp [Form.argumentText, hc]
  · rw [Form.type, htype]
    exact h.plain
  · rw [h.append, Form.text, Form.front, Form.marked, Form.lead, Form.type, htype]
    rfl
  · rw [Form.declaration, Form.type, htype]
    cases d
    simp_all [Form.words]

/-- The lines that are read are those with an accepted form, and it says what is read. -/
theorem parse?_eq_some_iff_form {line : Text} {d : Declaration} :
    parse? line = some d ↔ ∃ f : Form, f.Accepted ∧ f.text = line ∧ f.declaration = d := by
  rw [parse?_eq_some_iff]
  constructor
  · rintro ⟨lead, gap, pad, h⟩
    exact h.exists_form
  · rintro ⟨f, hf, rfl, rfl⟩
    exact ⟨f.lead, f.gap, f.pad, hf.readAs⟩

namespace Form

/-- A line is read exactly when it has a form without an excluded modifier or a statement word for
its type; it has no second form, and its parts are those of the declaration. Both extractions give
the lines that are read, in order, the one with comments those with the modifier `final`. -/
theorem reads_exactly :
    (∀ line d, parse? line = some d ↔ ∃ f : Form, f.Accepted ∧ f.text = line ∧ f.declaration = d) ∧
      (∀ f g : Form, f.WellFormed → g.WellFormed → f.text = g.text → f = g) ∧
      ∀ body,
        permissiveFields body = ((Text.lines body).filterMap parse?).map (.ofDeclaration · [] []) ∧
        (commentedFields body).map (·.bare) =
          (((Text.lines body).filterMap parse?).filter (·.isFinal)).map (.ofDeclaration · [] []) := by
  refine ⟨fun _ _ => parse?_eq_some_iff_form, fun _ _ hf hg h => hf.text_injective hg h, fun body => ?_⟩
  constructor
  · rw [List.map_filterMap]
    rfl
  · rw [List.filter_filterMap]
    exact map_bare_commentedFieldsAfter [] (Text.lines body)

/-- The form of `  covariant final Map<a, b>? x ; // c`. -/
def covariantFinal : Form :=
  ⟨"  ", [("covariant", " "), ("final", " ")], "Map", some "a, b".toList, true, " ", "x", " ", " // c"⟩

theorem covariantFinal_accepted : covariantFinal.Accepted where
  indent := List.all_eq_true.mp rfl
  modifiers := by
    intro m hm
    rcases List.mem_pair.mp hm with rfl | rfl
    · exact ⟨by decide, by decide, List.all_eq_true.mp rfl⟩
    · exact ⟨by decide, by decide, List.all_eq_true.mp rfl⟩
  typeStart := ⟨'M', rfl, rfl⟩
  typeName := List.all_eq_true.mp rfl
  arguments := by
    intro a ha
    obtain rfl : "a, b".toList = a := Option.some.inj ha
    exact ⟨by decide, by decide⟩
  gap_ne := by decide
  gap_blank := List.all_eq_true.mp rfl
  name := ⟨⟨'x', rfl, rfl⟩, List.all_eq_true.mp rfl⟩
  pad := List.all_eq_true.mp rfl
  included := by
    intro w hw
    rcases List.mem_pair.mp hw with rfl | rfl
    · decide
    · decide
  plain := by decide

/-- Among declarations of other kinds: one that is not final, one without a type, one that is late. -/
theorem reads_exactly_covariant :
    parse? "  covariant final Map<a, b>? x ; // c" = some ⟨"Map<a, b>", "x", true, true, " // c"⟩ ∧
      (∀ f : Form, f.WellFormed → f.text = "  covariant final Map<a, b>? x ; // c" → f = covariantFinal) ∧
      permissiveFields "int n;\n  covariant final Map<a, b>? x ; // c\nfinal y;\nlate final int z;" =
        [⟨"int", "n", false, [], []⟩, ⟨"Map<a, b>", "x", true, [], []⟩] ∧
      (commentedFields "int n;\n  covariant final Map<a, b>? x ; // c\nfinal y;\nlate final int z;").map (·.bare) =
        [⟨"Map<a, b>", "x", true, [], []⟩] := by
  obtain ⟨hreads, honce, hfields⟩ := reads_exactly
  obtain ⟨hpermissive, hcommented⟩ :=
    hfields "int n;\n  covariant final Map<a, b>? x ; // c\nfinal y;\nlate final int z;"
  refine ⟨(hreads _ _).mpr ⟨covariantFinal, covariantFinal_accepted, rfl, rfl⟩, ?_, ?_, ?_⟩
  · intro f hf htext
    exact honce f covariantFinal hf covariantFinal_accepted.toWellFormed htext
  · rw [hpermissive]
    decide +kernel
  · rw [hcommented]
    decide +kernel

end Form

end Declaration

end DartTransfer

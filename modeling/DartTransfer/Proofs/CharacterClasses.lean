import DartTransfer.Declaration

/-!
# Laws of the character classes

Which kinds of characters exclude each other. The table of word characters is gone through once, to
find each of its ranges between two blanks beyond ASCII (`exists_blankGap`). What is left of a law is
about ASCII; blanks are few enough to be listed for it (`mem_blankCodes`).
-/

namespace DartTransfer

/-- The code points of the blanks. -/
def blankCodes : List Nat :=
  [0x09, 0x0A, 0x0B, 0x0C, 0x0D, 0x20, 0x85, 0xA0, 0x1680, 0x2000, 0x2001, 0x2002, 0x2003, 0x2004,
    0x2005, 0x2006, 0x2007, 0x2008, 0x2009, 0x200A, 0x2028, 0x2029, 0x202F, 0x205F, 0x3000]

theorem mem_blankCodes {c : Char} (h : isBlank c = true) : c.toNat ∈ blankCodes := by
  simp only [isBlank, Bool.or_eq_true, Bool.and_eq_true, decide_eq_true_eq, beq_iff_eq] at h
  simp only [blankCodes, List.mem_cons, List.not_mem_nil, or_false]
  omega

/-- What holds of the listed characters holds of every blank. -/
theorem of_isBlank {p : Char → Bool} (hp : ∀ n ∈ blankCodes, p (Char.ofNat n) = true) {c : Char}
    (h : isBlank c = true) : p c = true := by
  have := hp _ (mem_blankCodes h)
  rwa [Char.ofNat_toNat] at this

/-- The code points beyond ASCII between one blank and the next, from the last blank on. -/
def blankGaps : CodePoints :=
  [(0x3001, 0x10FFFF), (0x2060, 0x2FFF), (0x2030, 0x205E), (0x202A, 0x202E), (0x200B, 0x2027),
    (0x1681, 0x1FFF), (0xA1, 0x167F)]

theorem exists_blankGap {c : Char} (h : wordRanges.has c = true) :
    ∃ g ∈ blankGaps, g.1 ≤ c.toNat ∧ c.toNat ≤ g.2 := by
  have hall : wordRanges.all (fun r => blankGaps.any fun g => g.1 ≤ r.1 && r.2 ≤ g.2) = true := by
    decide +kernel
  obtain ⟨r, hr, hc⟩ := List.any_eq_true.mp h
  obtain ⟨g, hg, hle⟩ := List.any_eq_true.mp (List.all_eq_true.mp hall r hr)
  simp only [Bool.and_eq_true, decide_eq_true_eq] at hc hle
  exact ⟨g, hg, Nat.le_trans hle.1 hc.1, Nat.le_trans hc.2 hle.2⟩

/-- The table holds no ASCII character and no blank. -/
theorem of_has_wordRanges {c : Char} (h : wordRanges.has c = true) :
    128 ≤ c.toNat ∧ isBlank c = false := by
  obtain ⟨g, hg, hlo, hhi⟩ := exists_blankGap h
  simp only [blankGaps, List.mem_cons, List.not_mem_nil, or_false] at hg
  rw [Bool.eq_false_iff, Ne, isBlank]
  simp only [Bool.or_eq_true, Bool.and_eq_true, decide_eq_true_eq, beq_iff_eq]
  rcases hg with rfl | rfl | rfl | rfl | rfl | rfl | rfl <;> omega

theorem isIdentifierPart_of_isBlank {c : Char} (h : isBlank c = true) : isIdentifierPart c = false := by
  have hascii := of_isBlank (p := fun c => !(c.isAlphanum || c == '_' || c == '$')) (by decide) h
  have hrange : wordRanges.has c = false := by
    rw [Bool.eq_false_iff]
    intro hc
    rw [(of_has_wordRanges hc).2] at h
    exact Bool.noConfusion h
  simp only [Bool.not_eq_true', Bool.or_eq_false_iff] at hascii
  rw [isIdentifierPart, isWord, hascii.1.1, hascii.1.2, hrange, hascii.2]
  rfl

theorem isBlank_of_all {t : Text} (h : t.all (!isBlank ·) = true) : ∀ c ∈ t, isBlank c = false := by
  intro c hc
  simpa using List.all_eq_true.mp h c hc

theorem isWord_of_isBlank {c : Char} (h : isBlank c = true) : isWord c = false := by
  have := isIdentifierPart_of_isBlank h
  rw [isIdentifierPart, Bool.or_eq_false_iff] at this
  exact this.1

theorem isBlank_of_isIdentifierPart {c : Char} (h : isIdentifierPart c = true) : isBlank c = false := by
  rw [Bool.eq_false_iff]
  intro hb
  rw [isIdentifierPart_of_isBlank hb] at h
  exact Bool.false_ne_true h

theorem isBlank_of_isTypePart {c : Char} (h : Declaration.isTypePart c = true) : isBlank c = false := by
  rw [Declaration.isTypePart, Bool.or_eq_true, beq_iff_eq] at h
  rcases h with h | rfl
  · exact isBlank_of_isIdentifierPart h
  · decide

theorem isTypePart_of_isBlank {c : Char} (h : isBlank c = true) : Declaration.isTypePart c = false := by
  rw [Bool.eq_false_iff]
  intro hpart
  rw [isBlank_of_isTypePart hpart] at h
  exact Bool.noConfusion h

theorem isTypePart_of_isIdentifierPart {c : Char} (h : isIdentifierPart c = true) :
    Declaration.isTypePart c = true := by
  rw [Declaration.isTypePart, h, Bool.true_or]

/-- The ASCII characters besides blanks, digits and letters that no type name holds. -/
def marks : Text := "!\"#%&'()*+,-/:;<=>?@[\\]^`\x7b|\x7d~"

theorem isTypePart_of_mem_marks {c : Char} (h : c ∈ marks) : Declaration.isTypePart c = false := by
  have hall : marks.all (fun c => c.toNat < 128 &&
      !(c.isAlphanum || c == '_' || c == '$' || c == '.')) = true := by decide
  have hmark := List.all_eq_true.mp hall c h
  simp only [Bool.and_eq_true, decide_eq_true_eq, Bool.not_eq_true', Bool.or_eq_false_iff] at hmark
  obtain ⟨hlt, ⟨⟨halnum, hline⟩, hdollar⟩, hdot⟩ := hmark
  have hrange : wordRanges.has c = false := by
    rw [Bool.eq_false_iff]
    intro hc
    exact absurd (of_has_wordRanges hc).1 (Nat.not_le_of_lt hlt)
  rw [Declaration.isTypePart, isIdentifierPart, isWord, halnum, hline, hrange, hdollar, hdot]
  rfl

/-- A name of a type has none of the marks in it. -/
theorem notMem_of_isTypePart {t : Text} (ht : ∀ c ∈ t, Declaration.isTypePart c = true) {m : Char}
    (hm : m ∈ marks) : m ∉ t := by
  intro hc
  have hpart := ht m hc
  rw [isTypePart_of_mem_marks hm] at hpart
  exact Bool.noConfusion hpart

theorem isIdentifierPart_of_mem_marks {c : Char} (h : c ∈ marks) : isIdentifierPart c = false := by
  have := isTypePart_of_mem_marks h
  rw [Declaration.isTypePart, Bool.or_eq_false_iff] at this
  exact this.1

end DartTransfer

import DartTransfer.Proofs.SettledNames

/-!
# What a conversion keeps of a name

Conversions move word boundaries and change case, and touch nothing else: a name without its separators, in lower
case, is its core (`KeyStyle.core`), and each style keeps the core of an ASCII name (`KeyStyle.core_conserved`). The
core is made character by character (`KeyStyle.core_eq`), which fits the passes of the conversions: the characters
that a pass drops or puts in are separators, which have no trace in the core, and a character has the trace of its
capital.
-/

namespace DartTransfer

variable {c : Char} {t : Text}

/-! ### ASCII texts -/

namespace Text

def IsAscii (t : Text) : Prop := ∀ c ∈ t, c.toNat < 128

instance (t : Text) : Decidable t.IsAscii :=
  decidable_of_iff (t.all (·.toNat < 128) = true) (by simp [IsAscii])

theorem IsAscii.cons_iff : IsAscii (c :: t) ↔ c.toNat < 128 ∧ t.IsAscii := List.forall_mem_cons

/-- No sigma, final or not, so each letter has its lower case whatever stands around it. -/
theorem IsAscii.lowerAfter_eq (h : t.IsAscii) (before : Text) : lowerAfter before t = t.map Char.toLower := by
  induction t generalizing before with
  | nil => rfl
  | cons c t ih =>
    obtain ⟨hc, ht⟩ := cons_iff.mp h
    have hsigma : (c == 'Σ') = false := by
      rw [beq_eq_false_iff_ne]
      rintro rfl
      exact absurd hc (by decide)
    rw [lowerAfter, hsigma, if_neg Bool.false_ne_true, lowerOf, if_pos hc, ih ht]
    rfl

theorem IsAscii.toLower_eq (h : t.IsAscii) : t.toLower = t.map Char.toLower := h.lowerAfter_eq []

end Text

theorem upperOf_of_ascii (h : c.toNat < 128) : upperOf c = [c.toUpper] := if_pos h

theorem toNat_toUpper_lt (h : c.toNat < 128) : c.toUpper.toNat < 128 :=
  of_ascii (p := fun c => c.toUpper.toNat < 128) (by decide +kernel) h

theorem toNat_toLower_lt (h : c.toNat < 128) : c.toLower.toNat < 128 :=
  of_ascii (p := fun c => c.toLower.toNat < 128) (by decide +kernel) h

namespace KeyStyle
variable {sep : Char}

/-! ### Conversions of ASCII names are ASCII -/

theorem isAscii_joinWords (h : t.IsAscii) : (joinWords t).IsAscii := by
  fun_induction joinWords t with
  | case1 c t hc ih =>
    obtain ⟨-, h⟩ := Text.IsAscii.cons_iff.mp h
    obtain ⟨hascii, ht⟩ := Text.IsAscii.cons_iff.mp h
    exact Text.IsAscii.cons_iff.mpr ⟨toNat_toUpper_lt hascii, ih ht⟩
  | case2 c t hc ih =>
    obtain ⟨hascii, ht⟩ := Text.IsAscii.cons_iff.mp h
    exact Text.IsAscii.cons_iff.mpr ⟨hascii, ih ht⟩
  | case3 c t _ ih =>
    obtain ⟨hascii, ht⟩ := Text.IsAscii.cons_iff.mp h
    exact Text.IsAscii.cons_iff.mpr ⟨hascii, ih ht⟩
  | case4 => exact h

theorem isAscii_splitWords (hsep : sep.toNat < 128) (h : t.IsAscii) : (splitWords sep t).IsAscii := by
  fun_induction splitWords sep t with
  | case1 c d t hc ih =>
    obtain ⟨hascii, ht⟩ := Text.IsAscii.cons_iff.mp h
    exact Text.IsAscii.cons_iff.mpr ⟨hascii, Text.IsAscii.cons_iff.mpr ⟨hsep, ih ht⟩⟩
  | case2 c d t hc ih =>
    obtain ⟨hascii, ht⟩ := Text.IsAscii.cons_iff.mp h
    exact Text.IsAscii.cons_iff.mpr ⟨hascii, ih ht⟩
  | case3 t _ => exact h

theorem isAscii_capitalizeWords (h : t.IsAscii) (atStart : Bool) : (capitalizeWords atStart t).IsAscii := by
  induction t generalizing atStart with
  | nil => exact h
  | cons c t ih =>
    obtain ⟨hascii, ht⟩ := Text.IsAscii.cons_iff.mp h
    rw [capitalizeWords]
    split
    · exact ih ht true
    · split
      · rw [upperOf_of_ascii hascii]
        exact Text.IsAscii.cons_iff.mpr ⟨toNat_toUpper_lt hascii, ih ht false⟩
      · exact Text.IsAscii.cons_iff.mpr ⟨hascii, ih ht false⟩

theorem isAscii_toLower_splitWords (hsep : sep.toNat < 128) (h : t.IsAscii) :
    (splitWords sep t).toLower.IsAscii := by
  rw [(isAscii_splitWords hsep h).toLower_eq]
  intro c hc
  obtain ⟨d, hd, rfl⟩ := List.mem_map.mp hc
  exact toNat_toLower_lt (isAscii_splitWords hsep h d hd)

theorem isAscii_convert (s : KeyStyle) (h : t.IsAscii) : (s.convert t).IsAscii := by
  cases s with
  | camel => exact isAscii_joinWords h
  | snake => exact isAscii_toLower_splitWords (by decide) h
  | pascal => exact isAscii_capitalizeWords h true
  | kebab => exact isAscii_toLower_splitWords (by decide) h
  | asDeclared => exact h

/-! ### The core of a name -/

def isSeparator (c : Char) : Bool := c == '_' || c == '-'

/-- A name without separators and case. -/
def core (t : Text) : Text := Text.toLower (t.filter (!isSeparator ·))

/-- What a character leaves in the core. -/
def trace (c : Char) : Text := if isSeparator c then [] else [c.toLower]

theorem trace_of_isSeparator (h : isSeparator c = true) : trace c = [] := if_pos h

theorem trace_toUpper (c : Char) : trace c.toUpper = trace c := by
  by_cases hc : c.toNat < 128
  · exact of_ascii (p := fun c => trace c.toUpper = trace c) (by decide +kernel) hc
  · rw [toUpper_of_not_ascii hc]

theorem trace_toLower (c : Char) : trace c.toLower = trace c := by
  by_cases hc : c.toNat < 128
  · exact of_ascii (p := fun c => trace c.toLower = trace c) (by decide +kernel) hc
  · rw [toLower_of_not_ascii hc]

theorem core_eq (h : t.IsAscii) : core t = t.flatMap trace := by
  have hletters : Text.IsAscii (t.filter (!isSeparator ·)) := fun c hc => h c (List.mem_of_mem_filter hc)
  rw [core, hletters.toLower_eq]
  clear h hletters
  induction t with
  | nil => rfl
  | cons c t ih =>
    rw [List.filter_cons, List.flatMap_cons, ← ih, trace]
    cases isSeparator c <;> simp

/-! ### Each pass keeps the core -/

theorem traces_joinWords (t : Text) : (joinWords t).flatMap trace = t.flatMap trace := by
  fun_induction joinWords t with
  | case1 c t hc ih =>
    have hunderscore : trace '_' = [] := trace_of_isSeparator rfl
    rw [List.flatMap_cons, List.flatMap_cons, List.flatMap_cons, ih, trace_toUpper, hunderscore, List.nil_append]
  | case2 c t hc ih => rw [List.flatMap_cons, ih, ← List.flatMap_cons]
  | case3 c t _ ih => rw [List.flatMap_cons, ih, ← List.flatMap_cons]
  | case4 => rfl

theorem traces_splitWords (hsep : isSeparator sep = true) (t : Text) :
    (splitWords sep t).flatMap trace = t.flatMap trace := by
  fun_induction splitWords sep t with
  | case1 c d t hc ih =>
    rw [List.flatMap_cons, List.flatMap_cons, ih, trace_of_isSeparator hsep, List.nil_append, ← List.flatMap_cons]
  | case2 c d t hc ih => rw [List.flatMap_cons, ih, ← List.flatMap_cons]
  | case3 t _ => rfl

theorem traces_map_toLower (t : Text) : (t.map Char.toLower).flatMap trace = t.flatMap trace := by
  rw [List.flatMap_map]
  simp only [trace_toLower]

theorem traces_capitalizeWords (h : t.IsAscii) (atStart : Bool) :
    (capitalizeWords atStart t).flatMap trace = t.flatMap trace := by
  induction t generalizing atStart with
  | nil => rfl
  | cons c t ih =>
    obtain ⟨hascii, ht⟩ := Text.IsAscii.cons_iff.mp h
    rw [capitalizeWords, List.flatMap_cons]
    split
    · next hc =>
      rw [ih ht, trace_of_isSeparator (by rw [isSeparator, hc, Bool.true_or]), List.nil_append]
    · split
      · rw [upperOf_of_ascii hascii, List.singleton_append, List.flatMap_cons, ih ht, trace_toUpper]
      · rw [List.flatMap_cons, ih ht]

theorem traces_toLower_splitWords (hsep : isSeparator sep = true) (hascii : sep.toNat < 128) (h : t.IsAscii) :
    (splitWords sep t).toLower.flatMap trace = t.flatMap trace := by
  rw [(isAscii_splitWords hascii h).toLower_eq, traces_map_toLower, traces_splitWords hsep]

theorem core_convert (s : KeyStyle) (h : t.IsAscii) : core (s.convert t) = core t := by
  rw [core_eq (isAscii_convert s h), core_eq h]
  cases s with
  | camel => exact traces_joinWords t
  | snake => exact traces_toLower_splitWords rfl (by decide) h
  | pascal => exact traces_capitalizeWords h true
  | kebab => exact traces_toLower_splitWords rfl (by decide) h
  | asDeclared => rfl

/-- A conversion of an ASCII name keeps its letters and digits and all else but separators, in their order and up to
case, and brings in no character beyond ASCII. Of any name, snake and kebab case leave no capital, Pascal case leaves
no underscore, and camel case none ahead of a lowercase letter. -/
theorem core_conserved (t : Text) :
    (t.IsAscii → ∀ s : KeyStyle, core (s.convert t) = core t ∧ (s.convert t).IsAscii) ∧
      (∀ s ∈ [snake, kebab], ∀ c ∈ s.convert t, c.isUpper = false) ∧
      '_' ∉ pascal.convert t ∧
      ∀ u c v, camel.convert t = u ++ '_' :: c :: v → c.isLower = false := by
  refine ⟨fun h s => ⟨core_convert s h, isAscii_convert s h⟩, ?_, (pascal.settled_convert t).1, ?_⟩
  · intro s hs c hc
    have hlowered : ∀ c ∈ s.convert t, IsLowered c := by
      rcases List.mem_pair.mp hs with rfl | rfl
      · exact snake.settled_convert t
      · exact kebab.settled_convert t
    exact isUpper_of_isLowered (hlowered c hc)
  · intro u c v hsplit
    have hchain : camel.Settled (u ++ '_' :: c :: v) := hsplit ▸ camel.settled_convert t
    exact (List.isChain_append.mp hchain).2.1.rel rfl

/-- Separators side by side, at the ends and ahead of digits, and runs of capitals. -/
theorem core_conserved_mixed :
    Text.IsAscii "_id__HTTPServer_2x-Y_" ∧
      (∀ s : KeyStyle, core (s.convert "_id__HTTPServer_2x-Y_") = "idhttpserver2xy".toList) ∧
      snake.convert "_id__HTTPServer_2x-Y_" = "_id__httpserver_2x-y_".toList ∧
      pascal.convert "_id__HTTPServer_2x-Y_" = "IdHTTPServer2x-Y".toList ∧
      camel.convert "_id__HTTPServer_2x-Y_" = "Id__HTTPServer_2x-Y_".toList := by
  have hascii : Text.IsAscii "_id__HTTPServer_2x-Y_" := by decide
  refine ⟨hascii, fun s => ?_, by decide +kernel, by decide +kernel, by decide +kernel⟩
  rw [((core_conserved _).1 hascii s).1]
  decide +kernel

end KeyStyle

end DartTransfer

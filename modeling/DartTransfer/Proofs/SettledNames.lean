import DartTransfer.Proofs.NameWords
import Mathlib.Data.List.Chain

/-!
# Names that a conversion leaves alone

A style leaves a name alone exactly when the name is settled for it (`KeyStyle.convert_eq_self_iff`): no
underscore stands before a lowercase letter, or every character is in lower case, or there is no underscore and the
first character is in upper case. A conversion brings in nothing that it would change itself, so each key is settled
(`KeyStyle.settled_convert`) and a second conversion changes nothing (`KeyStyle.convert_idempotent`). What the case
tables make of a character they leave alone: no run of a table leads into a run of the same table (`CaseRun.misses`).
-/

namespace DartTransfer

variable {c d : Char} {t : Text}

/-! ### Changing the case twice -/

/-- The null character stands for the numbers that are no code points. -/
theorem toNat_ofNat_or (n : Nat) : (Char.ofNat n).toNat = n ∨ Char.ofNat n = '\x00' := by
  by_cases hv : n.isValidChar
  · rw [Char.ofNat, dif_pos hv]
    exact .inl rfl
  · rw [Char.ofNat, dif_neg hv]
    exact .inr rfl

namespace CaseRun
variable {r r' : CaseRun}

/-- No character that the first run moves comes to lie in the second: the image lies apart from it, or falls
between its steps. -/
def misses (r r' : CaseRun) : Bool :=
  Nat.blt (r.image r.last) r'.first || Nat.blt r'.last (r.image r.first) ||
    (r.step == 2 || r.first == r.last) && r'.step == 2 && (r.image r.first + r'.first) % 2 == 1

theorem covers_iff {n : Nat} : r.covers n = true ↔ r.first ≤ n ∧ n ≤ r.last ∧ (n - r.first) % r.step = 0 := by
  simp [covers, and_assoc]

theorem misses_iff : r.misses r' = true ↔ (r.image r.last < r'.first ∨ r'.last < r.image r.first) ∨
    ((r.step = 2 ∨ r.first = r.last) ∧ r'.step = 2) ∧ (r.image r.first + r'.first) % 2 = 1 := by
  simp [misses]

theorem not_covers_image (h : r.misses r' = true) (hr : 0 ≤ r.first + r.shift) {n : Nat}
    (hn : r.covers n = true) : r'.covers (r.image n) = false := by
  obtain ⟨hfirst, hlast, hstep⟩ := covers_iff.mp hn
  refine Bool.eq_false_iff.mpr fun himage => ?_
  obtain ⟨hfirst', hlast', hstep'⟩ := covers_iff.mp himage
  simp only [misses_iff, image] at h hfirst' hlast' hstep'
  rcases h with (habove | hbelow) | ⟨⟨hsteps, htwo⟩, hodd⟩
  · omega
  · omega
  · rw [htwo] at hstep'
    rcases hsteps with htwo | hone
    · rw [htwo] at hstep
      omega
    · omega

end CaseRun

theorem mapByRuns_of_not_covers {rs : List CaseRun} (h : ∀ r ∈ rs, r.covers c.toNat = false) :
    mapByRuns rs c = c := by
  have hnone : rs.find? (·.covers c.toNat) = none :=
    List.find?_eq_none.mpr fun r hr => Bool.eq_false_iff.mp (h r hr)
  rw [mapByRuns, hnone]

/-- A character stays, or a run leads it to its image. -/
theorem mapByRuns_cases (rs : List CaseRun) (c : Char) :
    mapByRuns rs c = c ∨ ∃ r ∈ rs, r.covers c.toNat = true ∧ mapByRuns rs c = Char.ofNat (r.image c.toNat) := by
  rw [mapByRuns]
  split
  · next r hr =>
    have hcovers : r.covers c.toNat = true := List.find?_some (p := fun r : CaseRun => r.covers c.toNat) hr
    exact .inr ⟨r, List.mem_of_find?_eq_some hr, hcovers, rfl⟩
  · exact .inl rfl

/-! #### Lower case -/

/-- The run of `İ` alone, whose lower case is two characters, counts with the table. -/
theorem lowerRuns_misses : (lowerRuns.all fun r => (⟨0x0130, 0x0130, 1, 0⟩ :: lowerRuns).all r.misses) = true := by
  decide +kernel

/-- A character that lower case leaves alone wherever it stands. -/
def IsLowered (c : Char) : Prop := c ≠ 'Σ' ∧ lowerOf c = [c]

instance (c : Char) : Decidable (IsLowered c) := inferInstanceAs (Decidable (_ ∧ _))

theorem isLowered_toLower_of_ascii (h : c.toNat < 128) : IsLowered c.toLower :=
  of_ascii (p := fun c => IsLowered c.toLower) (by decide +kernel) h

theorem isLowered_of_small (h97 : 97 ≤ c.toNat) (h : c.toNat < 128) : IsLowered c :=
  of_ascii (p := fun c => 97 ≤ c.toNat → IsLowered c) (by decide +kernel) h h97

/-- Beyond ASCII it is enough that no run has the character. -/
theorem isLowered_of_not_covers (h : ¬ c.toNat < 128)
    (hruns : ∀ r ∈ ⟨0x0130, 0x0130, 1, 0⟩ :: lowerRuns, r.covers c.toNat = false) : IsLowered c := by
  obtain ⟨hdotted, hruns⟩ := List.forall_mem_cons.mp hruns
  have hne : (c == 'İ') = false := beq_eq_false_iff_ne.mpr (by rintro rfl; exact absurd hdotted (by decide))
  refine ⟨?_, ?_⟩
  · rintro rfl
    exact absurd hruns (by decide +kernel)
  · rw [lowerOf, if_neg h, hne, if_neg Bool.false_ne_true, mapByRuns_of_not_covers hruns]

theorem isLowered_image {r : CaseRun} (hr : r ∈ lowerRuns) {n : Nat} (hn : r.covers n = true) :
    IsLowered (Char.ofNat (r.image n)) := by
  have hshift := lowerRuns_shift r hr
  rcases toNat_ofNat_or (r.image n) with hcode | hnull
  · by_cases hascii : (Char.ofNat (r.image n)).toNat < 128
    · refine isLowered_of_small ?_ hascii
      have hfirst := (CaseRun.covers_iff.mp hn).1
      rw [hcode, CaseRun.image]
      omega
    · refine isLowered_of_not_covers hascii fun r' hr' => ?_
      rw [hcode]
      have hmisses := List.all_eq_true.mp (List.all_eq_true.mp lowerRuns_misses r hr) r' hr'
      exact CaseRun.not_covers_image hmisses (by omega) hn
  · rw [hnull]
    decide

theorem isLowered_of_mem_lowerOf (hc : c ≠ 'Σ') (h : d ∈ lowerOf c) : IsLowered d := by
  by_cases hascii : c.toNat < 128
  · rw [lowerOf, if_pos hascii, List.mem_singleton] at h
    exact h ▸ isLowered_toLower_of_ascii hascii
  · by_cases hdotted : (c == 'İ') = true
    · rw [lowerOf, if_neg hascii, if_pos hdotted] at h
      rcases List.mem_pair.mp h with rfl | rfl <;> decide +kernel
    · have hlower : lowerOf c = [mapByRuns lowerRuns c] := by rw [lowerOf, if_neg hascii, if_neg hdotted]
      rw [hlower, List.mem_singleton] at h
      rcases mapByRuns_cases lowerRuns c with hstays | ⟨r, hr, hcovers, himage⟩
      · rw [h, hstays]
        exact ⟨hc, by rw [hlower, hstays]⟩
      · rw [h, himage]
        exact isLowered_image hr hcovers

namespace Text

theorem lowerAfter_of_isLowered (h : ∀ c ∈ t, IsLowered c) (before : Text) : lowerAfter before t = t := by
  induction t generalizing before with
  | nil => rfl
  | cons c t ih =>
    obtain ⟨⟨hsigma, hlower⟩, ht⟩ := List.forall_mem_cons.mp h
    have hne : (c == 'Σ') = false := beq_eq_false_iff_ne.mpr hsigma
    simp only [lowerAfter, hne, Bool.false_eq_true, if_false, hlower, ih ht, List.singleton_append]

theorem isLowered_of_mem_lowerAfter (before t : Text) : ∀ d ∈ lowerAfter before t, IsLowered d := by
  induction t generalizing before with
  | nil => exact fun d hd => absurd hd List.not_mem_nil
  | cons c t ih =>
    rw [lowerAfter]
    refine List.forall_mem_append.mpr ⟨fun d hd => ?_, ih _⟩
    split at hd
    · rw [List.mem_singleton] at hd
      subst hd
      split <;> decide +kernel
    · next hsigma => exact isLowered_of_mem_lowerOf (by simpa using hsigma) hd

/-- A text is its own lower case exactly when each of its characters is. -/
theorem toLower_eq_self_iff : t.toLower = t ↔ ∀ c ∈ t, IsLowered c :=
  ⟨fun h => h ▸ isLowered_of_mem_lowerAfter [] t, fun h => lowerAfter_of_isLowered h []⟩

end Text

/-! #### Upper case -/

theorem upperRuns_misses : (upperRuns.all fun r => upperRuns.all r.misses) = true := by decide +kernel

theorem upperRuns_miss_expansions :
    (upperRuns.all fun r => upperExpansions.all fun e => r.misses ⟨e.1, e.1, 1, 0⟩) = true := by decide +kernel

theorem upperRuns_image_le : ∀ r ∈ upperRuns, 128 ≤ r.first + r.shift ∨ r.last + r.shift ≤ 90 := by decide +kernel

/-- A character that is its own upper case. -/
def IsRaised (c : Char) : Prop := upperOf c = [c]

instance (c : Char) : Decidable (IsRaised c) := inferInstanceAs (Decidable (_ = _))

theorem isRaised_of_mem_expansion : ∀ e ∈ upperExpansions, ∀ n ∈ e.2, IsRaised (Char.ofNat n) := by decide +kernel

theorem isRaised_toUpper_of_ascii (h : c.toNat < 128) : IsRaised c.toUpper :=
  of_ascii (p := fun c => IsRaised c.toUpper) (by decide +kernel) h

theorem isRaised_of_le (h : c.toNat ≤ 90) : IsRaised c :=
  of_ascii (p := fun c => c.toNat ≤ 90 → IsRaised c) (by decide +kernel) (by omega) h

theorem upperExpansions_lookup_eq_none {n : Nat} (h : ∀ e ∈ upperExpansions, e.1 ≠ n) :
    upperExpansions.lookup n = none := by
  rw [List.lookup_eq_none_iff]
  exact fun e he => bne_iff_ne.mpr (h e he).symm

theorem isRaised_image {r : CaseRun} (hr : r ∈ upperRuns) {n : Nat} (hn : r.covers n = true) :
    IsRaised (Char.ofNat (r.image n)) := by
  obtain ⟨hfirst, hlast, -⟩ := CaseRun.covers_iff.mp hn
  have hshift := upperRuns_shift r hr
  rcases toNat_ofNat_or (r.image n) with hcode | hnull
  · rcases upperRuns_image_le r hr with hle | hle
    · have hascii : ¬ r.image n < 128 := by
        rw [CaseRun.image]
        omega
      have hmisses := List.all_eq_true.mp upperRuns_misses r hr
      have hexpansion : upperExpansions.lookup (r.image n) = none := by
        refine upperExpansions_lookup_eq_none fun e he heq => ?_
        have hmiss := List.all_eq_true.mp (List.all_eq_true.mp upperRuns_miss_expansions r hr) e he
        have hnot := CaseRun.not_covers_image hmiss (by omega) hn
        rw [← heq] at hnot
        exact absurd hnot (by simp [CaseRun.covers])
      have hruns : ∀ r' ∈ upperRuns, r'.covers (Char.ofNat (r.image n)).toNat = false := by
        intro r' hr'
        rw [hcode]
        exact CaseRun.not_covers_image (List.all_eq_true.mp hmisses r' hr') (by omega) hn
      rw [IsRaised, upperOf, hcode, if_neg hascii, hexpansion]
      exact congrArg ([·]) (mapByRuns_of_not_covers hruns)
    · refine isRaised_of_le ?_
      rw [hcode, CaseRun.image]
      omega
  · rw [hnull]
    decide

theorem isRaised_of_mem_upperOf (h : d ∈ upperOf c) : IsRaised d := by
  by_cases hascii : c.toNat < 128
  · rw [upperOf, if_pos hascii, List.mem_singleton] at h
    exact h ▸ isRaised_toUpper_of_ascii hascii
  · cases hlookup : upperExpansions.lookup c.toNat with
    | some ns =>
      rw [upperOf, if_neg hascii, hlookup] at h
      obtain ⟨n, hn, rfl⟩ := List.mem_map.mp h
      obtain ⟨before, after, hsplit, -⟩ := List.lookup_eq_some_iff.mp hlookup
      exact isRaised_of_mem_expansion (c.toNat, ns) (by simp [hsplit]) n hn
    | none =>
      have hupper : upperOf c = [mapByRuns upperRuns c] := by rw [upperOf, if_neg hascii, hlookup]
      rw [hupper, List.mem_singleton] at h
      rcases mapByRuns_cases upperRuns c with hstays | ⟨r, hr, hcovers, himage⟩
      · rw [h, hstays, IsRaised, hupper, hstays]
      · rw [h, himage]
        exact isRaised_image hr hcovers

theorem upperOf_ne_nil (c : Char) : upperOf c ≠ [] := by
  rw [upperOf]
  split
  · exact List.cons_ne_nil _ _
  · split
    · next ns hns =>
      obtain ⟨before, after, hsplit, -⟩ := List.lookup_eq_some_iff.mp hns
      have hne : ∀ e ∈ upperExpansions, e.2 ≠ [] := by decide
      rw [Ne, List.map_eq_nil_iff]
      exact hne (c.toNat, ns) (by simp [hsplit])
    · exact List.cons_ne_nil _ _

/-! ### Settled names -/

namespace KeyStyle
variable {sep : Char}

/-- What the style has nothing to change in. -/
def Settled (s : KeyStyle) (t : Text) : Prop :=
  match s with
  | camel => t.IsChain fun c d => c = '_' → d.isLower = false
  | snake | kebab => ∀ c ∈ t, IsLowered c
  | pascal => '_' ∉ t ∧ ∀ c ∈ t.head?, IsRaised c
  | asDeclared => True

/-! #### Underscores before lowercase letters -/

theorem joinWords_of_settled (h : camel.Settled t) : joinWords t = t := by
  induction t with
  | nil => rfl
  | cons c t ih =>
    rw [joinWords_cons, ih h.of_cons, joinStep_of_head]
    intro d hd
    obtain ⟨t, rfl⟩ := List.head?_eq_some_iff.mp hd
    have hnot := (List.isChain_cons_cons.mp h).1
    by_cases hc : c = '_'
    · rw [hnot hc, Bool.and_false]
    · rw [beq_eq_false_iff_ne.mpr hc, Bool.false_and]

theorem settled_joinStep (c : Char) (h : camel.Settled t) : camel.Settled (joinStep c t) := by
  cases t with
  | nil => exact List.isChain_singleton c
  | cons d t =>
    rw [joinStep]
    split
    · next hjoin =>
      rw [Bool.and_eq_true] at hjoin
      cases t with
      | nil => exact List.isChain_singleton _
      | cons e t =>
        refine List.isChain_cons_cons.mpr ⟨fun hd => ?_, h.of_cons⟩
        exact absurd hd (toUpper_ne_underscore hjoin.2)
    · next hjoin =>
      refine List.isChain_cons_cons.mpr ⟨fun hc => ?_, h⟩
      subst hc
      simpa using hjoin

/-- By induction from the end of the name, as `joinStep` reads it. -/
theorem settled_joinWords (t : Text) : camel.Settled (joinWords t) := by
  induction t with
  | nil => exact List.isChain_nil
  | cons c t ih =>
    rw [joinWords_cons]
    exact settled_joinStep c ih

/-! #### Capitals behind lowercase letters -/

theorem isUpper_of_isLowered (h : IsLowered c) : c.isUpper = false := by
  refine Bool.eq_false_iff.mpr fun hupper => ?_
  have hle : c.toNat ≤ 'Z'.toNat := (of_decide_eq_true hupper).2
  exact of_ascii (p := fun c => c.isUpper = true → ¬ IsLowered c) (by decide +kernel)
    (Nat.lt_of_le_of_lt hle (by decide)) hupper h

theorem splitWords_of_isLowered (h : ∀ c ∈ t, IsLowered c) : splitWords sep t = t := by
  fun_induction splitWords sep t with
  | case1 c d t hcut ih =>
    rw [isUpper_of_isLowered (h d (by simp)), Bool.and_false] at hcut
    exact absurd hcut Bool.false_ne_true
  | case2 c d t hcut ih => rw [ih (List.forall_mem_cons.mp h).2]
  | case3 t ht => rfl

/-- Lower case leaves no capital to cut at, and nothing to lower. -/
theorem toLower_splitWords_eq_self_iff : (splitWords sep t).toLower = t ↔ ∀ c ∈ t, IsLowered c := by
  constructor
  · intro h
    rw [← h]
    exact Text.isLowered_of_mem_lowerAfter [] _
  · intro h
    rw [splitWords_of_isLowered h, Text.toLower_eq_self_iff]
    exact h

/-! #### Underscores and the first character -/

theorem capitalizeWords_of_notMem (h : '_' ∉ t) : capitalizeWords false t = t := by
  induction t with
  | nil => rfl
  | cons c t ih =>
    rw [List.mem_cons, not_or] at h
    rw [capitalizeWords, beq_eq_false_iff_ne.mpr (Ne.symm h.1), if_neg Bool.false_ne_true,
      if_neg Bool.false_ne_true, ih h.2]

theorem underscore_notMem_capitalizeWords (atStart : Bool) (t : Text) : '_' ∉ capitalizeWords atStart t := by
  induction t generalizing atStart with
  | nil => exact List.not_mem_nil
  | cons c t ih =>
    rw [capitalizeWords]
    split
    · exact ih true
    · next hc =>
      have hne : c ≠ '_' := by simpa using hc
      split
      · exact List.not_mem_append (notMem_upperOf (by decide) hne) (ih false)
      · exact List.not_mem_cons_of_ne_of_not_mem hne.symm (ih false)

theorem isRaised_head_capitalizeWords (t : Text) : ∀ d ∈ (capitalizeWords true t).head?, IsRaised d := by
  induction t with
  | nil => exact fun d hd => absurd hd nofun
  | cons c t ih =>
    rw [capitalizeWords]
    split
    · exact ih
    · rw [if_pos rfl, List.head?_append_of_ne_nil _ (upperOf_ne_nil c)]
      exact fun d hd => isRaised_of_mem_upperOf (List.mem_of_mem_head? hd)

/-! ### The conversions -/

theorem settled_convert (s : KeyStyle) (name : Text) : s.Settled (s.convert name) := by
  cases s with
  | camel => exact settled_joinWords name
  | snake => exact Text.isLowered_of_mem_lowerAfter [] _
  | pascal => exact ⟨underscore_notMem_capitalizeWords true name, isRaised_head_capitalizeWords name⟩
  | kebab => exact Text.isLowered_of_mem_lowerAfter [] _
  | asDeclared => trivial

theorem convert_of_settled {s : KeyStyle} {name : Text} (h : s.Settled name) : s.convert name = name := by
  cases s with
  | camel => exact joinWords_of_settled h
  | snake => exact toLower_splitWords_eq_self_iff.mpr h
  | pascal =>
    cases name with
    | nil => rfl
    | cons c name =>
      obtain ⟨hunderscore, hraised⟩ := h
      rw [List.mem_cons, not_or] at hunderscore
      have hupper : upperOf c = [c] := hraised c rfl
      rw [convert, capitalizeWords, beq_eq_false_iff_ne.mpr (Ne.symm hunderscore.1), if_neg Bool.false_ne_true,
        if_pos rfl, capitalizeWords_of_notMem hunderscore.2, hupper, List.singleton_append]
  | kebab => exact toLower_splitWords_eq_self_iff.mpr h
  | asDeclared => rfl

/-- A style leaves alone the names that are settled for it and no others. -/
theorem convert_eq_self_iff (s : KeyStyle) (name : Text) : s.convert name = name ↔ s.Settled name :=
  ⟨fun h => h ▸ s.settled_convert name, convert_of_settled⟩

/-- A second conversion to the same style changes nothing, whatever the characters, because the first leaves a
settled name and a style changes every other. -/
theorem convert_idempotent (s : KeyStyle) (name : Text) :
    s.convert (s.convert name) = s.convert name ∧ (s.convert name = name ↔ s.Settled name) :=
  ⟨convert_of_settled (s.settled_convert name), s.convert_eq_self_iff name⟩

end KeyStyle

end DartTransfer

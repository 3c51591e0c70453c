import DartTransfer.KeyStyle

/-!
# What a conversion can bring in

No change of case leads to a character that sorts ahead of the lowercase letters and is no capital
(`NoImage`): no newline, no quote, no bracket. So a conversion of a name brings in nothing of the kind but
its separators (`KeyStyle.notMem_convert`), and lower case no capital either (`notMem_toLower`). ASCII letters
become ASCII letters, and where the case tables lead is checked entry by entry.
-/

namespace DartTransfer

variable {c d : Char} {t : Text}

theorem ofNat_ne (hd : d ≠ '\x00') {n : Nat} (h : n ≠ d.toNat) : Char.ofNat n ≠ d := by
  intro e
  have hn : (Char.ofNat n).toNat = d.toNat := by rw [e]
  by_cases hv : n.isValidChar
  · rw [Char.ofNat, dif_pos hv] at hn
    exact h hn
  · rw [Char.ofNat, dif_neg hv] at hn
    exact hd (Char.toNat_inj.mp hn.symm)

/-- A law of the ASCII characters is checked one by one. -/
theorem of_ascii {p : Char → Prop} (hp : ∀ n < 128, p (Char.ofNat n)) (h : c.toNat < 128) : p c := by
  have := hp c.toNat h
  rwa [Char.ofNat_toNat] at this

/-- A character that no change of case leads to. The null character stands for numbers that are none. -/
structure NoImage (d : Char) : Prop where
  ne_null : d ≠ '\x00'
  below : d.toNat < 97
  no_capital : ¬ (65 ≤ d.toNat ∧ d.toNat ≤ 90)

instance (d : Char) : Decidable (NoImage d) :=
  decidable_of_iff (d ≠ '\x00' ∧ d.toNat < 97 ∧ ¬ (65 ≤ d.toNat ∧ d.toNat ≤ 90))
    ⟨fun h => ⟨h.1, h.2.1, h.2.2⟩, fun h => ⟨h.1, h.2, h.3⟩⟩

theorem toUpper_of_not_ascii (hc : ¬ c.toNat < 128) : c.toUpper = c :=
  dif_neg fun hrange => by
    have : c.toNat ≤ 'z'.toNat := hrange.2
    exact hc (Nat.lt_of_le_of_lt this (by decide))

/-- A character stays as it is or becomes a capital. -/
theorem toUpper_eq_or (c : Char) : c.toUpper = c ∨ 65 ≤ c.toUpper.toNat ∧ c.toUpper.toNat ≤ 90 := by
  by_cases hc : c.toNat < 128
  · exact of_ascii (p := fun c => c.toUpper = c ∨ 65 ≤ c.toUpper.toNat ∧ c.toUpper.toNat ≤ 90)
      (by decide +kernel) hc
  · exact .inl (toUpper_of_not_ascii hc)

theorem toUpper_ne (hd : NoImage d) (h : c ≠ d) : c.toUpper ≠ d := by
  rcases toUpper_eq_or c with e | hcapital
  · rwa [e]
  · rintro rfl
    exact hd.no_capital hcapital

theorem mapByRuns_ne {rs : List CaseRun} (hd : d ≠ '\x00')
    (hrs : ∀ r ∈ rs, d.toNat < r.first + r.shift ∨ r.last + r.shift < d.toNat) (h : c ≠ d) :
    mapByRuns rs c ≠ d := by
  rw [mapByRuns]
  split
  · next r hr =>
    have hcovers := List.find?_some hr
    rw [CaseRun.covers, Bool.and_eq_true, Bool.and_eq_true, decide_eq_true_eq, decide_eq_true_eq] at hcovers
    have := hrs r (List.mem_of_find?_eq_some hr)
    have hpos : d.toNat ≠ 0 := fun e => hd (Char.toNat_inj.mp e)
    refine ofNat_ne hd ?_
    rw [CaseRun.image]
    omega
  · exact h

theorem upperRuns_shift :
    ∀ r ∈ upperRuns, 97 ≤ r.first + r.shift ∨ 65 ≤ r.first + r.shift ∧ r.last + r.shift ≤ 90 := by decide +kernel

theorem lowerRuns_shift : ∀ r ∈ lowerRuns, 97 ≤ r.first + r.shift := by decide +kernel

theorem upperExpansions_images : ∀ e ∈ upperExpansions, ∀ n ∈ e.2, 97 ≤ n ∨ 65 ≤ n ∧ n ≤ 90 := by decide +kernel

theorem notMem_upperOf (hd : NoImage d) (h : c ≠ d) : d ∉ upperOf c := by
  have hbelow := hd.below
  have hcapital := hd.no_capital
  rw [upperOf]
  split
  · simpa using (toUpper_ne hd h).symm
  · split
    · next ns hns =>
      intro hm
      obtain ⟨n, hn, e⟩ := List.mem_map.mp hm
      obtain ⟨l₁, l₂, hl, -⟩ := List.lookup_eq_some_iff.mp hns
      have himage := upperExpansions_images _ (by rw [hl]; exact List.mem_append_right _ List.mem_cons_self) n hn
      exact ofNat_ne hd.ne_null (by omega) e
    · have hruns : ∀ r ∈ upperRuns, d.toNat < r.first + r.shift ∨ r.last + r.shift < d.toNat := by
        intro r hr
        have := upperRuns_shift r hr
        omega
      simpa using (mapByRuns_ne hd.ne_null hruns h).symm

/-! ### Lower case -/

theorem toLower_of_not_ascii (hc : ¬ c.toNat < 128) : c.toLower = c :=
  dif_neg fun hrange => by
    have : c.toNat ≤ 'Z'.toNat := hrange.2
    exact hc (Nat.lt_of_le_of_lt this (by decide))

/-- A character stays as it is or becomes a lowercase letter. -/
theorem toLower_eq_or_le (c : Char) : c.toLower = c ∨ 97 ≤ c.toLower.toNat := by
  by_cases hc : c.toNat < 128
  · exact of_ascii (p := fun c => c.toLower = c ∨ 97 ≤ c.toLower.toNat) (by decide +kernel) hc
  · exact .inl (toLower_of_not_ascii hc)

theorem isAlpha_toLower (c : Char) : c.toLower.isAlpha = c.isAlpha := by
  by_cases hc : c.toNat < 128
  · exact of_ascii (p := fun c => c.toLower.isAlpha = c.isAlpha) (by decide +kernel) hc
  · rw [toLower_of_not_ascii hc]

theorem notMem_lowerOf (h₀ : d ≠ '\x00') (hd : d.toNat < 97) (h : c ≠ d) : d ∉ lowerOf c := by
  have hne {e : Char} (he : 97 ≤ e.toNat) : d ≠ e := by
    rintro rfl
    omega
  rw [lowerOf]
  split
  · rw [List.mem_singleton]
    rcases toLower_eq_or_le c with e | hle
    · rw [e]; exact h.symm
    · exact hne hle
  · split
    · rw [List.mem_cons, List.mem_singleton, not_or]
      exact ⟨hne (by decide), hne (by decide)⟩
    · rw [List.mem_singleton]
      refine (mapByRuns_ne h₀ (fun r hr => .inl ?_) h).symm
      have := lowerRuns_shift r hr
      omega

theorem notMem_toLower (h₀ : d ≠ '\x00') (hd : d.toNat < 97) (h : d ∉ t) : d ∉ t.toLower := by
  rw [Text.toLower]
  generalize ([] : Text) = before
  induction t generalizing before with
  | nil => simp [Text.lowerAfter]
  | cons c t ih =>
    rw [List.mem_cons, not_or] at h
    simp only [Text.lowerAfter, List.mem_append, not_or]
    refine ⟨?_, ih h.2 _⟩
    split
    · rw [List.mem_singleton]
      split
      · rintro rfl; exact absurd hd (by decide)
      · rintro rfl; exact absurd hd (by decide)
    · exact notMem_lowerOf h₀ hd (Ne.symm h.1)

namespace KeyStyle

theorem notMem_joinWords (hd : NoImage d) (h : d ∉ t) : d ∉ joinWords t := by
  fun_induction joinWords t with
  | case1 c t hc ih =>
    simp only [List.mem_cons, not_or] at h ⊢
    exact ⟨(toUpper_ne hd (Ne.symm h.2.1)).symm, ih h.2.2⟩
  | case2 c t hc ih =>
    simp only [List.mem_cons, not_or] at h ⊢
    exact ⟨h.1, ih (by simpa using h.2)⟩
  | case3 c t _ ih =>
    simp only [List.mem_cons, not_or] at h ⊢
    exact ⟨h.1, ih h.2⟩
  | case4 => simp

theorem notMem_splitWords {sep : Char} (hsep : d ≠ sep) (h : d ∉ t) : d ∉ splitWords sep t := by
  fun_induction splitWords sep t with
  | case1 c e t hc ih =>
    simp only [List.mem_cons, not_or] at h ih ⊢
    exact ⟨h.1, hsep, ih h.2⟩
  | case2 c e t hc ih =>
    simp only [List.mem_cons, not_or] at h ih ⊢
    exact ⟨h.1, ih h.2⟩
  | case3 t _ => exact h

theorem notMem_capitalizeWords (hd : NoImage d) (atStart : Bool) (h : d ∉ t) :
    d ∉ capitalizeWords atStart t := by
  induction t generalizing atStart with
  | nil => simp [capitalizeWords]
  | cons c t ih =>
    rw [List.mem_cons, not_or] at h
    rw [capitalizeWords]
    split
    · exact ih true h.2
    · split
      · rw [List.mem_append, not_or]
        exact ⟨notMem_upperOf hd (Ne.symm h.1), ih false h.2⟩
      · rw [List.mem_cons, not_or]
        exact ⟨h.1, ih false h.2⟩

/-- A character that is no image and no separator is in a key only if it is in the name. -/
theorem notMem_convert (s : KeyStyle) (hd : NoImage d) (hsnake : d ≠ '_') (hkebab : d ≠ '-') (h : d ∉ t) :
    d ∉ s.convert t := by
  cases s with
  | camel => exact notMem_joinWords hd h
  | snake => exact notMem_toLower hd.ne_null hd.below (notMem_splitWords hsnake h)
  | pascal => exact notMem_capitalizeWords hd true h
  | kebab => exact notMem_toLower hd.ne_null hd.below (notMem_splitWords hkebab h)
  | asDeclared => exact h

end KeyStyle

end DartTransfer

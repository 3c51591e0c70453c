import DartTransfer.Proofs.Keys
import Mathlib.Data.List.Basic

/-!
# The words of a name

Each conversion cuts a name into words and puts the words together again. Snake and kebab case cut at
the separator and where a lowercase letter meets a capital, and what they put together is the words
in lower case with the separator between them (`KeyStyle.toLower_splitWords`); no word holds the
separator, so the key gives these words back. Pascal case cuts at underscores and joins the parts, each
with a capital (`KeyStyle.capitalizeWords_eq`). Camel case has no cut that its keys would show: it
reads a name from its end, and an underscore only looks at what the letters behind it have become
(`KeyStyle.joinWords_cons`).
-/

namespace DartTransfer

namespace Text
variable {sep : Char} {w : Text} {ws vs : List Text}

theorem joinWith_modifyHead (sep : Text) (c : Char) (hne : ws ≠ []) :
    joinWith sep (ws.modifyHead (c :: ·)) = c :: joinWith sep ws := by
  obtain ⟨w, ws, rfl⟩ := List.exists_cons_of_ne_nil hne
  cases ws with
  | nil => simp
  | cons v vs =>
    rw [List.modifyHead_cons, joinWith_cons _ _ (List.cons_ne_nil v vs),
      joinWith_cons _ _ (List.cons_ne_nil v vs)]
    rfl

/-- Words without the separator can be read off their joined form. -/
theorem joinWith_injective (hws : ws ≠ []) (hvs : vs ≠ []) (hw : ∀ w ∈ ws, sep ∉ w)
    (hv : ∀ v ∈ vs, sep ∉ v) (h : joinWith [sep] ws = joinWith [sep] vs) : ws = vs := by
  have hsplit : List.splitOn sep ([sep].intercalate ws) = List.splitOn sep ([sep].intercalate vs) :=
    congrArg (List.splitOn sep) h
  rwa [List.splitOn_intercalate sep hw hws, List.splitOn_intercalate sep hv hvs] at hsplit

/-! ### Lower case word by word -/

/-- What separates words for the final sigma: a character without case that is not passed over. -/
structure IsBarrier (sep : Char) : Prop where
  not_cased : isCased sep = false
  not_ignorable : isCaseIgnorable sep = false
  ne_sigma : sep ≠ 'Σ'
  lowerOf_eq : lowerOf sep = [sep]

theorem isBarrier_underscore : IsBarrier '_' := by constructor <;> decide +kernel

theorem isBarrier_hyphen : IsBarrier '-' := by constructor <;> decide +kernel

theorem startsCased_append (h : IsBarrier sep) (w r : Text) :
    startsCased (w ++ sep :: r) = startsCased w := by
  induction w with
  | nil => simp [startsCased, h.not_ignorable, h.not_cased]
  | cons c w ih =>
    rw [startsCased, List.cons_append, List.dropWhile_cons, startsCased, List.dropWhile_cons]
    split
    · exact ih
    · rfl

theorem lowerAfter_before (h : IsBarrier sep) (passed before t : Text) :
    lowerAfter (passed ++ sep :: before) t = lowerAfter passed t := by
  induction t generalizing passed with
  | nil => rfl
  | cons c t ih =>
    rw [lowerAfter, lowerAfter, startsCased_append h, ← List.cons_append, ih]

theorem lowerAfter_append (h : IsBarrier sep) (before w r : Text) :
    lowerAfter before (w ++ sep :: r) = lowerAfter before w ++ sep :: toLower r := by
  induction w generalizing before with
  | nil =>
    have hrest := lowerAfter_before h [] before r
    rw [List.nil_append] at hrest
    have hne : (sep == 'Σ') = false := beq_eq_false_iff_ne.mpr h.ne_sigma
    simp only [List.nil_append, lowerAfter, hne, Bool.false_eq_true, if_false, h.lowerOf_eq, hrest]
    rfl
  | cons c w ih =>
    rw [List.cons_append, lowerAfter, startsCased_append h, ih, lowerAfter, List.append_assoc]

theorem toLower_joinWith (h : IsBarrier sep) (ws : List Text) :
    toLower (joinWith [sep] ws) = joinWith [sep] (ws.map toLower) := by
  induction ws with
  | nil => rfl
  | cons w ws ih =>
    cases ws with
    | nil => simp
    | cons v vs =>
      rw [joinWith_cons _ _ (List.cons_ne_nil v vs), List.append_assoc, List.singleton_append, toLower,
        lowerAfter_append h, ih, List.map_cons (l := v :: vs),
        joinWith_cons _ _ (List.map_eq_nil_iff.not.mpr (List.cons_ne_nil v vs)), List.append_assoc]
      rfl

end Text

namespace KeyStyle
variable {sep : Char} {s t : Text}

/-! ### Words between separators and at capitals -/

/-- The words of a name, which is cut at `sep` and where a lowercase letter meets a capital. -/
def wordsOf (sep : Char) : Text → List Text
  | [] => [[]]
  | c :: t =>
    if c == sep then [] :: wordsOf sep t
    else if c.isLower && t.head?.any Char.isUpper then [c] :: wordsOf sep t
    else (wordsOf sep t).modifyHead (c :: ·)

theorem wordsOf_ne_nil (sep : Char) (t : Text) : wordsOf sep t ≠ [] := by
  induction t with
  | nil => exact List.cons_ne_nil _ _
  | cons c t ih =>
    rw [wordsOf]
    split
    · exact List.cons_ne_nil _ _
    · split
      · exact List.cons_ne_nil _ _
      · rwa [Ne, List.modifyHead_eq_nil_iff]

theorem notMem_of_mem_wordsOf (sep : Char) (t : Text) : ∀ w ∈ wordsOf sep t, sep ∉ w := by
  induction t with
  | nil => simp [wordsOf]
  | cons c t ih =>
    rw [wordsOf]
    split
    · exact List.forall_mem_cons.mpr ⟨List.not_mem_nil, ih⟩
    · next hc =>
      have hne : sep ≠ c := by rintro rfl; exact hc (beq_self_eq_true _)
      split
      · exact List.forall_mem_cons.mpr ⟨by simpa using hne, ih⟩
      · obtain ⟨w, ws, hws⟩ := List.exists_cons_of_ne_nil (wordsOf_ne_nil sep t)
        rw [hws] at ih ⊢
        obtain ⟨hw, hws⟩ := List.forall_mem_cons.mp ih
        exact List.forall_mem_cons.mpr ⟨by simpa [hne] using hw, hws⟩

theorem splitWords_eq (hl : sep.isLower = false) (t : Text) :
    splitWords sep t = Text.joinWith [sep] (wordsOf sep t) := by
  induction t with
  | nil => rfl
  | cons c t ih =>
    have hstep : splitWords sep (c :: t) =
        if c.isLower && t.head?.any Char.isUpper then c :: sep :: splitWords sep t
        else c :: splitWords sep t := by
      cases t <;> simp [splitWords]
    have hne := wordsOf_ne_nil sep t
    rw [hstep, ih, wordsOf]
    by_cases hc : c = sep
    · subst hc
      have hcut : (c.isLower && t.head?.any Char.isUpper) = false := by rw [hl, Bool.false_and]
      rw [hcut, if_neg Bool.false_ne_true, if_pos (beq_self_eq_true c), Text.joinWith_cons _ _ hne]
      rfl
    · rw [if_neg (c := (c == sep) = true) (by simpa using hc)]
      split
      · rw [Text.joinWith_cons _ _ hne]
        rfl
      · rw [Text.joinWith_modifyHead _ _ hne]

theorem toLower_splitWords (hl : sep.isLower = false) (hb : Text.IsBarrier sep) (t : Text) :
    (splitWords sep t).toLower = Text.joinWith [sep] ((wordsOf sep t).map Text.toLower) := by
  rw [splitWords_eq hl, Text.toLower_joinWith hb]

/-- A separator that no lower case brings in shows the words in a key. -/
theorem toLower_splitWords_inj (hl : sep.isLower = false) (hb : Text.IsBarrier sep)
    (h₀ : sep ≠ '\x00') (h97 : sep.toNat < 97) :
    (splitWords sep s).toLower = (splitWords sep t).toLower ↔
      (wordsOf sep s).map Text.toLower = (wordsOf sep t).map Text.toLower := by
  have hwords (t : Text) : ∀ w ∈ (wordsOf sep t).map Text.toLower, sep ∉ w :=
    List.forall_mem_map.mpr fun w hw => notMem_toLower h₀ h97 (notMem_of_mem_wordsOf sep t w hw)
  have hne (t : Text) : (wordsOf sep t).map Text.toLower ≠ [] :=
    List.map_eq_nil_iff.not.mpr (wordsOf_ne_nil sep t)
  rw [toLower_splitWords hl hb, toLower_splitWords hl hb]
  exact ⟨Text.joinWith_injective (hne s) (hne t) (hwords s) (hwords t), congrArg _⟩

/-! ### Parts between underscores -/

def capitalize : Text → Text
  | [] => []
  | c :: t => upperOf c ++ t

theorem capitalizeWords_eq (t : Text) :
    capitalizeWords true t = (Text.splitOn '_' t).flatMap capitalize ∧
      capitalizeWords false t =
        (Text.splitOn '_' t).head?.getD [] ++ (Text.splitOn '_' t).tail.flatMap capitalize := by
  induction t with
  | nil => exact ⟨rfl, rfl⟩
  | cons c t ih =>
    rw [capitalizeWords, capitalizeWords, Text.splitOn]
    split
    · rw [ih.1]
      exact ⟨rfl, rfl⟩
    · rw [if_pos rfl, if_neg Bool.false_ne_true, ih.2]
      cases Text.splitOn '_' t with
      | nil => simp [capitalize]
      | cons w ws => simp [capitalize]

/-! ### Underscores before lowercase letters -/

theorem toNat_lt_of_isLower {c : Char} (h : c.isLower = true) : c.toNat < 128 := by
  have hle : c.toNat ≤ 'z'.toNat := of_decide_eq_true (Bool.and_eq_true_iff.mp h).2
  exact Nat.lt_of_le_of_lt hle (by decide)

theorem of_isLower {p : Char → Prop} {c : Char} (h : c.isLower = true)
    (hp : ∀ n < 128, (Char.ofNat n).isLower = true → p (Char.ofNat n)) : p c :=
  of_ascii (p := fun c => c.isLower = true → p c) hp (toNat_lt_of_isLower h) h

theorem toLower_toUpper {c : Char} (h : c.isLower = true) : c.toUpper.toLower = c :=
  of_isLower (p := fun c => c.toUpper.toLower = c) h (by decide +kernel)

theorem isLower_toUpper {c : Char} (h : c.isLower = true) : c.toUpper.isLower = false :=
  of_isLower (p := fun c => c.toUpper.isLower = false) h (by decide +kernel)

theorem toUpper_ne_underscore {c : Char} (h : c.isLower = true) : c.toUpper ≠ '_' :=
  of_isLower (p := fun c => c.toUpper ≠ '_') h (by decide +kernel)

theorem joinWords_of_ne {c : Char} (h : c ≠ '_') (t : Text) : joinWords (c :: t) = c :: joinWords t :=
  joinWords.eq_2 c t fun _ _ hc => absurd hc h

/-- A key begins with the first character of its name, or with the capital for an underscore and a
lowercase letter. -/
theorem joinWords_eq_cons {d : Char} {r : Text} (h : joinWords s = d :: r) :
    (∃ u, s = d :: u ∧ joinWords u = r) ∨
      ∃ c u, c.isLower = true ∧ s = '_' :: c :: u ∧ d = c.toUpper ∧ joinWords u = r := by
  fun_cases joinWords s with
  | case1 c u hc =>
    rw [joinWords, if_pos hc] at h
    obtain ⟨rfl, rfl⟩ := List.cons.inj h
    exact .inr ⟨c, u, hc, rfl, rfl, rfl⟩
  | case2 c u hc =>
    rw [joinWords, if_neg hc] at h
    obtain ⟨rfl, rfl⟩ := List.cons.inj h
    exact .inl ⟨_, rfl, rfl⟩
  | case3 c u hc =>
    rw [joinWords.eq_2 _ _ hc] at h
    obtain ⟨rfl, rfl⟩ := List.cons.inj h
    exact .inl ⟨_, rfl, rfl⟩
  | case4 => exact absurd h (List.cons_ne_nil _ _).symm

/-- What a character becomes, given what has become of the text behind it. -/
def joinStep (c : Char) : Text → Text
  | [] => [c]
  | d :: r => if c == '_' && d.isLower then d.toUpper :: r else c :: d :: r

theorem joinStep_of_head {c : Char} {r : Text} (h : ∀ d ∈ r.head?, (c == '_' && d.isLower) = false) :
    joinStep c r = c :: r := by
  cases r with
  | nil => rfl
  | cons d r => rw [joinStep, h d rfl, if_neg Bool.false_ne_true]

theorem joinStep_ne_nil (c : Char) (r : Text) : joinStep c r ≠ [] := by
  fun_cases joinStep c r <;> exact List.cons_ne_nil _ _

theorem joinWords_cons (c : Char) (s : Text) : joinWords (c :: s) = joinStep c (joinWords s) := by
  by_cases hc : c = '_'
  · subst hc
    cases s with
    | nil => rfl
    | cons d s =>
      rw [joinWords]
      split
      · next hd =>
        have hne : d ≠ '_' := by rintro rfl; exact absurd hd (by decide)
        rw [joinWords_of_ne hne, joinStep, if_pos (by simpa using hd)]
      · next hd =>
        refine (joinStep_of_head fun e he => ?_).symm
        obtain ⟨r, hr⟩ := List.head?_eq_some_iff.mp he
        rcases joinWords_eq_cons hr with ⟨u, hu, -⟩ | ⟨f, u, hf, -, rfl, -⟩
        · obtain ⟨rfl, -⟩ := List.cons.inj hu
          simpa using hd
        · rw [isLower_toUpper hf, Bool.and_false]
  · rw [joinWords_of_ne hc, joinStep_of_head]
    simp [hc]

/-- Equal up to writing a capital as an underscore and its lowercase letter. -/
inductive CamelAlike : Text → Text → Prop
  | nil : CamelAlike [] []
  | cons (c : Char) {s t : Text} : CamelAlike s t → CamelAlike (c :: s) (c :: t)
  | left {c : Char} {s t : Text} :
    c.isLower = true → CamelAlike s t → CamelAlike ('_' :: c :: s) (c.toUpper :: t)
  | right {c : Char} {s t : Text} :
    c.isLower = true → CamelAlike s t → CamelAlike (c.toUpper :: s) ('_' :: c :: t)

theorem joinWords_eq_iff : joinWords s = joinWords t ↔ CamelAlike s t := by
  constructor
  · intro h
    fun_induction joinWords s generalizing t with
    | case1 c s hc ih =>
      rcases joinWords_eq_cons h.symm with ⟨u, rfl, hu⟩ | ⟨d, u, hd, rfl, he, hu⟩
      · exact .left hc (ih hu.symm)
      · have hcd : c = d := by rw [← toLower_toUpper hc, he, toLower_toUpper hd]
        subst hcd
        exact .cons _ (.cons _ (ih hu.symm))
    | case2 c s hc ih =>
      rcases joinWords_eq_cons h.symm with ⟨u, rfl, hu⟩ | ⟨d, u, hd, rfl, he, hu⟩
      · exact .cons _ (ih hu.symm)
      · exact absurd he.symm (toUpper_ne_underscore hd)
    | case3 c s hc ih =>
      rcases joinWords_eq_cons h.symm with ⟨u, rfl, hu⟩ | ⟨d, u, hd, rfl, rfl, hu⟩
      · exact .cons _ (ih hu.symm)
      · exact .right hd (ih hu.symm)
    | case4 =>
      cases t with
      | nil => exact .nil
      | cons c t =>
        rw [joinWords_cons] at h
        exact absurd h.symm (joinStep_ne_nil c _)
  · intro h
    induction h with
    | nil => rfl
    | cons c _ ih => rw [joinWords_cons, joinWords_cons, ih]
    | left hc _ ih => rw [joinWords, if_pos hc, joinWords_of_ne (toUpper_ne_underscore hc), ih]
    | right hc _ ih => rw [joinWords, if_pos hc, joinWords_of_ne (toUpper_ne_underscore hc), ih]

end KeyStyle

end DartTransfer

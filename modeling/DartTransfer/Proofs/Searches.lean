import Mathlib.Data.List.Basic
import Mathlib.Data.List.Infix
import DartTransfer.Proofs.Headings

/-!
# First places and matching brackets

`Text.First P` is the first place of a text at which `P` holds, where `P` may look at the character
ahead of the place; there is no second one (`First.unique`), and `Text.Nowhere P` says that there is
none. `Text.Closes` is the place of the bracket that closes the one ahead of the
text, with the brackets between the two counted. A text has such a place or stays open to its end
(`staysOpen_or_closes`).
-/

namespace DartTransfer.Text

/-! ### First places -/

section
variable {P : Option Char → Text → Prop} {before : Option Char} {s t ahead ahead' rest rest' : Text}

/-- `P` holds at no place of `s` that `t` follows; it looks at the character ahead of the place, and
`before` is the one ahead of `s`. -/
def NoneIn (P : Option Char → Text → Prop) (before : Option Char) (s t : Text) : Prop :=
  ∀ u v, s = u ++ v → v ≠ [] → ¬ P (lastOr before u) (v ++ t)

/-- Where `P` holds in `s`, it holds whether or not `t` follows. -/
def NoneAcross (P : Option Char → Text → Prop) (before : Option Char) (s t : Text) : Prop :=
  ∀ u v, s = u ++ v → v ≠ [] → P (lastOr before u) (v ++ t) → P (lastOr before u) v

/-- The first place at which `P` holds of the character ahead of it and of the text from there on;
`before` is the character ahead of the whole text. -/
structure First (P : Option Char → Text → Prop) (before : Option Char) (t ahead rest : Text) : Prop where
  append : t = ahead ++ rest
  holds : P (lastOr before ahead) rest
  not_ahead : NoneIn P before ahead rest

/-- `P` holds at no place of the text. -/
def Nowhere (P : Option Char → Text → Prop) (before : Option Char) (t : Text) : Prop :=
  ∀ u v, t = u ++ v → ¬ P (lastOr before u) v

theorem forall_split_iff {Q : Text → Text → Prop} :
    (∀ u v, t = u ++ v → Q u v) ↔ ∀ n ≤ t.length, Q (t.take n) (t.drop n) := by
  constructor
  · exact fun h n _ => h _ _ (List.take_append_drop n t).symm
  · rintro h u v rfl
    have hsplit := h u.length (by rw [List.length_append]; exact Nat.le_add_right ..)
    rwa [List.take_left, List.drop_left] at hsplit

instance [∀ b t, Decidable (P b t)] : Decidable (NoneIn P before s t) :=
  decidable_of_iff _ forall_split_iff.symm

instance [∀ b t, Decidable (P b t)] : Decidable (NoneAcross P before s t) :=
  decidable_of_iff _ forall_split_iff.symm

theorem nowhere_nil (h : ¬ P before []) : Nowhere P before [] := by
  intro u v huv
  obtain ⟨rfl, rfl⟩ := List.append_eq_nil_iff.mp huv.symm
  exact h

theorem nowhere_cons {c : Char} (hc : ¬ P before (c :: t)) (h : Nowhere P (some c) t) :
    Nowhere P before (c :: t) := by
  intro u v huv
  cases u with
  | nil =>
    obtain rfl : c :: t = v := huv
    exact hc
  | cons d u =>
    obtain ⟨rfl, rfl⟩ := List.cons.inj huv
    rw [lastOr_cons]
    exact h u v rfl

namespace First

theorem of_holds (h : P before t) : First P before t [] t :=
  ⟨rfl, h, fun _ _ huv hv => absurd (List.append_eq_nil_iff.mp huv.symm).2 hv⟩

theorem cons {c : Char} (hc : ¬ P before (c :: t)) (h : First P (some c) t ahead rest) :
    First P before (c :: t) (c :: ahead) rest := by
  refine ⟨by rw [h.append, List.cons_append], by rw [lastOr_cons]; exact h.holds, ?_⟩
  intro u v huv hv
  cases u with
  | nil =>
    obtain rfl : c :: ahead = v := huv
    rw [List.cons_append, ← h.append]
    exact hc
  | cons d u =>
    obtain ⟨rfl, hu⟩ := List.cons.inj huv
    rw [lastOr_cons]
    exact h.not_ahead u v hu hv

theorem not_nowhere (h : First P before t ahead rest) : ¬ Nowhere P before t :=
  fun hno => hno ahead rest h.append h.holds

theorem unique (h : First P before t ahead rest) (h' : First P before t ahead' rest') :
    ahead = ahead' ∧ rest = rest' := by
  rcases List.append_eq_append_iff.mp (h.append.symm.trans h'.append) with ⟨v, hv, hr⟩ | ⟨v, hv, hr⟩
  · by_cases hne : v = []
    · simp [hv, hr, hne]
    · exact absurd (hr ▸ h.holds) (h'.not_ahead ahead v hv hne)
  · by_cases hne : v = []
    · simp [hv, hr, hne]
    · exact absurd (hr ▸ h'.holds) (h.not_ahead ahead' v hv hne)

end First

end

/-! ### Matching brackets -/

section
variable {opening closing : Char} {depth : Nat} {s t inner rest : Text}

/-- The text closes the brackets that it opens, and `depth` more at most. -/
def StaysOpen (opening closing : Char) (depth : Nat) (t : Text) : Prop :=
  ∀ u, u <+: t → u.count closing ≤ depth + u.count opening

/-- `inner` is the text up to the bracket that closes the one ahead of it, and `rest` what follows that
bracket. -/
structure Closes (opening closing : Char) (t inner rest : Text) : Prop where
  append : t = inner ++ closing :: rest
  staysOpen : StaysOpen opening closing 0 inner
  level : inner.count opening = inner.count closing

instance : Decidable (StaysOpen opening closing depth t) :=
  decidable_of_iff (∀ u ∈ t.inits, u.count closing ≤ depth + u.count opening) <| by
    simp only [List.mem_inits, StaysOpen]

theorem staysOpen_nil : StaysOpen opening closing depth [] := by
  intro u hu
  rw [List.prefix_nil.mp hu, List.count_nil]
  exact Nat.zero_le _

theorem staysOpen_concat {c : Char} (h : StaysOpen opening closing depth t)
    (hc : (t ++ [c]).count closing ≤ depth + (t ++ [c]).count opening) :
    StaysOpen opening closing depth (t ++ [c]) := by
  intro u hu
  rcases List.prefix_concat_iff.mp hu with rfl | hu
  · exact hc
  · exact h u hu

theorem StaysOpen.of_append (h : StaysOpen opening closing depth (s ++ t)) :
    StaysOpen opening closing depth s :=
  fun u hu => h u (hu.trans (List.prefix_append s t))

/-- Behind its first character the text may close what is open there. -/
theorem StaysOpen.of_cons {c : Char} (h : StaysOpen opening closing depth (c :: t)) :
    StaysOpen opening closing (depth + [c].count opening - [c].count closing) t := by
  intro u hu
  have hcons := h (c :: u) (List.prefix_cons_inj c |>.mpr hu)
  have hone := h [c] (List.prefix_append [c] t)
  rw [← List.singleton_append, List.count_append, List.count_append] at hcons
  omega

/-- A text without the brackets opens and closes nothing. -/
theorem StaysOpen.append_of_notMem (h : StaysOpen opening closing depth s) (hc : closing ∉ t) :
    StaysOpen opening closing depth (s ++ t) := by
  intro u hu
  by_cases hle : u.length ≤ s.length
  · exact h u (List.prefix_of_prefix_length_le hu (List.prefix_append s t) hle)
  · obtain ⟨v, rfl⟩ : s <+: u :=
      List.prefix_of_prefix_length_le (List.prefix_append s t) hu (Nat.le_of_not_le hle)
    have hv : closing ∉ v := fun hm => hc (((List.prefix_append_right_inj s).mp hu).subset hm)
    have hs := h s (List.prefix_refl s)
    rw [List.count_append, List.count_append, List.count_eq_zero.mpr hv]
    omega

theorem Closes.extend (h : Closes opening closing t inner rest) (s : Text) :
    Closes opening closing (t ++ s) inner (rest ++ s) :=
  ⟨by rw [h.append, List.append_assoc, List.cons_append], h.staysOpen, h.level⟩

theorem staysOpen_or_closes (hne : opening ≠ closing) (t : Text) :
    StaysOpen opening closing 0 t ∨ ∃ inner rest, Closes opening closing t inner rest := by
  induction t using List.reverseRec with
  | nil => exact .inl staysOpen_nil
  | append_singleton t c ih =>
    rcases ih with hopen | ⟨inner, rest, hcloses⟩
    · by_cases hc : (t ++ [c]).count closing ≤ 0 + (t ++ [c]).count opening
      · exact .inl (staysOpen_concat hopen hc)
      · -- the last bracket closes more than is open, so it closes what is ahead of the text
        have ht := hopen t (List.prefix_refl t)
        simp only [List.count_append, List.count_singleton, beq_iff_eq] at hc
        have hclosing : c = closing := by
          by_contra hother
          rw [if_neg hother] at hc
          omega
        subst hclosing
        rw [if_pos rfl, if_neg hne.symm] at hc
        exact .inr ⟨t, [], rfl, hopen, by omega⟩
    · refine .inr ⟨inner, rest ++ [c], ?_, hcloses.staysOpen, hcloses.level⟩
      rw [hcloses.append, List.append_assoc, List.cons_append]

end

end DartTransfer.Text

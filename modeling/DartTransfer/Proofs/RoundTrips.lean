import DartTransfer.Proofs.Conserved
import DartTransfer.Proofs.Headings

/-!
# Snake case and back

Snake case writes an underscore only between a lowercase letter and a capital, so of a name without underscores the
way back to camel case restores these capitals and no other (`KeyStyle.joinWords_splitWords`). A name of ASCII letters
and digits therefore comes back exactly when each of its capitals stands right behind a lowercase letter
(`KeyStyle.camel_snake_eq_self_iff`).
-/

namespace DartTransfer

variable {c d : Char} {t : Text}

/-! ### Letters and digits -/

theorem toNat_lt_of_isAlphanum (h : c.isAlphanum = true) : c.toNat < 128 := by
  rcases Bool.or_eq_true_iff.mp h with halpha | hdigit
  · rcases Bool.or_eq_true_iff.mp halpha with hupper | hlower
    · have hle : c.toNat ≤ 'Z'.toNat := (of_decide_eq_true hupper).2
      exact Nat.lt_of_le_of_lt hle (by decide)
    · exact KeyStyle.toNat_lt_of_isLower hlower
  · have hle : c.toNat ≤ '9'.toNat := of_decide_eq_true (Bool.and_eq_true_iff.mp hdigit).2
    exact Nat.lt_of_le_of_lt hle (by decide)

/-- A law of the ASCII letters and digits is checked one by one. -/
theorem of_isAlphanum {p : Char → Prop} (h : c.isAlphanum = true)
    (hp : ∀ n < 128, (Char.ofNat n).isAlphanum = true → p (Char.ofNat n)) : p c :=
  of_ascii (p := fun c => c.isAlphanum = true → p c) hp (toNat_lt_of_isAlphanum h) h

namespace KeyStyle

theorem toLower_eq_self_iff (h : c.isAlphanum = true) : c.toLower = c ↔ c.isUpper = false :=
  of_isAlphanum (p := fun c => c.toLower = c ↔ c.isUpper = false) h (by decide +kernel)

theorem toLower_ne_underscore (h : c.isAlphanum = true) : c.toLower ≠ '_' :=
  of_isAlphanum (p := fun c => c.toLower ≠ '_') h (by decide +kernel)

/-- A capital comes back from its lowercase letter. -/
theorem toUpper_toLower (h : c.isAlphanum = true) (hupper : c.isUpper = true) :
    c.toLower.isLower = true ∧ c.toLower.toUpper = c :=
  of_isAlphanum (p := fun c => c.isUpper = true → c.toLower.isLower = true ∧ c.toLower.toUpper = c) h
    (by decide +kernel) hupper

/-! ### The way back -/

/-- The text with its capitals in lower case, but for those right behind a lowercase letter. -/
def lowerLoose (before : Option Char) : Text → Text
  | [] => []
  | c :: t => (if before.any Char.isLower then c else c.toLower) :: lowerLoose (some c) t

theorem joinStep_of_ne_underscore (h : c ≠ '_') (r : Text) : joinStep c r = c :: r := by
  refine joinStep_of_head fun d _ => ?_
  rw [beq_eq_false_iff_ne.mpr h, Bool.false_and]

theorem joinWords_splitWords (h : ∀ c ∈ t, c.isAlphanum = true) :
    joinWords ((splitWords '_' t).map Char.toLower) = lowerLoose none t := by
  fun_induction splitWords '_' t with
  | case1 c d t hcut ih =>
    obtain ⟨hc, ht⟩ := List.forall_mem_cons.mp h
    obtain ⟨hlower, hupper⟩ := Bool.and_eq_true_iff.mp hcut
    obtain ⟨hletter, hback⟩ := toUpper_toLower (ht d List.mem_cons_self) hupper
    -- the underscore meets the letter that `d` has become
    have hjoin : joinStep '_' (d.toLower :: lowerLoose (some d) t) = d :: lowerLoose (some d) t := by
      simp [joinStep, hletter, hback]
    rw [List.map_cons, List.map_cons, joinWords_cons, joinStep_of_ne_underscore (toLower_ne_underscore hc),
      joinWords_cons, ih ht]
    simp only [lowerLoose, Option.any_none, Option.any_some, hlower, if_true, Bool.false_eq_true, if_false]
    exact congrArg _ hjoin
  | case2 c d t hcut ih =>
    obtain ⟨hc, ht⟩ := List.forall_mem_cons.mp h
    rw [List.map_cons, joinWords_cons, joinStep_of_ne_underscore (toLower_ne_underscore hc), ih ht]
    simp only [lowerLoose, Option.any_none, Option.any_some, Bool.false_eq_true, if_false]
    split
    · next hlower =>
      rw [hlower, Bool.true_and, Bool.not_eq_true] at hcut
      rw [(toLower_eq_self_iff (ht d List.mem_cons_self)).mpr hcut]
    · rfl
  | case3 t ht =>
    cases t with
    | nil => rfl
    | cons c t =>
      cases t with
      | nil => exact joinWords_cons c.toLower []
      | cons d t => exact absurd rfl (ht c d t)

theorem lowerLoose_eq_self_iff (h : ∀ c ∈ t, c.isAlphanum = true) (before : Option Char) :
    lowerLoose before t = t ↔
      ∀ u c v, t = u ++ c :: v → c.isUpper = true → (Text.lastOr before u).any Char.isLower = true := by
  induction t generalizing before with
  | nil => simp [lowerLoose]
  | cons c t ih =>
    obtain ⟨hc, ht⟩ := List.forall_mem_cons.mp h
    have hfirst : (if before.any Char.isLower then c else c.toLower) = c ↔
        (c.isUpper = true → before.any Char.isLower = true) := by
      have hself := toLower_eq_self_iff hc
      cases before.any Char.isLower <;> simp [hself]
    rw [lowerLoose, List.cons.injEq, hfirst, ih ht]
    constructor
    · rintro ⟨hhere, hbehind⟩ u d v hsplit hd
      cases u with
      | nil =>
        obtain ⟨rfl, -⟩ := List.cons.inj hsplit
        exact hhere hd
      | cons e u =>
        obtain ⟨rfl, hrest⟩ := List.cons.inj hsplit
        rw [Text.lastOr_cons]
        exact hbehind u d v hrest hd
    · intro hall
      refine ⟨hall [] c t rfl, fun u d v hsplit hd => ?_⟩
      have := hall (c :: u) d v (by rw [hsplit, List.cons_append]) hd
      rwa [Text.lastOr_cons] at this

theorem camel_snake_eq (h : ∀ c ∈ t, c.isAlphanum = true) :
    camel.convert (snake.convert t) = lowerLoose none t := by
  have hascii : t.IsAscii := fun c hc => toNat_lt_of_isAlphanum (h c hc)
  rw [convert, convert, (isAscii_splitWords (by decide) hascii).toLower_eq, joinWords_splitWords h]

/-- A name of letters and digits comes back from snake case by camel case exactly when each of its capitals stands
right behind a lowercase letter. -/
theorem camel_snake_eq_self_iff (h : ∀ c ∈ t, c.isAlphanum = true) :
    camel.convert (snake.convert t) = t ↔
      ∀ u c v, t = u ++ c :: v → c.isUpper = true → ∃ d ∈ u.getLast?, d.isLower = true := by
  rw [camel_snake_eq h, lowerLoose_eq_self_iff h]
  simp only [Text.lastOr, Option.or_none, Option.any_eq_true, Option.mem_def]

/-- A name whose capitals stand behind lowercase letters, and three that have one at the start, behind a capital or
behind a digit. -/
theorem camel_snake_eq_self_iff_names :
    camel.convert (snake.convert "httpServer2xY") = "httpServer2xY".toList ∧
      (∀ u c v, "httpServer2xY".toList = u ++ c :: v → c.isUpper = true → ∃ d ∈ u.getLast?, d.isLower = true) ∧
      ∀ t ∈ ["Http".toList, "xYZ".toList, "x2Y".toList], camel.convert (snake.convert t) ≠ t := by
  have hbehind (t : Text) (ht : t.all Char.isAlphanum = true) :=
    (camel_snake_eq_self_iff (List.all_eq_true.mp ht)).mp
  have hback : camel.convert (snake.convert "httpServer2xY") = "httpServer2xY".toList := by decide +kernel
  refine ⟨hback, hbehind _ rfl hback, ?_⟩
  intro t ht hback
  simp only [List.mem_cons, List.not_mem_nil, or_false] at ht
  rcases ht with rfl | rfl | rfl
  · exact absurd (hbehind _ rfl hback [] 'H' "ttp".toList rfl rfl) (by simp)
  · exact absurd (hbehind _ rfl hback "xY".toList 'Z' [] rfl rfl) (by simp)
  · exact absurd (hbehind _ rfl hback "x2".toList 'Y' [] rfl rfl) (by simp)

end KeyStyle

end DartTransfer

import Mathlib.Data.List.Infix
import DartTransfer.Directive

/-!
# Quotes and nested brackets

A quote lasts up to the next character of its kind; `Text.openQuote` says which one is open behind a
text, and `Text.unquoted` keeps what stands outside quotes. `Text.Nested` are the texts whose brackets
of some kinds are properly nested. Cut in two, such a text either is nested on both sides, or a bracket
of the first part is open at the cut, with a nested text behind it (`Text.Nested.split`). A text is
settled (`Text.Settled`) when no stretch at its end opens more brackets than it closes. That is what a
counter sees that goes up at every opening bracket and down at every closing one, but never below zero
(`Text.depthBehind_eq_zero_iff`): it does not tell the kinds of brackets apart.
-/

namespace DartTransfer.Text

/-! ### Quotes -/

def isQuote (c : Char) : Bool := c == '\'' || c == '"'

/-- The quote that is open behind the character, where `quote` is open ahead of it. -/
def quoteBehind (quote : Option Char) (c : Char) : Option Char :=
  match quote with
  | some q => if c = q then none else some q
  | none => if isQuote c then some c else none

/-- The quote that is open behind the text. -/
def openQuote (quote : Option Char) (t : Text) : Option Char := t.foldl quoteBehind quote

/-- The characters outside quotes, less the quotes themselves. -/
def unquoted : Option Char → Text → Text
  | _, [] => []
  | quote, c :: t =>
    if quote.isNone && !isQuote c then c :: unquoted none t else unquoted (quoteBehind quote c) t

section
variable {quote : Option Char} {c : Char} {s t : Text}

theorem openQuote_append (quote : Option Char) (s t : Text) :
    openQuote quote (s ++ t) = openQuote (openQuote quote s) t := List.foldl_append

theorem openQuote_cons (quote : Option Char) (c : Char) (t : Text) :
    openQuote quote (c :: t) = openQuote (quoteBehind quote c) t := rfl

theorem unquoted_cons_of_some (q c : Char) (t : Text) :
    unquoted (some q) (c :: t) = unquoted (quoteBehind (some q) c) t := rfl

theorem unquoted_cons_of_quote (hc : isQuote c = true) (t : Text) :
    unquoted none (c :: t) = unquoted (some c) t := by
  rw [unquoted, quoteBehind, hc]
  rfl

theorem unquoted_cons_of_plain (hc : isQuote c = false) (t : Text) :
    unquoted none (c :: t) = c :: unquoted none t := by
  rw [unquoted, hc]
  rfl

theorem openQuote_cons_of_plain (hc : isQuote c = false) (t : Text) :
    openQuote none (c :: t) = openQuote none t := by
  rw [openQuote, List.foldl_cons, quoteBehind, hc]
  rfl

theorem unquoted_append (quote : Option Char) (s t : Text) :
    unquoted quote (s ++ t) = unquoted quote s ++ unquoted (openQuote quote s) t := by
  induction s generalizing quote with
  | nil => rfl
  | cons c s ih =>
    rw [List.cons_append, unquoted, unquoted, openQuote, List.foldl_cons, ih, ih]
    split
    · next h =>
      rw [Bool.and_eq_true, Option.isNone_iff_eq_none, Bool.not_eq_true'] at h
      rw [h.1, quoteBehind, h.2]
      rfl
    · rfl

theorem mem_of_mem_unquoted (h : c ∈ unquoted quote t) : c ∈ t := by
  induction t generalizing quote with
  | nil => exact h
  | cons d t ih =>
    rw [unquoted] at h
    split at h
    · rcases List.mem_cons.mp h with rfl | h
      · exact List.mem_cons_self
      · exact List.mem_cons_of_mem d (ih h)
    · exact List.mem_cons_of_mem d (ih h)

/-- Without quotes in it, the text is all outside. -/
theorem unquoted_of_plain (h : ∀ c ∈ t, isQuote c = false) : unquoted none t = t := by
  induction t with
  | nil => rfl
  | cons c t ih =>
    rw [unquoted_cons_of_plain (h c List.mem_cons_self), ih fun d hd => h d (List.mem_cons_of_mem c hd)]

theorem openQuote_of_plain (h : ∀ c ∈ t, isQuote c = false) : openQuote none t = none := by
  induction t with
  | nil => rfl
  | cons c t ih =>
    rw [openQuote_cons_of_plain (h c List.mem_cons_self)]
    exact ih fun d hd => h d (List.mem_cons_of_mem c hd)

end

/-! ### Brackets -/

/-- Some character is the opening bracket of one of the kinds. -/
def opens (kinds : List (Char × Char)) (c : Char) : Bool := kinds.any (·.1 == c)

def closes (kinds : List (Char × Char)) (c : Char) : Bool := kinds.any (·.2 == c)

/-- No character opens and closes. -/
def Apart (kinds : List (Char × Char)) : Prop := ∀ k ∈ kinds, closes kinds k.1 = false

instance (kinds : List (Char × Char)) : Decidable (Apart kinds) := by
  unfold Apart
  infer_instance

/-- The brackets of the given kinds are properly nested. -/
inductive Nested (kinds : List (Char × Char)) : Text → Prop
  | nil : Nested kinds []
  | other {c : Char} {t : Text} (hopens : opens kinds c = false) (hcloses : closes kinds c = false)
      (ht : Nested kinds t) : Nested kinds (c :: t)
  | pair {k : Char × Char} {s t : Text} (hk : k ∈ kinds) (hs : Nested kinds s) (ht : Nested kinds t) :
      Nested kinds (k.1 :: s ++ k.2 :: t)

/-- No stretch at the end of the text opens more brackets than it closes. -/
def Settled (kinds : List (Char × Char)) (t : Text) : Prop :=
  ∀ v, v <:+ t → v.countP (opens kinds) ≤ v.countP (closes kinds)

section
variable {kinds : List (Char × Char)} {k : Char × Char} {c : Char} {s t u v : Text}

theorem opens_of_mem (hk : k ∈ kinds) : opens kinds k.1 = true :=
  List.any_eq_true.mpr ⟨k, hk, beq_self_eq_true k.1⟩

theorem closes_of_mem (hk : k ∈ kinds) : closes kinds k.2 = true :=
  List.any_eq_true.mpr ⟨k, hk, beq_self_eq_true k.2⟩

theorem Apart.closes_eq_false (h : Apart kinds) (ho : opens kinds c = true) : closes kinds c = false := by
  obtain ⟨k, hk, e⟩ := List.any_eq_true.mp ho
  exact beq_iff_eq.mp e ▸ h k hk

theorem Apart.opens_eq_false (h : Apart kinds) (hc : closes kinds c = true) : opens kinds c = false := by
  rw [Bool.eq_false_iff]
  intro ho
  rw [h.closes_eq_false ho] at hc
  exact Bool.noConfusion hc

theorem settled_nil : Settled kinds [] := by
  intro v hv
  rw [List.suffix_nil.mp hv]
  exact Nat.le_refl 0

theorem settled_cons_iff : Settled kinds (c :: t) ↔
    (c :: t).countP (opens kinds) ≤ (c :: t).countP (closes kinds) ∧ Settled kinds t := by
  constructor
  · exact fun h => ⟨h _ (List.suffix_refl _), fun v hv => h v (hv.trans (List.suffix_cons c t))⟩
  · rintro ⟨hall, h⟩ v hv
    rcases List.suffix_cons_iff.mp hv with rfl | hv
    · exact hall
    · exact h v hv

theorem Settled.append (hs : Settled kinds s) (ht : Settled kinds t) : Settled kinds (s ++ t) := by
  induction s with
  | nil => exact ht
  | cons c s ih =>
    obtain ⟨hall, hs⟩ := settled_cons_iff.mp hs
    have hle := ht t (List.suffix_refl t)
    refine settled_cons_iff.mpr ⟨?_, ih hs⟩
    show (c :: s ++ t).countP (opens kinds) ≤ (c :: s ++ t).countP (closes kinds)
    rw [List.countP_append, List.countP_append]
    exact Nat.add_le_add hall hle

namespace Nested

theorem append (hs : Nested kinds s) (ht : Nested kinds t) : Nested kinds (s ++ t) := by
  induction hs with
  | nil => exact ht
  | other hopens hcloses _ ih => exact .other hopens hcloses ih
  | pair hk hs _ _ ih =>
    rw [List.append_assoc]
    exact .pair hk hs ih

/-- Behind a character that is no bracket the text is nested as well. -/
theorem of_cons (hopens : opens kinds c = false) (h : Nested kinds (c :: t)) : Nested kinds t := by
  cases h with
  | other _ _ ht => exact ht
  | pair hk _ _ =>
    rw [opens_of_mem hk] at hopens
    exact Bool.noConfusion hopens

theorem of_plain (h : ∀ c ∈ t, opens kinds c = false ∧ closes kinds c = false) : Nested kinds t := by
  induction t with
  | nil => exact .nil
  | cons c t ih =>
    obtain ⟨hopens, hcloses⟩ := h c List.mem_cons_self
    exact .other hopens hcloses (ih fun d hd => h d (List.mem_cons_of_mem c hd))

theorem of_plain_append (hs : ∀ c ∈ s, opens kinds c = false) (h : Nested kinds (s ++ t)) :
    Nested kinds t := by
  induction s with
  | nil => exact h
  | cons c s ih =>
    exact ih (fun d hd => hs d (List.mem_cons_of_mem c hd)) (h.of_cons (hs c List.mem_cons_self))

/-- As many brackets are closed as are opened. -/
theorem countP_eq (ha : Apart kinds) (h : Nested kinds t) :
    t.countP (opens kinds) = t.countP (closes kinds) := by
  induction h with
  | nil => rfl
  | other hopens hcloses _ ih => rw [List.countP_cons, List.countP_cons, hopens, hcloses, ih]
  | @pair k s t hk _ _ ihs iht =>
    have hopening := ha k hk
    have hclosing := ha.opens_eq_false (closes_of_mem hk)
    simp only [List.countP_append, List.countP_cons, opens_of_mem hk, closes_of_mem hk, hopening, hclosing,
      ihs, iht]
    simp
    omega

theorem settled (ha : Apart kinds) (h : Nested kinds t) : Settled kinds t := by
  induction h with
  | nil => exact settled_nil
  | other hopens hcloses ht ih =>
    exact settled_cons_iff.mpr ⟨(countP_eq ha (.other hopens hcloses ht)).le, ih⟩
  | @pair k s t hk hs ht ihs iht =>
    have hclosing := ha.opens_eq_false (closes_of_mem hk)
    have htail : Settled kinds (k.2 :: t) := by
      refine settled_cons_iff.mpr ⟨?_, iht⟩
      rw [List.countP_cons, List.countP_cons, hclosing, countP_eq ha ht]
      simp
    exact settled_cons_iff.mpr ⟨(countP_eq ha (.pair hk hs ht)).le, ihs.append htail⟩

/-- At a cut of a nested text, either both sides are nested, or a bracket is open with a nested text
behind it. -/
theorem split (h : Nested kinds (u ++ v)) : Nested kinds u ∧ Nested kinds v ∨
    ∃ ahead o inside, u = ahead ++ o :: inside ∧ opens kinds o = true ∧ Nested kinds inside := by
  generalize ht : u ++ v = t at h
  induction h generalizing u v with
  | nil =>
    obtain ⟨rfl, rfl⟩ := List.append_eq_nil_iff.mp ht
    exact .inl ⟨.nil, .nil⟩
  | @other c t hopens hcloses ht' ih =>
    cases u with
    | nil =>
      obtain rfl : v = c :: t := ht
      exact .inl ⟨.nil, .other hopens hcloses ht'⟩
    | cons d u =>
      obtain ⟨rfl, htail⟩ := List.cons.inj ht
      rcases ih htail with ⟨hu, hv⟩ | ⟨ahead, o, inside, rfl, ho, hinside⟩
      · exact .inl ⟨.other hopens hcloses hu, hv⟩
      · exact .inr ⟨d :: ahead, o, inside, rfl, ho, hinside⟩
  | @pair k s t hk hs ht' ihs iht =>
    cases u with
    | nil =>
      obtain rfl : v = k.1 :: s ++ k.2 :: t := ht
      exact .inl ⟨.nil, .pair hk hs ht'⟩
    | cons d u =>
      obtain ⟨rfl, htail⟩ := List.cons.inj ht
      rcases List.append_eq_append_iff.mp htail with ⟨w, rfl, hv⟩ | ⟨w, rfl, hw⟩
      · -- the cut is between the two brackets
        rcases ihs rfl with ⟨hu, -⟩ | ⟨ahead, o, inside, rfl, ho, hinside⟩
        · exact .inr ⟨[], k.1, u, rfl, opens_of_mem hk, hu⟩
        · exact .inr ⟨k.1 :: ahead, o, inside, rfl, ho, hinside⟩
      · cases w with
        | nil => exact .inr ⟨[], k.1, s, by rw [List.append_nil]; rfl, opens_of_mem hk, hs⟩
        | cons e w =>
          -- the cut is behind the closing bracket
          obtain ⟨rfl, rfl⟩ := List.cons.inj hw
          rcases iht rfl with ⟨hu, hv⟩ | ⟨ahead, o, inside, rfl, ho, hinside⟩
          · exact .inl ⟨.pair hk hs hu, hv⟩
          · exact .inr ⟨k.1 :: s ++ k.2 :: ahead, o, inside, by simp, ho, hinside⟩

/-- A bracket that is open with a nested text behind it is not settled. -/
theorem not_settled (ha : Apart kinds) {o : Char} {ahead inside : Text} (ho : opens kinds o = true)
    (h : Nested kinds inside) : ¬ Settled kinds (ahead ++ o :: inside) := by
  intro hsettled
  have hle := hsettled (o :: inside) (List.suffix_append ahead _)
  rw [List.countP_cons, List.countP_cons, ho, ha.closes_eq_false ho, countP_eq ha h] at hle
  simp only [if_true] at hle
  exact absurd hle (Nat.not_succ_le_self _)

/-- A settled front part of a nested text is nested. -/
theorem of_settled (ha : Apart kinds) (h : Nested kinds (u ++ v)) (hu : Settled kinds u) :
    Nested kinds u ∧ Nested kinds v := by
  rcases h.split with hboth | ⟨ahead, o, inside, rfl, ho, hinside⟩
  · exact hboth
  · exact absurd hu (not_settled ha ho hinside)

/-- Ahead of characters that are no brackets the text is nested as well. -/
theorem of_append_plain (ha : Apart kinds) (ht : ∀ c ∈ t, opens kinds c = false ∧ closes kinds c = false)
    (h : Nested kinds (s ++ t)) : Nested kinds s := by
  rcases h.split with ⟨hs, -⟩ | ⟨ahead, o, inside, rfl, ho, hinside⟩
  · exact hs
  · refine absurd (h.settled ha) ?_
    rw [List.append_assoc]
    exact not_settled ha ho (hinside.append (of_plain ht))

end Nested

/-! ### Deciding what is nested -/

/-- The text closes, one behind the other, what awaits one of the `stack`, with nested texts in between. -/
def Awaits (kinds : List (Char × Char)) : List Char → Text → Prop
  | [], t => Nested kinds t
  | d :: stack, t => ∃ s r, t = s ++ d :: r ∧ Nested kinds s ∧ Awaits kinds stack r

/-- Whether the text closes what the `stack` awaits. -/
def settles (kinds : List (Char × Char)) : List Char → Text → Bool
  | stack, [] => stack.isEmpty
  | stack, c :: t =>
    (kinds.any fun k => k.1 == c && settles kinds (k.2 :: stack) t) ||
      (stack.head? == some c && settles kinds stack.tail t) ||
      (!opens kinds c && !closes kinds c && settles kinds stack t)

namespace Awaits
variable {stack : List Char}

theorem other (hopens : opens kinds c = false) (hcloses : closes kinds c = false)
    (h : Awaits kinds stack t) : Awaits kinds stack (c :: t) := by
  cases stack with
  | nil => exact Nested.other hopens hcloses h
  | cons d stack =>
    obtain ⟨s, r, rfl, hs, hr⟩ := h
    exact ⟨c :: s, r, rfl, .other hopens hcloses hs, hr⟩

theorem pair (hk : k ∈ kinds) (h : Awaits kinds (k.2 :: stack) t) : Awaits kinds stack (k.1 :: t) := by
  obtain ⟨s, r, rfl, hs, hr⟩ := h
  cases stack with
  | nil => exact Nested.pair hk hs hr
  | cons d stack =>
    obtain ⟨s', r', rfl, hs', hr'⟩ := hr
    exact ⟨k.1 :: s ++ k.2 :: s', r', by simp, .pair hk hs hs', hr'⟩

/-- What a first character can do: open a bracket, close the awaited one, or neither. -/
theorem cases_cons (h : Awaits kinds stack (c :: t)) :
    (∃ k ∈ kinds, k.1 = c ∧ Awaits kinds (k.2 :: stack) t) ∨
      (∃ stack', stack = c :: stack' ∧ Awaits kinds stack' t) ∨
      opens kinds c = false ∧ closes kinds c = false ∧ Awaits kinds stack t := by
  cases stack with
  | nil =>
    cases h with
    | other hopens hcloses ht => exact .inr (.inr ⟨hopens, hcloses, ht⟩)
    | pair hk hs ht => exact .inl ⟨_, hk, rfl, _, _, rfl, hs, ht⟩
  | cons d stack =>
    obtain ⟨s, r, e, hs, hr⟩ := h
    cases hs with
    | nil =>
      obtain ⟨rfl, rfl⟩ := List.cons.inj e
      exact .inr (.inl ⟨stack, rfl, hr⟩)
    | other hopens hcloses hs =>
      obtain ⟨rfl, rfl⟩ := List.cons.inj e
      exact .inr (.inr ⟨hopens, hcloses, _, r, rfl, hs, hr⟩)
    | @pair k s s' hk hs hs' =>
      obtain ⟨rfl, rfl⟩ := List.cons.inj e
      exact .inl ⟨k, hk, rfl, s, s' ++ d :: r, by simp, hs, s', r, rfl, hs', hr⟩

end Awaits

theorem settles_iff {stack : List Char} : settles kinds stack t = true ↔ Awaits kinds stack t := by
  induction t generalizing stack with
  | nil =>
    cases stack with
    | nil => exact iff_of_true rfl Nested.nil
    | cons d stack => simp [settles, Awaits]
  | cons c t ih =>
    simp only [settles, Bool.or_eq_true, List.any_eq_true, Bool.and_eq_true, beq_iff_eq, Bool.not_eq_true', ih]
    constructor
    · rintro ((⟨k, hk, rfl, h⟩ | ⟨hstack, h⟩) | ⟨⟨hopens, hcloses⟩, h⟩)
      · exact h.pair hk
      · obtain ⟨stack', rfl⟩ := List.head?_eq_some_iff.mp hstack
        exact ⟨[], t, rfl, .nil, h⟩
      · exact h.other hopens hcloses
    · intro h
      rcases h.cases_cons with ⟨k, hk, rfl, hrest⟩ | ⟨stack', rfl, hrest⟩ | ⟨hopens, hcloses, hrest⟩
      · exact .inl (.inl ⟨k, hk, rfl, hrest⟩)
      · exact .inl (.inr ⟨rfl, hrest⟩)
      · exact .inr ⟨⟨hopens, hcloses⟩, hrest⟩

instance (kinds : List (Char × Char)) (t : Text) : Decidable (Nested kinds t) :=
  decidable_of_iff (settles kinds [] t = true) settles_iff

/-! ### Counting the depth -/

/-- How deep a counter is behind the text that goes up and down with the brackets, but not below zero. -/
def depthBehind (kinds : List (Char × Char)) (depth : Nat) (t : Text) : Nat :=
  t.foldl (fun d c => if opens kinds c then d + 1 else if closes kinds c then d - 1 else d) depth

theorem depthBehind_cons (depth : Nat) (c : Char) (t : Text) : depthBehind kinds depth (c :: t) =
    depthBehind kinds (if opens kinds c then depth + 1 else if closes kinds c then depth - 1 else depth) t :=
  rfl

theorem depthBehind_eq_zero_iff (ha : Apart kinds) {depth : Nat} : depthBehind kinds depth t = 0 ↔
    depth + t.countP (opens kinds) ≤ t.countP (closes kinds) ∧ Settled kinds t := by
  induction t generalizing depth with
  | nil =>
    show depth = 0 ↔ _
    simp [settled_nil]
  | cons c t ih =>
    rw [settled_cons_iff, depthBehind_cons, ih, List.countP_cons, List.countP_cons]
    by_cases hsettled : Settled kinds t
    · have hle := hsettled t (List.suffix_refl t)
      simp only [hsettled, and_true]
      cases ho : opens kinds c with
      | true =>
        rw [ha.closes_eq_false ho]
        simp only [if_true, Bool.false_eq_true, if_false]
        omega
      | false =>
        simp only [Bool.false_eq_true, if_false]
        split <;> omega
    · simp only [hsettled, and_false]

end

end DartTransfer.Text

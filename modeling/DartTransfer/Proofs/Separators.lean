import DartTransfer.Proofs.Brackets
import DartTransfer.Proofs.Directives

/-!
# Where two templates are separated

A scan of a payload keeps the open quote and the depth of the brackets outside quotes, as functions of
the text behind it (`Nesting.after_eq`). It is at the top where no quote is open and the text behind it is
settled (`AtTop`), and the payload is separated at its first comma ahead of which it is
(`splitAtComma?_eq_some_iff_separatedAt`). The blanks that are trimmed off a template do not change
whether its brackets are nested (`nested_trim_iff`).
-/

namespace DartTransfer

namespace Directive

/-- The kinds of brackets that are never operators. -/
def plainBrackets : List (Char × Char) := [('(', ')'), ('[', ']'), ('\x7b', '\x7d')]

/-- All kinds of brackets that a scan knows. -/
def brackets : List (Char × Char) := plainBrackets ++ [('<', '>')]

theorem opens_brackets (c : Char) :
    Text.opens brackets c = (c == '(' || c == '[' || c == '\x7b' || c == '<') := by
  simp [Text.opens, brackets, plainBrackets, Bool.beq_comm, Bool.or_assoc]

theorem closes_brackets (c : Char) :
    Text.closes brackets c = (c == ')' || c == ']' || c == '\x7d' || c == '>') := by
  simp [Text.closes, brackets, plainBrackets, Bool.beq_comm, Bool.or_assoc]

namespace Nesting

/-- Where a scan stands behind the text. -/
def after (n : Nesting) (t : Text) : Nesting := t.foldl step n

theorem step_of_some (depth : Nat) (q c : Char) :
    step ⟨depth, some q⟩ c = ⟨depth, Text.quoteBehind (some q) c⟩ := by
  simp only [step, Text.quoteBehind, beq_iff_eq]
  split <;> rfl

theorem step_of_quote (depth : Nat) {c : Char} (hc : Text.isQuote c = true) :
    step ⟨depth, none⟩ c = ⟨depth, some c⟩ := by
  rw [Text.isQuote] at hc
  simp only [step, hc, if_true]

theorem step_of_plain (depth : Nat) {c : Char} (hc : Text.isQuote c = false) : step ⟨depth, none⟩ c =
    ⟨if Text.opens brackets c then depth + 1 else if Text.closes brackets c then depth - 1 else depth,
      none⟩ := by
  rw [opens_brackets, closes_brackets]
  rw [Text.isQuote] at hc
  simp only [step, hc, Bool.false_eq_true, if_false]
  split
  · rfl
  · split <;> rfl

/-- A scan keeps the open quote, and counts the brackets outside quotes. -/
theorem after_eq (n : Nesting) (t : Text) : n.after t =
    ⟨Text.depthBehind brackets n.depth (Text.unquoted n.quote t), Text.openQuote n.quote t⟩ := by
  induction t generalizing n with
  | nil => rfl
  | cons c t ih =>
    obtain ⟨depth, quote⟩ := n
    rw [after, List.foldl_cons, ← after, ih, Text.openQuote_cons]
    cases quote with
    | some q => rw [step_of_some, Text.unquoted_cons_of_some]
    | none =>
      cases hc : Text.isQuote c with
      | true => rw [step_of_quote depth hc, Text.unquoted_cons_of_quote hc, Text.quoteBehind, hc]; rfl
      | false =>
        rw [step_of_plain depth hc, Text.unquoted_cons_of_plain hc, Text.depthBehind_cons, Text.quoteBehind, hc]
        rfl

theorem isTop_iff {n : Nesting} : n.isTop = true ↔ n.depth = 0 ∧ n.quote = none := by
  rw [isTop, Bool.and_eq_true, beq_iff_eq, Option.isNone_iff_eq_none]

end Nesting

/-- The separator is the first comma at which a scan is at the top. -/
theorem splitAtComma?_eq_some_iff {n : Nesting} {t s r : Text} : splitAtComma? n t = some (s, r) ↔
    t = s ++ ',' :: r ∧ (n.after s).isTop = true ∧
      ∀ u v, s = u ++ ',' :: v → ¬ (n.after u).isTop = true := by
  induction t generalizing n s with
  | nil => simp [splitAtComma?]
  | cons c t ih =>
    rw [splitAtComma?]
    constructor
    · intro h
      split at h
      · next hc =>
        rw [Bool.and_eq_true, beq_iff_eq] at hc
        obtain ⟨rfl, rfl⟩ := Prod.mk.inj (Option.some.inj h)
        exact ⟨by rw [hc.1]; rfl, hc.2, fun u v huv => absurd huv (by simp)⟩
      · next hc =>
        obtain ⟨⟨s', r'⟩, h', e⟩ := Option.map_eq_some_iff.mp h
        obtain ⟨rfl, rfl⟩ := Prod.mk.inj e
        obtain ⟨rfl, htop, hfirst⟩ := ih.mp h'
        refine ⟨rfl, htop, fun u v huv htop' => ?_⟩
        cases u with
        | nil =>
          obtain ⟨rfl, -⟩ := List.cons.inj huv
          exact hc ((Bool.and_eq_true _ _).mpr ⟨beq_self_eq_true _, htop'⟩)
        | cons d u =>
          obtain ⟨rfl, hs⟩ := List.cons.inj huv
          exact hfirst u v hs htop'
    · rintro ⟨e, htop, hfirst⟩
      cases s with
      | nil =>
        obtain ⟨rfl, rfl⟩ := List.cons.inj e
        exact if_pos ((Bool.and_eq_true _ _).mpr ⟨beq_self_eq_true _, htop⟩)
      | cons d s =>
        obtain ⟨rfl, rfl⟩ := List.cons.inj e
        rw [if_neg, ih.mpr ⟨rfl, htop, fun u v huv => hfirst (c :: u) v (congrArg (c :: ·) huv)⟩]
        · rfl
        · intro hc
          rw [Bool.and_eq_true, beq_iff_eq] at hc
          exact hfirst [] s (by rw [hc.1]; rfl) hc.2

/-- A scan of the text ends at the top: no quote is open behind it, and no stretch at its end opens more
brackets than it closes, whatever their kinds. -/
structure AtTop (t : Text) : Prop where
  quote : Text.openQuote none t = none
  settled : Text.Settled brackets (Text.unquoted none t)

theorem isTop_after_iff {t : Text} : (Nesting.after {} t).isTop = true ↔ AtTop t := by
  rw [Nesting.after_eq, Nesting.isTop_iff, Text.depthBehind_eq_zero_iff (by decide)]
  constructor
  · rintro ⟨⟨-, hsettled⟩, hquote⟩
    exact ⟨hquote, hsettled⟩
  · rintro ⟨hquote, hsettled⟩
    exact ⟨⟨by simpa using hsettled _ (List.suffix_refl _), hsettled⟩, hquote⟩

/-- The payload is separated at its first comma with a scan at the top. -/
structure SeparatedAt (payload s r : Text) : Prop where
  append : payload = s ++ ',' :: r
  atTop : AtTop s
  first : ∀ u v, s = u ++ ',' :: v → ¬ AtTop u

theorem splitAtComma?_eq_some_iff_separatedAt {payload s r : Text} :
    splitAtComma? {} payload = some (s, r) ↔ SeparatedAt payload s r := by
  simp only [splitAtComma?_eq_some_iff, isTop_after_iff]
  exact ⟨fun ⟨happ, htop, hfirst⟩ => ⟨happ, htop, hfirst⟩,
    fun ⟨happ, htop, hfirst⟩ => ⟨happ, htop, hfirst⟩⟩

/-! ### Blanks around templates -/

section
variable {c : Char} {t : Text}

theorem isQuote_of_isBlank (h : isBlank c = true) : Text.isQuote c = false := by
  simpa using of_isBlank (p := fun c => !Text.isQuote c) (by decide) h

theorem noBracket_of_isBlank (h : isBlank c = true) :
    Text.opens brackets c = false ∧ Text.closes brackets c = false := by
  simpa using of_isBlank (p := fun c => !Text.opens brackets c && !Text.closes brackets c) (by decide) h

theorem noPlainBracket_of_isBlank (h : isBlank c = true) :
    Text.opens plainBrackets c = false ∧ Text.closes plainBrackets c = false := by
  simpa using of_isBlank (p := fun c => !Text.opens plainBrackets c && !Text.closes plainBrackets c)
    (by decide) h

/-- Trimming takes nothing off but blanks outside quotes and blanks in a quote that stays open. -/
theorem exists_unquoted_trim (t : Text) : ∃ lead tail,
    Text.unquoted none t = lead ++ Text.unquoted none t.trim ++ tail ∧
      (∀ c ∈ lead, isBlank c = true) ∧ ∀ c ∈ tail, isBlank c = true := by
  obtain ⟨lead, tail, ht, hlead, htail⟩ := Text.exists_trim t
  have hquote : ∀ c ∈ lead, Text.isQuote c = false := fun c hc => isQuote_of_isBlank (hlead c hc)
  have hout := congrArg (Text.unquoted none) ht
  rw [Text.unquoted_append, Text.unquoted_append, Text.unquoted_of_plain hquote,
    Text.openQuote_of_plain hquote] at hout
  exact ⟨lead, _, hout, hlead, fun c hc => htail c (Text.mem_of_mem_unquoted hc)⟩

theorem nested_trim_iff (t : Text) : Text.Nested plainBrackets (Text.unquoted none t.trim) ↔
    Text.Nested plainBrackets (Text.unquoted none t) := by
  obtain ⟨lead, tail, ht, hlead, htail⟩ := exists_unquoted_trim t
  have hlead' := fun c hc => noPlainBracket_of_isBlank (hlead c hc)
  have htail' := fun c hc => noPlainBracket_of_isBlank (htail c hc)
  rw [ht]
  constructor
  · exact fun h => ((Text.Nested.of_plain hlead').append h).append (.of_plain htail')
  · intro h
    have hfront := h.of_append_plain (by decide) htail'
    exact hfront.of_plain_append fun c hc => (hlead' c hc).1

end

end Directive

end DartTransfer

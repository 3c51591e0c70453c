import DartTransfer.Proofs.Searches
import DartTransfer.Proofs.Separators

/-!
# The two templates of a comment

A template that nests its brackets, closes its quotes and has no comma outside both is read back from a
`Parsing` comment together with any template behind it (`Directive.parse?_parsing`).

Where the templates use `<` and `>` as operators, the payload may be cut inside a call, since all kinds
of brackets share one depth. For a payload that nests its parentheses, square brackets and braces, the
templates do so exactly when at the cut no `>` without its `<` makes up for one of these brackets
(`Directive.templates_nested_iff`).
-/

namespace DartTransfer

namespace Directive

/-! ### Reading a pair of templates back -/

/-- What a template in a comment can be. -/
structure IsTemplate (t : Text) : Prop where
  ne_nil : t ≠ []
  trimmed : t.IsTrimmed
  newline : '\n' ∉ t

/-- The brackets are properly nested, the quotes closed, and all commas inside the one or the other. -/
structure IsSeparable (t : Text) : Prop where
  nested : Text.Nested brackets (Text.unquoted none t)
  closed : Text.openQuote none t = none
  commas : ∀ u v, t = u ++ ',' :: v → Text.openQuote none u = none →
    ¬ Text.Nested brackets (Text.unquoted none u)

instance (t : Text) : Decidable (IsTemplate t) :=
  decidable_of_iff (t ≠ [] ∧ t.IsTrimmed ∧ '\n' ∉ t)
    ⟨fun ⟨hne, htrimmed, hn⟩ => ⟨hne, htrimmed, hn⟩, fun ⟨hne, htrimmed, hn⟩ => ⟨hne, htrimmed, hn⟩⟩

theorem isSeparable_iff {t : Text} : IsSeparable t ↔ Text.Nested brackets (Text.unquoted none t) ∧
    Text.openQuote none t = none ∧ ∀ u v, t = u ++ v → v.head? = some ',' →
      Text.openQuote none u = none → ¬ Text.Nested brackets (Text.unquoted none u) := by
  constructor
  · rintro ⟨hnested, hclosed, hcommas⟩
    refine ⟨hnested, hclosed, fun u v huv hv => ?_⟩
    obtain ⟨w, rfl⟩ := List.head?_eq_some_iff.mp hv
    exact hcommas u w huv
  · rintro ⟨hnested, hclosed, hcommas⟩
    exact ⟨hnested, hclosed, fun u v huv => hcommas u _ huv rfl⟩

instance (t : Text) : Decidable (IsSeparable t) :=
  decidable_of_iff _ (isSeparable_iff.trans
    (and_congr_right' (and_congr_right' Text.forall_split_iff))).symm

theorem isTrimmed_append {s t : Text} (hs : IsTemplate s) (ht : IsTemplate t) (between : Text) :
    Text.IsTrimmed (s ++ between ++ t) := by
  refine ⟨fun c hc => hs.trimmed.start c ?_, fun c hc => ht.trimmed.stop c ?_⟩
  · rwa [List.append_assoc, List.head?_append_of_ne_nil _ hs.ne_nil] at hc
  · rwa [List.getLast?_append_of_ne_nil _ ht.ne_nil] at hc

/-- A comma that does not stand in the second part stands in the first. -/
theorem exists_of_append_eq_comma {s t u v : Text} (h : s ++ t = u ++ ',' :: v) (ht : ',' ∉ t) :
    ∃ w, s = u ++ ',' :: w := by
  rcases List.append_eq_append_iff.mp h with ⟨w, -, rfl⟩ | ⟨w, rfl, hw⟩
  · exact absurd (List.mem_append_right w List.mem_cons_self) ht
  · cases w with
    | nil =>
      rw [← show ',' :: v = t from hw] at ht
      exact absurd List.mem_cons_self ht
    | cons c w =>
      obtain ⟨rfl, -⟩ := List.cons.inj hw
      exact ⟨w, rfl⟩

/-- A separable template is separated from whatever follows the comma behind it. -/
theorem separatedAt_of_isSeparable {decode before : Text} (h : IsSeparable decode)
    (hbefore : ∀ c ∈ before, isBlank c = true) (rest : Text) :
    SeparatedAt (decode ++ before ++ ',' :: rest) (decode ++ before) rest := by
  have hquote : ∀ c ∈ before, Text.isQuote c = false := fun c hc => isQuote_of_isBlank (hbefore c hc)
  have hcomma : ',' ∉ before := fun hc => absurd (hbefore ',' hc) (by decide)
  refine ⟨rfl, ⟨?_, ?_⟩, fun u v huv htop => ?_⟩
  · rw [Text.openQuote_append, h.closed, Text.openQuote_of_plain hquote]
  · rw [Text.unquoted_append, h.closed, Text.unquoted_of_plain hquote]
    have hplain := fun c hc => noBracket_of_isBlank (hbefore c hc)
    exact (h.nested.append (.of_plain hplain)).settled (by decide)
  · obtain ⟨w, rfl⟩ := exists_of_append_eq_comma huv hcomma
    have hnested := h.nested
    rw [Text.unquoted_append, htop.quote] at hnested
    exact h.commas u w rfl htop.quote (hnested.of_settled (by decide) htop.settled).1

/-- A `Parsing` comment, with its key in any case and blanks around all its parts, gives the templates
that are written in it. -/
theorem parse?_parsing (pad key gap lead decode before after encode tail : Text)
    (hkey : sameLetters key "parsing" = true) (hdecode : IsTemplate decode) (hencode : IsTemplate encode)
    (hseparable : IsSeparable decode)
    (hblank : ∀ c ∈ pad ++ gap ++ lead ++ before ++ after ++ tail, isBlank c = true)
    (hline : '\n' ∉ before ++ after) :
    parse? (pad ++ key ++ gap ++ ':' :: (lead ++ (decode ++ before ++ ',' :: (after ++ encode)) ++ tail)) =
      some (.parsing decode encode) := by
  simp only [List.mem_append, or_imp, forall_and] at hblank
  obtain ⟨⟨⟨⟨⟨hpad, hgap⟩, hlead⟩, hbefore⟩, hafter⟩, htail⟩ := hblank
  have hkeyed : Keyed
      (pad ++ key ++ gap ++ ':' :: (lead ++ (decode ++ before ++ ',' :: (after ++ encode)) ++ tail))
      key (decode ++ before ++ ',' :: (after ++ encode)) := by
    refine ⟨⟨pad, gap, lead, tail, rfl, ?_⟩, ?_, isAlpha_of_sameLetters hkey (by decide), ?_, ?_⟩
    · simp only [List.mem_append, or_imp, forall_and]
      exact ⟨⟨⟨hpad, hgap⟩, hlead⟩, htail⟩
    · rintro rfl
      exact absurd hkey (by decide)
    · have htrimmed := isTrimmed_append hdecode hencode (before ++ ',' :: after)
      simpa using htrimmed
    · simp only [List.mem_append, List.mem_cons, not_or] at hline ⊢
      exact ⟨⟨hdecode.newline, hline.1⟩, by decide, hline.2, hencode.newline⟩
  have hdecoded : Text.trim ([] ++ decode ++ before) = decode :=
    hdecode.trimmed.trim_run (by simp) hbefore
  have hencoded : Text.trim (after ++ encode ++ []) = encode :=
    hencode.trimmed.trim_run hafter (by simp)
  rw [List.append_nil] at hencoded
  refine parse?_eq_parsing_iff.mpr ⟨key, _, hkeyed, hkey, ⟨decode ++ before, after ++ encode, ?_,
    hdecoded.symm, hencoded.symm⟩, hdecode.ne_nil, hencode.ne_nil⟩
  exact splitAtComma?_eq_some_iff_separatedAt.mpr
    (separatedAt_of_isSeparable hseparable hbefore (after ++ encode))

/-- A template with commas inside all kinds of brackets, and a bracket and a quote inside quotes. -/
def nestedCommas : Text := "m<K, V>(value, ')\"', \x7b[1, 2]\x7d)"

theorem parse?_parsing_nestedCommas : IsTemplate nestedCommas ∧ IsSeparable nestedCommas ∧
    parse? ("\tpARSING\u00a0:\n " ++ nestedCommas ++ " ,\t\x7d, 'x, <\r\n") =
      some (.parsing nestedCommas "\x7d, 'x, <") := by
  have htemplate : IsTemplate nestedCommas := by decide +kernel
  have hseparable : IsSeparable nestedCommas := by decide +kernel
  have hread := parse?_parsing "\t" "pARSING" "\u00a0" "\n " nestedCommas " " "\t" "\x7d, 'x, <" "\r\n"
    (by decide) htemplate (by decide +kernel) hseparable (List.all_eq_true.mp (by decide)) (by decide)
  exact ⟨htemplate, hseparable, hread⟩

/-! ### Cuts inside a call -/

theorem countP_or_beq {p : Char → Bool} {m : Char} (hm : p m = false) (t : Text) :
    t.countP (fun c => p c || m == c) = t.countP p + t.count m := by
  induction t with
  | nil => rfl
  | cons c t ih =>
    rw [List.countP_cons, List.countP_cons, List.count_cons, ih]
    by_cases hc : m = c
    · subst hc
      simp only [hm, beq_self_eq_true, Bool.false_or, if_true, Bool.false_eq_true, if_false]
      omega
    · simp only [beq_eq_false_iff_ne.mpr hc, beq_eq_false_iff_ne.mpr (Ne.symm hc), Bool.or_false,
        Bool.false_eq_true, if_false]
      omega

theorem countP_opens_brackets (t : Text) :
    t.countP (Text.opens brackets) = t.countP (Text.opens plainBrackets) + t.count '<' := by
  rw [← countP_or_beq (by decide)]
  refine congrArg (List.countP · t) (funext fun c => ?_)
  simp [Text.opens, brackets]

theorem countP_closes_brackets (t : Text) :
    t.countP (Text.closes brackets) = t.countP (Text.closes plainBrackets) + t.count '>' := by
  rw [← countP_or_beq (by decide)]
  refine congrArg (List.countP · t) (funext fun c => ?_)
  simp [Text.closes, brackets]

/-- A bracket that is open at the separating comma is made up for by `>`s. -/
theorem AtTop.count_lt {s ahead inside : Text} {o : Char} (h : AtTop s)
    (e : Text.unquoted none s = ahead ++ o :: inside) (ho : Text.opens plainBrackets o = true)
    (hinside : Text.Nested plainBrackets inside) : inside.count '<' < inside.count '>' := by
  have hle := h.settled (o :: inside) (e ▸ List.suffix_append ahead _)
  have hcloses : Text.closes plainBrackets o = false :=
    Text.Apart.closes_eq_false (by decide) ho
  have hne : o ≠ '<' ∧ o ≠ '>' := by
    constructor
    · rintro rfl
      exact absurd ho (by decide)
    · rintro rfl
      exact absurd ho (by decide)
  rw [countP_opens_brackets, countP_closes_brackets, List.countP_cons, List.countP_cons, ho, hcloses,
    hinside.countP_eq (by decide), List.count_cons_of_ne hne.1, List.count_cons_of_ne hne.2] at hle
  simp only [if_true, Bool.false_eq_true, if_false] at hle
  omega

theorem SeparatedAt.unquoted_eq {payload s r : Text} (h : SeparatedAt payload s r) :
    Text.unquoted none payload = Text.unquoted none s ++ ',' :: Text.unquoted none r := by
  rw [h.append, Text.unquoted_append, h.atTop.quote, Text.unquoted_cons_of_plain (by decide)]

/-- Both sides of the comma are nested as soon as the first is. -/
theorem SeparatedAt.nested_right {payload s r : Text} (h : SeparatedAt payload s r)
    (hpayload : Text.Nested plainBrackets (Text.unquoted none payload))
    (hs : Text.Nested plainBrackets (Text.unquoted none s)) :
    Text.Nested plainBrackets (Text.unquoted none r) := by
  rw [h.unquoted_eq] at hpayload
  exact (hpayload.of_settled (by decide) (hs.settled (by decide))).2.of_cons (by decide)

/-- A payload is separated at the first comma outside quotes ahead of which no stretch opens more brackets
than it closes, whatever their kinds. If it nests its parentheses, square brackets and braces, then the
part ahead of that comma and both templates do so exactly when, for every bracket that would be open at the
comma, the `>` behind the bracket do not outnumber the `<`. -/
theorem templates_nested_iff {comment key payload decode encode : Text} (hkeyed : Keyed comment key payload)
    (h : parse? comment = some (.parsing decode encode))
    (hpayload : Text.Nested plainBrackets (Text.unquoted none payload)) :
    ∃ s r, SeparatedAt payload s r ∧ decode = s.trim ∧ encode = r.trim ∧
      ((Text.Nested plainBrackets (Text.unquoted none s) ∧
          Text.Nested plainBrackets (Text.unquoted none decode) ∧
          Text.Nested plainBrackets (Text.unquoted none encode)) ↔
        ∀ ahead o inside, Text.unquoted none s = ahead ++ o :: inside →
          Text.opens plainBrackets o = true → Text.Nested plainBrackets inside →
            inside.count '>' ≤ inside.count '<') := by
  obtain ⟨_, _, hkeyed', -, ⟨s, r, hsplit, rfl, rfl⟩, -, -⟩ := parse?_eq_parsing_iff.mp h
  obtain ⟨-, rfl⟩ := hkeyed.unique hkeyed'
  have hseparated := splitAtComma?_eq_some_iff_separatedAt.mp hsplit
  refine ⟨s, r, hseparated, rfl, rfl, ?_⟩
  rw [nested_trim_iff, nested_trim_iff]
  constructor
  · rintro ⟨hs, -, -⟩ ahead o inside e ho hinside
    have hsettled : Text.Settled plainBrackets (ahead ++ o :: inside) := e ▸ hs.settled (by decide)
    exact absurd hsettled (Text.Nested.not_settled (by decide) ho hinside)
  · intro hcount
    have hs : Text.Nested plainBrackets (Text.unquoted none s) := by
      rw [hseparated.unquoted_eq] at hpayload
      rcases hpayload.split with ⟨hs, -⟩ | ⟨ahead, o, inside, e, ho, hinside⟩
      · exact hs
      · have hle := hcount ahead o inside e ho hinside
        exact absurd (hseparated.atTop.count_lt e ho hinside) (Nat.not_lt.mpr hle)
    exact ⟨hs, hs, hseparated.nested_right hpayload hs⟩

/-- The arrow takes the depth of a scan to zero inside a call, but ahead of no comma. -/
theorem templates_nested_arrow : ∃ s r, SeparatedAt "x.cast<A, B>().map((k) => e(k, '(')), [g(value)]" s r ∧
    ∀ ahead o inside, Text.unquoted none s = ahead ++ o :: inside →
      Text.opens plainBrackets o = true → Text.Nested plainBrackets inside →
        inside.count '>' ≤ inside.count '<' := by
  have hkey : keyAndPayload? "Parsing: x.cast<A, B>().map((k) => e(k, '(')), [g(value)]" =
      some ("Parsing".toList, "x.cast<A, B>().map((k) => e(k, '(')), [g(value)]".toList) := by
    decide +kernel
  have hparse : parse? "Parsing: x.cast<A, B>().map((k) => e(k, '(')), [g(value)]" =
      some (.parsing "x.cast<A, B>().map((k) => e(k, '('))" "[g(value)]") := by
    decide +kernel
  have hpayload : Text.Nested plainBrackets
      (Text.unquoted none "x.cast<A, B>().map((k) => e(k, '(')), [g(value)]") := by
    decide +kernel
  obtain ⟨s, r, hseparated, hdecode, -, hiff⟩ :=
    templates_nested_iff (keyAndPayload?_eq_some_iff.mp hkey) hparse hpayload
  have hdecoded : Text.Nested plainBrackets
      (Text.unquoted none "x.cast<A, B>().map((k) => e(k, '('))") := by
    decide +kernel
  have hencoded : Text.Nested plainBrackets (Text.unquoted none "[g(value)]") := by decide +kernel
  have hs : Text.Nested plainBrackets (Text.unquoted none s) := (nested_trim_iff s).mp (hdecode ▸ hdecoded)
  exact ⟨s, r, hseparated, hiff.mp ⟨hs, hdecoded, hencoded⟩⟩

/-- A `>` inside a call lets the call be cut in two at its own comma. -/
theorem parse?_parsing_cut : Keyed "Parsing: f(value > 0, 1), g(value)" "Parsing" "f(value > 0, 1), g(value)" ∧
    Text.Nested plainBrackets (Text.unquoted none "f(value > 0, 1), g(value)") ∧
    parse? "Parsing: f(value > 0, 1), g(value)" = some (.parsing "f(value > 0" "1), g(value)") ∧
    ¬ Text.Nested plainBrackets (Text.unquoted none "f(value > 0") ∧
    ¬ Text.Nested plainBrackets (Text.unquoted none "1), g(value)") :=
  ⟨keyAndPayload?_eq_some_iff.mp (by decide +kernel), by decide +kernel, by decide +kernel,
    by decide +kernel, by decide +kernel⟩

end Directive

end DartTransfer

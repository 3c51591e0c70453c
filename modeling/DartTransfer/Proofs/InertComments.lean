import DartTransfer.Proofs.Nullability
import DartTransfer.Proofs.Ownership

/-!
# Comments in the way of a constructor

The constructor is looked for in the body as it stands, and a comment is read like everything else: it
can hold a call or a parenthesis, or end in the word `required` (`Constructor.comments_count`). It makes
no difference, that is, a blank line in its place gives the same constructor, when it stands behind the
parameters, or apart from what is looked for where it stands (`Constructor.Inert`,
`Constructor.find?_blankLine`).
-/

namespace DartTransfer

variable {l w above below s t p r v q name n after : Text} {before : Option Char}

/-! ### Ahead of a comment -/

instance (l : Text) : Decidable (IsCommentLine l) :=
  inferInstanceAs (Decidable ("//".toList <+: Text.trimStart l))

theorem IsCommentLine.exists_append (hl : IsCommentLine l) :
    ∃ indent r, l = indent ++ '/' :: r ∧ ∀ c ∈ indent, isBlank c = true := by
  obtain ⟨r, hr⟩ := hl
  refine ⟨l.takeWhile isBlank, '/' :: r, ?_, fun c hc => Text.takeWhile_all hc⟩
  have hsplit : l.takeWhile isBlank ++ Text.trimStart l = l := List.takeWhile_append_dropWhile
  rw [← hr] at hsplit
  exact hsplit.symm

/-- A text without a slash that ends in no blank does not reach into a comment line. -/
theorem IsCommentLine.exists_of_append_eq (hl : IsCommentLine l) (h : p ++ r = v ++ (l ++ q)) (hp : '/' ∉ p)
    (hlast : ∀ c ∈ p.getLast?, isBlank c = false) : ∃ r', v = p ++ r' ∧ r = r' ++ (l ++ q) := by
  rcases List.append_eq_append_iff.mp h with hsplit | ⟨e, rfl, he⟩
  · exact hsplit
  · obtain ⟨indent, x, rfl, hindent⟩ := hl.exists_append
    rw [List.append_assoc, List.cons_append] at he
    obtain ⟨u, rfl, rfl⟩ :=
      Text.exists_of_append_eq_cons he.symm fun hm => hp (List.mem_append_right v hm)
    have hnil : e = [] := by
      by_contra hne
      obtain ⟨c, hc⟩ := Option.isSome_iff_exists.mp (List.getLast?_isSome.mpr hne)
      have hblank := hindent c (List.mem_append_left u (List.mem_of_getLast? hc))
      rw [hlast c (by rw [List.getLast?_append_of_ne_nil v hne]; exact hc)] at hblank
      exact Bool.false_ne_true hblank
    subst hnil
    exact ⟨[], by simp, by simp⟩

namespace Constructor

theorem CallsAt.extend (h : CallsAt name before t r) (y : Text) : CallsAt name before (t ++ y) (r ++ y) := by
  obtain ⟨hfree, gap, rfl, hgap⟩ := h
  exact ⟨hfree, gap, by simp, hgap⟩

/-- A call above a comment line ends above it. -/
theorem IsCall.of_commentLine (hn : name.IsIdentifier) (hl : IsCommentLine l)
    (h : IsCall name before (v ++ (l ++ q))) : IsCall name before v := by
  obtain ⟨r, hfree, gap, happend, hgap⟩ := h
  have hslash : '/' ∉ name ++ gap ++ ['('] := by
    simp only [List.mem_append, not_or]
    exact ⟨⟨hn.notMem (isIdentifierPart_of_mem_marks (by decide)), fun hm => absurd (hgap _ hm) (by decide)⟩,
      by decide⟩
  have hlast : ∀ c ∈ (name ++ gap ++ ['(']).getLast?, isBlank c = false := by
    rw [List.getLast?_concat]
    rintro c hc
    obtain rfl : '(' = c := Option.some.inj hc
    decide
  have hsplit : name ++ gap ++ ['('] ++ r = v ++ (l ++ q) := by rw [happend]; simp
  obtain ⟨r', rfl, -⟩ := hl.exists_of_append_eq hsplit hslash hlast
  exact ⟨r', hfree, gap, by simp, hgap⟩

/-- A call that starts ahead of a parenthesis ends with it at the latest. -/
theorem IsCall.of_append (hn : name.IsIdentifier) (hs : '(' ∈ s) (h : IsCall name before (s ++ t)) :
    IsCall name before s := by
  obtain ⟨r, hfree, gap, happend, hgap⟩ := h
  obtain ⟨u, v, rfl, hu⟩ := List.eq_append_cons_of_mem hs
  have hgapped : '(' ∉ name ++ gap := List.not_mem_append
    (hn.notMem (isIdentifierPart_of_mem_marks (by decide))) fun hm => absurd (hgap _ hm) (by decide)
  have hleft : Text.splitAt? '(' (name ++ gap ++ '(' :: r) = some (u, v ++ t) :=
    Text.splitAt?_eq_some_iff.mpr ⟨by rw [← happend]; simp, hu⟩
  rw [Text.splitAt?_eq_some_iff.mpr ⟨rfl, hgapped⟩] at hleft
  obtain ⟨rfl, -⟩ := Prod.mk.inj (Option.some.inj hleft)
  exact ⟨v, hfree, gap, rfl, hgap⟩

theorem not_isCall_of_blank (hn : name.IsIdentifier) {c : Char} (hc : isBlank c = true) :
    ¬ IsCall name before (c :: t) := by
  rintro ⟨r, -, gap, happend, -⟩
  obtain ⟨d, name, rfl⟩ := List.exists_cons_of_ne_nil hn.ne_nil
  obtain ⟨rfl, -⟩ := List.cons.inj happend
  rw [isBlank_of_isIdentifierPart (hn.2 c List.mem_cons_self)] at hc
  exact Bool.false_ne_true hc

theorem mem_of_callsAt (h : CallsAt name before t r) : '(' ∈ t := by
  obtain ⟨-, gap, rfl, -⟩ := h
  simp

/-- The first call stays the first whatever follows. -/
theorem firstCall?_append_of_some (hn : name.IsIdentifier) (h : firstCall? name before s = some r)
    (t : Text) : firstCall? name before (s ++ t) = some (r ++ t) := by
  obtain ⟨ahead, v, ⟨rfl, -, hno⟩, call⟩ := firstCall?_eq_some h
  have hlater := call.extend t
  refine firstCall?_eq_some_iff.mpr ⟨ahead, v ++ t, ⟨List.append_assoc .., ⟨_, hlater⟩, ?_⟩, hlater⟩
  intro u u' hu hne hcall
  rw [← List.append_assoc] at hcall
  exact hno u u' hu hne (hcall.of_append hn (List.mem_append_right u' (mem_of_callsAt call)))

/-- A search goes on behind a text in which no call starts. -/
theorem firstCall?_append_of_none (h : Text.NoneIn (IsCall name) before s t) :
    firstCall? name before (s ++ t) = firstCall? name (Text.lastOr before s) t := by
  induction s generalizing before with
  | nil => rfl
  | cons c s ih =>
    have hc : callAt? name before (c :: (s ++ t)) = none :=
      callAt?_eq_none_iff.mpr (h [] (c :: s) rfl (List.cons_ne_nil c s))
    rw [List.cons_append, firstCall?, hc, Text.lastOr_cons]
    refine ih fun u v huv hv => ?_
    have hcall := h (c :: u) v (by rw [huv, List.cons_append]) hv
    rwa [Text.lastOr_cons] at hcall

/-- It does not matter what stands ahead of a line that starts behind a newline. -/
theorem firstCall?_below (hn : name.IsIdentifier) (hbelow : ∀ c ∈ below.head?, c = '\n')
    (before before' : Option Char) : firstCall? name before below = firstCall? name before' below := by
  cases below with
  | nil => rfl
  | cons c below =>
    obtain rfl := hbelow c rfl
    obtain ⟨d, name, rfl⟩ := List.exists_cons_of_ne_nil hn.ne_nil
    have hd : d ≠ '\n' := by
      rintro rfl
      exact hn.notMem (isIdentifierPart_of_isBlank (by decide)) List.mem_cons_self
    rw [firstCall?_cons_of_ne hd, firstCall?_cons_of_ne hd]

/-! ### Requirements and comments -/

theorem RequiresAt.extend (h : RequiresAt before t n r) (hy : ∀ c ∈ q.head?, isIdentifierPart c = false) :
    RequiresAt before (t ++ q) n (r ++ q) := by
  obtain ⟨hb, ⟨gap, rfl, hne, hgap⟩, hn, hr⟩ := h
  refine ⟨hb, ⟨gap, by simp, hne, hgap⟩, hn, ?_⟩
  cases r with
  | nil => exact hy
  | cons c r => exact hr

/-- What is required at a place is required there whatever follows, though the name may go on. -/
theorem IsRequirement.append (h : IsRequirement before t) (q : Text) : IsRequirement before (t ++ q) := by
  obtain ⟨n, r, hb, ⟨gap, rfl, hne, hgap⟩, hn, -⟩ := h
  obtain ⟨hstart, hpart⟩ := hn
  refine ⟨n ++ (r ++ q).takeWhile isIdentifierPart, (r ++ q).dropWhile isIdentifierPart, hb,
    ⟨gap, ?_, hne, hgap⟩, ⟨?_, ?_⟩, fun c hc => Text.head?_dropWhile hc⟩
  · simp only [List.append_assoc, List.takeWhile_append_dropWhile]
  · obtain ⟨c, hc, hs⟩ := hstart
    exact ⟨c, List.mem_head?_append_of_mem_head? hc, hs⟩
  · intro c hc
    rcases List.mem_append.mp hc with hc | hc
    · exact hpart c hc
    · exact Text.takeWhile_all hc

theorem noneIn_isRequirement_of_append (h : Text.NoneIn IsRequirement before s (t ++ q)) :
    Text.NoneIn IsRequirement before s t := by
  intro u v huv hv hreq
  have happend := hreq.append q
  rw [List.append_assoc] at happend
  exact h u v huv hv happend

theorem noneAcross_isRequirement_of_append (h : Text.NoneAcross IsRequirement before s (t ++ q)) :
    Text.NoneAcross IsRequirement before s t := by
  intro u v huv hv hreq
  have happend := hreq.append q
  rw [List.append_assoc] at happend
  exact h u v huv hv happend

/-- A requirement above a comment line ends above it. -/
theorem IsRequirement.of_commentLine (hl : IsCommentLine l) (h : IsRequirement before (v ++ (l ++ q))) :
    IsRequirement before v := by
  obtain ⟨n, r, hb, ⟨gap, happend, hne, hgap⟩, hn, hr⟩ := h
  have hslash : '/' ∉ "required".toList ++ gap ++ "this.".toList ++ n := by
    simp only [List.mem_append, not_or]
    exact ⟨⟨⟨by decide, fun hm => absurd (hgap _ hm) (by decide)⟩, by decide⟩,
      hn.notMem (isIdentifierPart_of_mem_marks (by decide))⟩
  have hlast : ∀ c ∈ ("required".toList ++ gap ++ "this.".toList ++ n).getLast?, isBlank c = false := by
    rw [List.getLast?_append_of_ne_nil _ hn.ne_nil]
    exact fun c hc => isBlank_of_isIdentifierPart (hn.2 c (List.mem_of_getLast? hc))
  obtain ⟨r', rfl, rfl⟩ := hl.exists_of_append_eq happend.symm hslash hlast
  refine ⟨n, r', hb, ⟨gap, rfl, hne, hgap⟩, hn, fun c hc => hr c ?_⟩
  exact List.mem_head?_append_of_mem_head? hc

theorem not_isRequirement_of_blank {c : Char} (hc : isBlank c = true) : ¬ IsRequirement before (c :: t) := by
  intro h
  rw [h.head_eq] at hc
  exact absurd hc (by decide)

theorem requiredNames_of_nowhere (h : Text.Nowhere IsRequirement before t) : requiredNames before t = [] :=
  (requiredIn_requiredNames before t).unique (.none h)

/-- The names that a text requires come one after the other when nothing required reaches over the cut. -/
theorem requiredNames_append (hq : ∀ c ∈ q.head?, isIdentifierPart c = false)
    (h : Text.NoneAcross IsRequirement before s q) :
    requiredNames before (s ++ q) = requiredNames before s ++ requiredNames (Text.lastOr before s) q := by
  fun_induction requiredNames before s with
  | case1 before s n r hs ih =>
    have hat := requiredAt?_eq_some_iff.mp hs
    rw [requiredNames_of_some (requiredAt?_eq_some_iff.mpr (hat.extend hq)), List.cons_append]
    obtain ⟨-, ⟨gap, rfl, -⟩, hn, -⟩ := hat
    have hlast : Text.lastOr before ("required".toList ++ gap ++ "this.".toList ++ n) = n.getLast? := by
      obtain ⟨d, hd⟩ := Option.isSome_iff_exists.mp (List.getLast?_isSome.mpr hn.ne_nil)
      rw [Text.lastOr_append, Text.lastOr, hd, Option.some_or]
    rw [Text.lastOr_append, hlast]
    refine congrArg (n :: ·) (ih fun u v huv hv hreq => ?_)
    have hspan := h ("required".toList ++ gap ++ "this.".toList ++ n ++ u) v
      (by simp only [huv, List.append_assoc]) hv
    rw [Text.lastOr_append, hlast] at hspan
    exact hspan hreq
  | case2 before => rfl
  | case3 before c s hs ih =>
    have hnone : requiredAt? before (c :: (s ++ q)) = none :=
      requiredAt?_eq_none_iff.mpr fun hreq =>
        requiredAt?_eq_none_iff.mp hs (h [] (c :: s) rfl (List.cons_ne_nil c s) hreq)
    rw [List.cons_append, requiredNames_of_none hnone, Text.lastOr_cons]
    refine ih fun u v huv hv hreq => ?_
    have hspan := h (c :: u) v (by rw [huv, List.cons_append]) hv
    rw [Text.lastOr_cons] at hspan
    exact hspan hreq

theorem requiredNames_below (hbelow : ∀ c ∈ below.head?, c = '\n') (before before' : Option Char) :
    requiredNames before below = requiredNames before' below := by
  cases below with
  | nil => rw [requiredNames_nil, requiredNames_nil]
  | cons c below =>
    obtain rfl := hbelow c rfl
    rw [requiredNames_skip_char (by decide), requiredNames_skip_char (by decide)]

theorem upToClose_isPrefix (depth : Nat) (t : Text) : upToClose depth t <+: t := by
  fun_induction upToClose depth t with
  | case1 => exact List.prefix_refl []
  | case2 depth c t h ih => exact List.prefix_cons_inj c |>.mpr ih
  | case3 => exact List.nil_prefix
  | case4 c t h h' d ih => exact List.prefix_cons_inj c |>.mpr ih
  | case5 depth c t h h' ih => exact List.prefix_cons_inj c |>.mpr ih

/-! ### Lines that are passed over -/

section
variable {x : Text}

theorem firstCall?_line (hno : Text.Nowhere (IsCall name) none above)
    (hacross : Text.NoneAcross (IsCall name) none above (x ++ below))
    (hwithin : Text.NoneIn (IsCall name) (Text.lastOr none above) x below) :
    firstCall? name none (above ++ (x ++ below)) = firstCall? name (Text.lastOr none (above ++ x)) below := by
  rw [firstCall?_append_of_none fun u v huv hv hcall => hno u v huv (hacross u v huv hv hcall),
    firstCall?_append_of_none hwithin, Text.lastOr_append]

theorem requiredNames_line (hhead : ∀ c ∈ (x ++ q).head?, isIdentifierPart c = false)
    (hq : ∀ c ∈ q.head?, isIdentifierPart c = false)
    (hacross : Text.NoneAcross IsRequirement none after (x ++ q))
    (hwithin : Text.NoneIn IsRequirement (Text.lastOr none after) x q) :
    requiredNames none (after ++ (x ++ q)) =
      requiredNames none after ++ requiredNames (Text.lastOr none (after ++ x)) q := by
  have hnone : requiredNames (Text.lastOr none after) x = [] := by
    refine requiredNames_of_nowhere fun u v huv hreq => ?_
    by_cases hv : v = []
    · subst hv
      exact not_isRequirement_nil hreq
    · exact hwithin u v huv hv (hreq.append q)
  have hpast : Text.NoneAcross IsRequirement (Text.lastOr none after) x q :=
    fun u v huv hv hreq => absurd hreq (hwithin u v huv hv)
  rw [requiredNames_append hhead hacross, requiredNames_append hq hpast, hnone, List.nil_append,
    Text.lastOr_append]

/-- The parameters go on behind a line that closes as many parentheses as it opens. -/
theorem upToClose_line (hopen : Text.StaysOpen '(' ')' 0 (after ++ x)) (hlevel : x.count '(' = x.count ')')
    (below : Text) : upToClose 0 (after ++ (x ++ below)) =
      after ++ (x ++ upToClose (after.count '(' - after.count ')') below) := by
  have hcount : 0 + (after ++ x).count '(' - (after ++ x).count ')' = after.count '(' - after.count ')' := by
    rw [List.count_append, List.count_append]
    omega
  rw [← List.append_assoc, upToClose_append_of_staysOpen hopen, hcount, List.append_assoc]

end

/-! ### Comment lines that make no difference -/

/-- Where the comment line `l` stands makes it the same as the blank line `w` for the constructor of the
class `name`: ahead of the call, which neither starts in the comment nor is broken by it; inside the
parameters, where the comment closes as many parentheses as it opens and nothing required starts in it or
is broken by it; or behind the parameters. -/
inductive Inert (name above l w below : Text) : Prop
  | ahead (first : Text.Nowhere (IsCall name) none above)
      (within : Text.NoneIn (IsCall name) (Text.lastOr none above) l below)
      (across : Text.NoneAcross (IsCall name) none above (w ++ below))
  | inside {ahead v after : Text} (first : Text.First (IsCall name) none above ahead v)
      (call : CallsAt name (Text.lastOr none ahead) v after)
      (opened : Text.StaysOpen '(' ')' 0 (after ++ l)) (level : l.count '(' = l.count ')')
      (within : Text.NoneIn IsRequirement (Text.lastOr none after) l below)
      (across : Text.NoneAcross IsRequirement none after (w ++ below))
  | behind {ahead v after params rest : Text} (first : Text.First (IsCall name) none above ahead v)
      (call : CallsAt name (Text.lastOr none ahead) v after)
      (closed : Text.Closes '(' ')' after params rest)

section
variable (hw : ∀ c ∈ w, isBlank c = true)
include hw

theorem exists_cons_of_blank (huv : w = p ++ v) (hv : v ≠ []) :
    ∃ c v', v = c :: v' ∧ isBlank c = true := by
  obtain ⟨c, v, rfl⟩ := List.exists_cons_of_ne_nil hv
  exact ⟨c, v, rfl, hw c (huv ▸ List.mem_append_right p List.mem_cons_self)⟩

theorem noneIn_isCall_of_blank (hn : name.IsIdentifier) : Text.NoneIn (IsCall name) before w t := by
  intro u v huv hv
  obtain ⟨c, v, rfl, hc⟩ := exists_cons_of_blank hw huv hv
  exact not_isCall_of_blank hn hc

theorem noneIn_isRequirement_of_blank : Text.NoneIn IsRequirement before w t := by
  intro u v huv hv
  obtain ⟨c, v, rfl, hc⟩ := exists_cons_of_blank hw huv hv
  exact not_isRequirement_of_blank hc

theorem isIdentifierPart_head_of_blank (hq : ∀ c ∈ q.head?, isIdentifierPart c = false) :
    ∀ c ∈ (w ++ q).head?, isIdentifierPart c = false := by
  cases w with
  | nil => exact hq
  | cons d w =>
    intro c hc
    obtain rfl : d = c := Option.some.inj hc
    exact isIdentifierPart_of_isBlank (hw d List.mem_cons_self)

end

theorem isIdentifierPart_head_of_commentLine (hl : IsCommentLine l) (q : Text) :
    ∀ c ∈ (l ++ q).head?, isIdentifierPart c = false := by
  obtain ⟨indent, r, rfl, hindent⟩ := hl.exists_append
  rw [List.append_assoc]
  exact isIdentifierPart_head_of_blank hindent fun c hc =>
    isIdentifierPart_of_mem_marks (Option.some.inj hc ▸ by decide)

/-- The parameters require the same names with the blank line. -/
theorem requiredNames_blankLine (hl : IsCommentLine l) (hw : ∀ c ∈ w, isBlank c = true)
    (hbelow : ∀ c ∈ below.head?, c = '\n') (hopen : Text.StaysOpen '(' ')' 0 (after ++ l))
    (hlevel : l.count '(' = l.count ')')
    (hwithin : Text.NoneIn IsRequirement (Text.lastOr none after) l below)
    (hacross : Text.NoneAcross IsRequirement none after (w ++ below)) :
    requiredNames none (upToClose 0 (after ++ (w ++ below))) =
      requiredNames none (upToClose 0 (after ++ (l ++ below))) := by
  have hfree : '(' ∉ w ∧ ')' ∉ w :=
    ⟨fun hm => absurd (hw _ hm) (by decide), fun hm => absurd (hw _ hm) (by decide)⟩
  have hwlevel : w.count '(' = w.count ')' := by
    rw [List.count_eq_zero.mpr hfree.1, List.count_eq_zero.mpr hfree.2]
  rw [upToClose_line hopen hlevel, upToClose_line (hopen.of_append.append_of_notMem hfree.2) hwlevel]
  -- below the line the parameters may end early, which brings nothing required in
  obtain ⟨r, hr⟩ := upToClose_isPrefix (after.count '(' - after.count ')') below
  generalize upToClose (after.count '(' - after.count ')') below = q at hr
  subst hr
  have hq : ∀ c ∈ q.head?, c = '\n' := fun c hc => hbelow c (List.mem_head?_append_of_mem_head? hc)
  have hend : ∀ c ∈ q.head?, isIdentifierPart c = false := fun c hc =>
    hq c hc ▸ isIdentifierPart_of_isBlank (by decide)
  rw [← List.append_assoc] at hacross
  rw [requiredNames_line (isIdentifierPart_head_of_blank hw hend) hend
      (noneAcross_isRequirement_of_append hacross) (noneIn_isRequirement_of_blank hw),
    requiredNames_line (isIdentifierPart_head_of_commentLine hl q) hend
      (fun _ _ _ _ hreq => hreq.of_commentLine hl) (noneIn_isRequirement_of_append hwithin),
    requiredNames_below hq]

/-- A comment line makes no difference for the constructor that is found, and for what it requires, if
it stands apart from the call and the required names. -/
theorem find?_blankLine (hn : name.IsIdentifier) (hl : IsCommentLine l) (hw : ∀ c ∈ w, isBlank c = true)
    (hbelow : ∀ c ∈ below.head?, c = '\n') (h : Inert name above l w below) :
    find? (above ++ w ++ below) name = find? (above ++ l ++ below) name := by
  rw [List.append_assoc, List.append_assoc, find?, find?]
  cases h with
  | ahead first within across =>
    rw [firstCall?_line first across (noneIn_isCall_of_blank hw hn),
      firstCall?_line first (fun _ _ _ _ hcall => hcall.of_commentLine hn hl) within,
      firstCall?_below hn hbelow]
  | inside first call opened level within across =>
    have hfirst := firstCall?_eq_some_iff.mpr ⟨_, _, first, call⟩
    rw [firstCall?_append_of_some hn hfirst, firstCall?_append_of_some hn hfirst, Option.map_some,
      Option.map_some, requiredNames_blankLine hl hw hbelow opened level within across]
  | behind first call closed =>
    have hfirst := firstCall?_eq_some_iff.mpr ⟨_, _, first, call⟩
    rw [firstCall?_append_of_some hn hfirst, firstCall?_append_of_some hn hfirst, Option.map_some,
      Option.map_some, upToClose_of_closes (closed.extend _), upToClose_of_closes (closed.extend _)]

/-- The head of a constructor up to its first parameter, and the rest of it. -/
def firstParameter : Text := "\n  A(\x7brequired this.x,\n"
@[inherit_doc firstParameter] def lastParameter : Text := "\n    required this.y\x7d);\n"

theorem find?_blankLine_inside :
    Inert "A" firstParameter "    // (once, required)" [] lastParameter ∧
      find? (firstParameter ++ [] ++ lastParameter) "A" =
        find? (firstParameter ++ "    // (once, required)".toList ++ lastParameter) "A" := by
  have hfirst : firstCall? "A" none firstParameter = some "\x7brequired this.x,\n".toList := by decide +kernel
  obtain ⟨ahead, v, first, call⟩ := firstCall?_eq_some hfirst
  have inert : Inert "A" firstParameter "    // (once, required)" [] lastParameter :=
    .inside first call (by decide +kernel) (by decide) (by decide +kernel) (by decide +kernel)
  have hname : Text.IsIdentifier "A" := ⟨⟨'A', rfl, rfl⟩, List.all_eq_true.mp (by decide)⟩
  have hbelow : ∀ c ∈ lastParameter.head?, c = '\n' := fun c hc => (Option.some.inj hc).symm
  exact ⟨inert, find?_blankLine hname ⟨_, rfl⟩ nofun hbelow inert⟩

/-- The comment line `l` makes a difference for the constructor of the class `name`. -/
def Counts (name above l below : Text) : Prop :=
  IsCommentLine l ∧ find? (above ++ below) name ≠ find? (above ++ l ++ below) name

instance (name above l below : Text) : Decidable (Counts name above l below) :=
  inferInstanceAs (Decidable (_ ∧ _))

/-- A comment line counts that is a call or keeps the name from its parenthesis; and inside the parameters
one that opens or closes a parenthesis, that ends in `required`, or that stands behind it. -/
theorem comments_count :
    Counts "A" [] "// see A()" "\n" ∧ Counts "A" "A\n" "// call" "\n();\n" ∧
      Counts "A" "A(\x7b\n" "// (once" "\nthis.x\x7d);\n// required this.x\n" ∧
      Counts "A" "A(\x7b\n" "// 1) once" "\nrequired this.x\x7d);\n" ∧
      Counts "A" "A(\x7b\n" "// not required" "\nthis.x\x7d);\n" ∧
      Counts "A" "A(\x7brequired\n" "// once" "\nthis.x\x7d);\n" := by
  decide +kernel

end Constructor

end DartTransfer

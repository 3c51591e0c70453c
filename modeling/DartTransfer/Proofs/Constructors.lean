import DartTransfer.Constructor
import DartTransfer.Proofs.CharacterClasses
import DartTransfer.Proofs.Searches

/-!
# How a constructor is read

A call of the class name, the parameters that it encloses and the names that they require are stated
as splits of the text (`CallsAt`, `Parameters`, `RequiredIn`), and what the scanners give is characterized
by them. So the first call of a name is found at the first opening parenthesis if the name stands right
ahead of it (`Constructor.firstCall?_append`), parameters without parentheses end at the first closing
one, and the search for required names takes one name per `required this.name` and passes over everything
that has no blank in it.
-/

namespace DartTransfer

theorem Text.afterBlanks?_eq_some_iff {t r : Text} : afterBlanks? t = some r ↔
    ∃ gap, t = gap ++ r ∧ gap ≠ [] ∧ (∀ c ∈ gap, isBlank c = true) ∧ ∀ c ∈ r.head?, isBlank c = false := by
  constructor
  · intro h
    cases t with
    | nil => simp [afterBlanks?] at h
    | cons c t =>
      rw [afterBlanks?] at h
      split at h
      · next hc =>
        cases h
        refine ⟨c :: t.takeWhile isBlank, ?_, List.cons_ne_nil _ _, ?_, fun d hd => head?_dropWhile hd⟩
        · rw [List.cons_append, trimStart, List.takeWhile_append_dropWhile]
        · exact List.forall_mem_cons.mpr ⟨hc, fun d hd => takeWhile_all hd⟩
      · cases h
  · rintro ⟨gap, rfl, hne, hgap, hr⟩
    obtain ⟨c, gap, rfl⟩ := List.exists_cons_of_ne_nil hne
    obtain ⟨hc, hgap⟩ := List.forall_mem_cons.mp hgap
    rw [List.cons_append, afterBlanks?, if_pos hc, trimStart, dropWhile_run hgap hr]

namespace Constructor
variable {name pre t r u params after n ahead : Text} {before : Option Char} {ns ns' : List Text}

/-! ### Calls -/

/-- A call of `name` at the head of the text, which stands behind the character `before`: nothing
ahead of the name continues it, and only blanks are between it and the parenthesis. -/
structure CallsAt (name : Text) (before : Option Char) (t params : Text) : Prop where
  free : ∀ c ∈ before, isWord c = false ∧ c ≠ '$' ∧ c ≠ '.'
  append : ∃ gap, t = name ++ gap ++ '(' :: params ∧ ∀ c ∈ gap, isBlank c = true

def IsCall (name : Text) (before : Option Char) (t : Text) : Prop := ∃ r, CallsAt name before t r

theorem any_joinsName_eq_false_iff :
    before.any joinsName = false ↔ ∀ c ∈ before, isWord c = false ∧ c ≠ '$' ∧ c ≠ '.' := by
  cases before with
  | none => simp
  | some c => simp [joinsName, isIdentifierPart, and_assoc]

theorem callAt?_eq_some_iff : callAt? name before t = some r ↔ CallsAt name before t r := by
  constructor
  · intro h
    rw [callAt?] at h
    split at h
    · exact absurd h nofun
    · next hb =>
      split at h
      · next r' hr' =>
        cases h
        obtain ⟨s, hs, htrim⟩ := Option.map_eq_some_iff.mp hr'
        refine ⟨any_joinsName_eq_false_iff.mp (Bool.eq_false_iff.mpr hb), s.takeWhile isBlank, ?_,
          fun c hc => Text.takeWhile_all hc⟩
        rw [List.append_assoc, ← htrim, Text.trimStart, List.takeWhile_append_dropWhile]
        exact Text.stripPrefix?_eq_some_iff.mp hs
      · exact absurd h nofun
  · rintro ⟨hfree, gap, rfl, hgap⟩
    have hopen : ∀ c ∈ ('(' :: r).head?, isBlank c = false := by simp; decide
    have htrim : Text.trimStart (gap ++ '(' :: r) = '(' :: r := Text.dropWhile_run hgap hopen
    have hstrip : Text.stripPrefix? name (name ++ gap ++ '(' :: r) = some (gap ++ '(' :: r) :=
      Text.stripPrefix?_eq_some_iff.mpr (List.append_assoc ..)
    rw [callAt?, any_joinsName_eq_false_iff.mpr hfree, hstrip, Option.map_some, htrim]
    rfl

theorem callAt?_eq_none_iff : callAt? name before t = none ↔ ¬ IsCall name before t := by
  rw [Option.eq_none_iff_forall_ne_some, IsCall, not_exists]
  exact forall_congr' fun r => not_congr callAt?_eq_some_iff

theorem not_isCall_nil : ¬ IsCall name before [] := by
  rintro ⟨r, -, gap, h, -⟩
  simp at h

theorem firstCall?_eq_some (h : firstCall? name before t = some r) :
    ∃ ahead v, Text.First (IsCall name) before t ahead v ∧ CallsAt name (Text.lastOr before ahead) v r := by
  induction t generalizing before with
  | nil => exact absurd h nofun
  | cons c t ih =>
    rw [firstCall?] at h
    split at h
    · next r' hr =>
      cases h
      have hcall := callAt?_eq_some_iff.mp hr
      exact ⟨[], c :: t, .of_holds ⟨r, hcall⟩, hcall⟩
    · next hnone =>
      obtain ⟨ahead, v, hfirst, hcall⟩ := ih h
      exact ⟨c :: ahead, v, hfirst.cons (callAt?_eq_none_iff.mp hnone), by rwa [Text.lastOr_cons]⟩

theorem nowhere_of_firstCall?_eq_none (h : firstCall? name before t = none) :
    Text.Nowhere (IsCall name) before t := by
  induction t generalizing before with
  | nil => exact Text.nowhere_nil not_isCall_nil
  | cons c t ih =>
    rw [firstCall?] at h
    split at h
    · exact absurd h nofun
    · next hnone => exact Text.nowhere_cons (callAt?_eq_none_iff.mp hnone) (ih h)

theorem firstCall?_eq_some_iff : firstCall? name before t = some r ↔ ∃ ahead v,
    Text.First (IsCall name) before t ahead v ∧ CallsAt name (Text.lastOr before ahead) v r := by
  refine ⟨firstCall?_eq_some, ?_⟩
  rintro ⟨ahead, v, first, call⟩
  cases h : firstCall? name before t with
  | none => exact absurd (nowhere_of_firstCall?_eq_none h) first.not_nowhere
  | some r' =>
    obtain ⟨ahead', v', first', call'⟩ := firstCall?_eq_some h
    obtain ⟨rfl, rfl⟩ := first.unique first'
    rw [← callAt?_eq_some_iff.mpr call', callAt?_eq_some_iff.mpr call]

theorem firstCall?_eq_none_iff : firstCall? name before t = none ↔ Text.Nowhere (IsCall name) before t := by
  refine ⟨nowhere_of_firstCall?_eq_none, fun hno => ?_⟩
  rw [Option.eq_none_iff_forall_ne_some]
  intro r h
  obtain ⟨_, _, first, -⟩ := firstCall?_eq_some h
  exact first.not_nowhere hno

theorem append_name_ne {gap : Text} (hn : name.IsIdentifier) (hne : pre ≠ [])
    (hgap : ∀ c ∈ gap, isBlank c = true) : pre ++ name ≠ name ++ gap := by
  intro e
  obtain ⟨d, hd⟩ := Option.isSome_iff_exists.mp (List.getLast?_isSome.mpr hn.ne_nil)
  have hlast := congrArg List.getLast? e
  rw [List.getLast?_append_of_ne_nil pre hn.ne_nil, hd] at hlast
  by_cases hg : gap = []
  · have hlength := congrArg List.length e
    rw [hg, List.append_nil, List.length_append] at hlength
    exact hne (List.length_eq_zero_iff.mp (by omega))
  · rw [List.getLast?_append_of_ne_nil name hg] at hlast
    have hblank := hgap d (List.mem_of_getLast? hlast.symm)
    rw [isBlank_of_isIdentifierPart (hn.2 d (List.mem_of_getLast? hd))] at hblank
    exact Bool.false_ne_true hblank

/-- Only the name at the first opening parenthesis is a call. -/
theorem not_isCall_append (hn : name.IsIdentifier) (hpre : '(' ∉ pre) (hne : pre ≠ []) :
    ¬ IsCall name before (pre ++ (name ++ '(' :: r)) := by
  rintro ⟨r', -, gap, happend, hgap⟩
  -- only blanks stand between the name here and the parenthesis, where the name has to end already
  have hname : '(' ∉ name := hn.notMem (isIdentifierPart_of_mem_marks (by decide))
  have hblanks : '(' ∉ gap := fun hm => absurd (hgap _ hm) (by decide)
  have hleft : Text.splitAt? '(' (pre ++ (name ++ '(' :: r)) = some (pre ++ name, r) :=
    Text.splitAt?_eq_some_iff.mpr ⟨(List.append_assoc ..).symm, List.not_mem_append hpre hname⟩
  rw [happend, Text.splitAt?_eq_some_iff.mpr ⟨rfl, List.not_mem_append hname hblanks⟩] at hleft
  obtain ⟨hends, -⟩ := Prod.mk.inj (Option.some.inj hleft)
  exact append_name_ne hn hne hgap hends.symm

/-- The first call is the name at the first opening parenthesis. -/
theorem firstCall?_append (hn : name.IsIdentifier) (hpre : '(' ∉ pre)
    (hb : (Text.lastOr before pre).any joinsName = false) :
    firstCall? name before (pre ++ name ++ '(' :: r) = some r := by
  have hcall : CallsAt name (Text.lastOr before pre) (name ++ '(' :: r) r :=
    ⟨any_joinsName_eq_false_iff.mp hb, [], by rw [List.append_nil], nofun⟩
  refine firstCall?_eq_some_iff.mpr ⟨pre, _, ⟨List.append_assoc .., ⟨r, hcall⟩, ?_⟩, hcall⟩
  rintro u v rfl hv
  exact not_isCall_append hn (fun hm => hpre (List.mem_append_right u hm)) hv

theorem firstCall?_cons_of_ne {c d : Char} (h : d ≠ c) (name : Text) (before : Option Char) (t : Text) :
    firstCall? (d :: name) before (c :: t) = firstCall? (d :: name) (some c) t := by
  have hcall : callAt? (d :: name) before (c :: t) = none := by
    rw [callAt?, Text.stripPrefix?, if_neg h]
    split <;> rfl
  rw [firstCall?, hcall]

/-! ### Parameters -/

/-- The parameters of a call reach from its parenthesis, which `after` follows, to the one that closes
it, or to the end if none does. -/
def Parameters (after params : Text) : Prop :=
  (∃ rest, Text.Closes '(' ')' after params rest) ∨ Text.StaysOpen '(' ')' 0 after ∧ params = after

theorem upToClose_opening {depth : Nat} : upToClose depth ('(' :: t) = '(' :: upToClose (depth + 1) t := by
  cases depth <;> rfl

theorem upToClose_closing {depth : Nat} : upToClose (depth + 1) (')' :: t) = ')' :: upToClose depth t := rfl

theorem upToClose_other {depth : Nat} {c : Char} (ho : c ≠ '(') (hc : c ≠ ')') :
    upToClose depth (c :: t) = c :: upToClose depth t := by
  cases depth <;> simp [upToClose, ho, hc]

/-- Behind a text that stays open as many parentheses are open as its counts say. -/
theorem upToClose_append_of_staysOpen {depth : Nat} {s : Text} (h : Text.StaysOpen '(' ')' depth s)
    (t : Text) : upToClose depth (s ++ t) = s ++ upToClose (depth + s.count '(' - s.count ')') t := by
  induction s generalizing depth with
  | nil => simp
  | cons c s ih =>
    have hs := ih h.of_cons
    by_cases ho : c = '('
    · subst ho
      rw [List.count_singleton_self, List.count_eq_zero.mpr (by decide : ')' ∉ ['('])] at hs
      have hswap : depth + (s.count '(' + 1) = depth + 1 + s.count '(' := by omega
      rw [List.cons_append, upToClose_opening, List.cons_append, List.count_cons_self,
        List.count_cons_of_ne (by decide), hswap]
      exact congrArg ('(' :: ·) hs
    · by_cases hc : c = ')'
      · subst hc
        have hone : 1 ≤ depth := by simpa using h [')'] (List.prefix_append [')'] s)
        obtain ⟨d, rfl⟩ := Nat.exists_eq_add_of_le' hone
        rw [List.count_singleton_self, List.count_eq_zero.mpr (by decide : '(' ∉ [')'])] at hs
        rw [List.cons_append, upToClose_closing, List.cons_append, List.count_cons_self,
          List.count_cons_of_ne (by decide), Nat.add_right_comm, Nat.add_sub_add_right]
        exact congrArg (')' :: ·) hs
      · rw [List.count_eq_zero.mpr (mt List.mem_singleton.mp (Ne.symm ho)),
          List.count_eq_zero.mpr (mt List.mem_singleton.mp (Ne.symm hc))] at hs
        rw [List.cons_append, upToClose_other ho hc, List.cons_append, List.count_cons_of_ne ho,
          List.count_cons_of_ne hc]
        exact congrArg (c :: ·) hs

theorem upToClose_of_closes {rest : Text} (h : Text.Closes '(' ')' t params rest) :
    upToClose 0 t = params := by
  rw [h.append, upToClose_append_of_staysOpen h.staysOpen, h.level, Nat.zero_add, Nat.sub_self]
  exact List.append_nil params

theorem upToClose_of_staysOpen (h : Text.StaysOpen '(' ')' 0 t) : upToClose 0 t = t := by
  have happend := upToClose_append_of_staysOpen h []
  rwa [List.append_nil, upToClose, List.append_nil] at happend

theorem upToClose_eq_iff : upToClose 0 after = params ↔ Parameters after params := by
  constructor
  · rintro rfl
    have hends : Text.StaysOpen '(' ')' 0 after ∨ ∃ inner rest, Text.Closes '(' ')' after inner rest :=
      Text.staysOpen_or_closes (by decide) after
    rcases hends with h | ⟨inner, rest, h⟩
    · exact .inr ⟨h, upToClose_of_staysOpen h⟩
    · exact .inl ⟨rest, upToClose_of_closes h ▸ h⟩
  · rintro (⟨rest, h⟩ | ⟨h, rfl⟩)
    · exact upToClose_of_closes h
    · exact upToClose_of_staysOpen h

theorem upToClose_append (ho : '(' ∉ t) (hc : ')' ∉ t) : upToClose 0 (t ++ ')' :: r) = t := by
  refine upToClose_of_closes ⟨rfl, Text.staysOpen_nil.append_of_notMem hc, ?_⟩
  rw [List.count_eq_zero.mpr ho, List.count_eq_zero.mpr hc]

/-! ### Required names -/

/-- The word `required`, blanks and `this.` at the head of the text, with the longest name behind them. -/
structure RequiresAt (before : Option Char) (t n rest : Text) : Prop where
  boundary : ∀ c ∈ before, isWord c = false
  append : ∃ gap, t = "required".toList ++ gap ++ "this.".toList ++ n ++ rest ∧ gap ≠ [] ∧
    ∀ c ∈ gap, isBlank c = true
  name : n.IsIdentifier
  longest : ∀ c ∈ rest.head?, isIdentifierPart c = false

def IsRequirement (before : Option Char) (t : Text) : Prop := ∃ n rest, RequiresAt before t n rest

theorem requiredAt?_eq_some_iff : requiredAt? before t = some (n, r) ↔ RequiresAt before t n r := by
  constructor
  · intro h
    obtain ⟨r₁, hword, h⟩ := Option.bind_eq_some_iff.mp h
    obtain ⟨r₂, hblanks, h⟩ := Option.bind_eq_some_iff.mp h
    obtain ⟨r₃, hthis, hname⟩ := Option.bind_eq_some_iff.mp h
    obtain ⟨hb, rfl, -⟩ := Text.wordAt?_eq_some_iff.mp hword
    obtain ⟨gap, rfl, hne, hgap, -⟩ := Text.afterBlanks?_eq_some_iff.mp hblanks
    obtain rfl := Text.stripPrefix?_eq_some_iff.mp hthis
    obtain ⟨rfl, hn, hr⟩ := Text.identifier?_eq_some_iff.mp hname
    refine ⟨by simpa [Option.any_eq_false] using hb,
      ⟨gap, by simp only [List.append_assoc], hne, hgap⟩, hn, hr⟩
  · rintro ⟨hb, ⟨gap, rfl, hne, hgap⟩, hn, hr⟩
    have hword : Text.wordAt? "required" before
        ("required".toList ++ gap ++ "this.".toList ++ n ++ r) =
          some (gap ++ ("this.".toList ++ (n ++ r))) := by
      refine Text.wordAt?_eq_some_iff.mpr
        ⟨by simpa [Option.any_eq_false] using hb, by simp only [List.append_assoc], ?_⟩
      obtain ⟨c, gap, rfl⟩ := List.exists_cons_of_ne_nil hne
      exact isWord_of_isBlank (hgap c List.mem_cons_self)
    have hblanks : Text.afterBlanks? (gap ++ ("this.".toList ++ (n ++ r))) =
        some ("this.".toList ++ (n ++ r)) :=
      Text.afterBlanks?_eq_some_iff.mpr ⟨gap, rfl, hne, hgap, by simp; decide⟩
    have hthis : Text.stripPrefix? "this." ("this.".toList ++ (n ++ r)) = some (n ++ r) :=
      Text.stripPrefix?_eq_some_iff.mpr rfl
    rw [requiredAt?, hword, Option.bind_some, hblanks, Option.bind_some, hthis, Option.bind_some]
    exact Text.identifier?_eq_some_iff.mpr ⟨rfl, hn, hr⟩

theorem requiredAt?_eq_none_iff : requiredAt? before t = none ↔ ¬ IsRequirement before t := by
  rw [Option.eq_none_iff_forall_ne_some, IsRequirement, not_exists, Prod.forall]
  refine forall_congr' fun n => ?_
  rw [not_exists]
  exact forall_congr' fun r => not_congr requiredAt?_eq_some_iff

theorem requiredAt?_eq_some (hb : before.any isWord = false) (hn : n.IsIdentifier)
    (hr : ∀ c ∈ r.head?, isIdentifierPart c = false) :
    requiredAt? before ("required this.".toList ++ n ++ r) = some (n, r) :=
  requiredAt?_eq_some_iff.mpr ⟨by simpa [Option.any_eq_false] using hb,
    ⟨[' '], rfl, List.cons_ne_nil _ _, List.forall_mem_singleton.mpr (by decide)⟩, hn, hr⟩

/-- The names that a text requires, from left to right, each behind what the one before it has taken. -/
inductive RequiredIn : Option Char → Text → List Text → Prop
  | none {before : Option Char} {t : Text} (h : Text.Nowhere IsRequirement before t) :
      RequiredIn before t []
  | next {before : Option Char} {t ahead v n rest : Text} {ns : List Text}
      (first : Text.First IsRequirement before t ahead v)
      (requires : RequiresAt (Text.lastOr before ahead) v n rest)
      (more : RequiredIn n.getLast? rest ns) : RequiredIn before t (n :: ns)

theorem RequiredIn.cons {c : Char} (hc : ¬ IsRequirement before (c :: t)) (h : RequiredIn (some c) t ns) :
    RequiredIn before (c :: t) ns := by
  cases h with
  | none h => exact .none (Text.nowhere_cons hc h)
  | next first requires more => exact .next (first.cons hc) (by rwa [Text.lastOr_cons]) more

instance (before : Option Char) (t : Text) : Decidable (IsRequirement before t) :=
  decidable_of_iff (requiredAt? before t ≠ none) (by rw [ne_eq, requiredAt?_eq_none_iff, Classical.not_not])

theorem IsRequirement.head_eq {c : Char} (h : IsRequirement before (c :: t)) : c = 'r' := by
  obtain ⟨n, r, -, ⟨gap, happend, -⟩, -⟩ := h
  exact (List.cons.inj happend).1

theorem not_isRequirement_nil : ¬ IsRequirement before [] := by
  rintro ⟨n, r, -, ⟨gap, h, -⟩, -⟩
  simp at h

theorem requiredIn_requiredNames (before : Option Char) (t : Text) :
    RequiredIn before t (requiredNames before t) := by
  fun_induction requiredNames before t with
  | case1 before t n r h ih =>
    have hat := requiredAt?_eq_some_iff.mp h
    exact .next (.of_holds ⟨n, r, hat⟩) hat ih
  | case2 => exact .none (Text.nowhere_nil not_isRequirement_nil)
  | case3 before c t h ih => exact ih.cons (requiredAt?_eq_none_iff.mp h)

theorem RequiredIn.unique (h : RequiredIn before t ns) (h' : RequiredIn before t ns') : ns = ns' := by
  induction h generalizing ns' with
  | none h =>
    cases h' with
    | none => rfl
    | next first => exact absurd h first.not_nowhere
  | next first requires more ih =>
    cases h' with
    | none h' => exact absurd h' first.not_nowhere
    | next first' requires' more' =>
      obtain ⟨rfl, rfl⟩ := first.unique first'
      have hat := requiredAt?_eq_some_iff.mpr requires
      rw [requiredAt?_eq_some_iff.mpr requires'] at hat
      obtain ⟨rfl, rfl⟩ := Prod.mk.inj (Option.some.inj hat)
      rw [ih more']

theorem requiredNames_of_some {n : Text} (h : requiredAt? before t = some (n, r)) :
    requiredNames before t = n :: requiredNames n.getLast? r := by
  fun_cases requiredNames before t with
  | case1 _ m s hm =>
    obtain ⟨rfl, rfl⟩ := Prod.mk.inj (Option.some.inj (h.symm.trans hm))
    rfl
  | case2 _ hm => exact absurd (h.symm.trans hm) nofun
  | case3 _ _ _ hm => exact absurd (h.symm.trans hm) nofun

theorem requiredNames_of_none {c : Char} (h : requiredAt? before (c :: t) = none) :
    requiredNames before (c :: t) = requiredNames (some c) t := by
  generalize hu : c :: t = u at h
  fun_cases requiredNames before u with
  | case1 _ m s hm => exact absurd (h.symm.trans hm) nofun
  | case2 => exact absurd hu nofun
  | case3 =>
    obtain ⟨rfl, rfl⟩ := List.cons.inj hu
    rfl

theorem requiredNames_nil : requiredNames before [] = [] := by
  generalize hu : ([] : Text) = u
  fun_cases requiredNames before u with
  | case1 _ m s hm => exact absurd (length_of_requiredAt? hm) (by simp [← hu])
  | case2 => rfl
  | case3 => exact absurd hu nofun

/-- Nothing is required at the head of a text that goes on without blanks up to the next comma. -/
theorem requiredAt?_eq_none (hu : ∀ c ∈ u, isBlank c = false) :
    requiredAt? before (u ++ ',' :: t) = none := by
  rw [requiredAt?]
  cases hw : Text.wordAt? "required" before (u ++ ',' :: t) with
  | none => rfl
  | some s =>
    obtain ⟨-, happend, -⟩ := Text.wordAt?_eq_some_iff.mp hw
    have hnone : Text.afterBlanks? s = none := by
      rcases List.append_eq_append_iff.mp happend with ⟨v, hword, hv⟩ | ⟨v, rfl, rfl⟩
      · cases v with
        | nil =>
          obtain rfl : ',' :: t = s := hv
          rfl
        | cons d v =>
          obtain rfl : ',' = d := (List.cons.inj hv).1
          exact absurd
            (hword ▸ List.mem_append_right u List.mem_cons_self : ',' ∈ "required".toList) (by decide)
      · cases v with
        | nil => rfl
        | cons d v =>
          rw [List.cons_append, Text.afterBlanks?, hu d (List.mem_append_right _ List.mem_cons_self)]
          rfl
    rw [Option.bind_some, hnone]
    rfl

theorem requiredNames_skip_char {c : Char} (hc : c ≠ 'r') :
    requiredNames before (c :: t) = requiredNames (some c) t :=
  requiredNames_of_none (requiredAt?_eq_none_iff.mpr fun h => hc h.head_eq)

theorem requiredNames_skip (hu : ∀ c ∈ u, isBlank c = false) :
    requiredNames before (u ++ ',' :: t) = requiredNames (some ',') t := by
  induction u generalizing before with
  | nil => exact requiredNames_skip_char (by decide)
  | cons c u ih =>
    have hnone : requiredAt? before (c :: (u ++ ',' :: t)) = none :=
      requiredAt?_eq_none (u := c :: u) hu
    rw [List.cons_append, requiredNames_of_none hnone]
    exact ih fun d hd => hu d (List.mem_cons_of_mem _ hd)

end Constructor

end DartTransfer

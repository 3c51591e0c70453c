import DartTransfer.Proofs.Comments

/-!
# Which lines a field takes

A field takes the lines of a `Holding`: the comments above it that no earlier field has taken, its
declaration, and the `//` comments below it. Both runs are the longest there are (`RunAbove`,
`RunBelow`). A comment walk gives the fields of a chain of holdings (`Holdings`), each of which starts
no earlier than the one ahead of it stops, so a comment line is taken once.
-/

namespace DartTransfer

/-- A `//` or `///` comment. -/
def IsCommentLine (l : Text) : Prop := "//".toList <+: Text.trimStart l

/-- A `//` comment that is no `///` comment. -/
def IsOwnCommentLine (l : Text) : Prop := IsCommentLine l ∧ ¬ "///".toList <+: Text.trimStart l

section
variable {l : Text}

theorem isSome_commentText?_iff : (commentText? l).isSome ↔ IsCommentLine l := by
  rw [commentText?, Option.isSome_map, Option.isSome_iff_exists]
  constructor
  · rintro ⟨r, hr⟩
    exact ⟨r, (Text.stripPrefix?_eq_some_iff.mp hr).symm⟩
  · rintro ⟨r, hr⟩
    exact ⟨r, Text.stripPrefix?_eq_some_iff.mpr hr.symm⟩

theorem isSome_ownCommentText?_iff : (ownCommentText? l).isSome ↔ IsOwnCommentLine l := by
  rw [ownCommentText?, IsOwnCommentLine, ← isSome_commentText?_iff, ← List.isPrefixOf_iff_prefix]
  split
  · next h => exact ⟨fun hsome => absurd hsome Bool.false_ne_true, fun hown => absurd h hown.2⟩
  · next h => exact ⟨fun hsome => ⟨hsome, h⟩, And.left⟩

end

/-! ### Lines by their numbers -/

def CommentAt (ls : List Text) (n : Nat) : Prop := ∃ l ∈ ls[n]?, IsCommentLine l

def OwnCommentAt (ls : List Text) (n : Nat) : Prop := ∃ l ∈ ls[n]?, IsOwnCommentLine l

def DeclaresAt (ls : List Text) (n : Nat) (d : Declaration) : Prop :=
  ∃ l ∈ ls[n]?, Declaration.final? l = some d

section
variable {ls : List Text} {l : Text} {n : Nat} {d : Declaration}

theorem commentAt_iff (hl : ls[n]? = some l) : CommentAt ls n ↔ IsCommentLine l := by
  simp [CommentAt, hl]

theorem declaresAt_iff (hl : ls[n]? = some l) : DeclaresAt ls n d ↔ Declaration.final? l = some d := by
  simp [DeclaresAt, hl]

theorem OwnCommentAt.commentAt (hn : OwnCommentAt ls n) : CommentAt ls n := by
  obtain ⟨l, hl, hown⟩ := hn
  exact ⟨l, hl, hown.1⟩

theorem not_declaresAt_of_commentAt (hn : CommentAt ls n) : ¬ DeclaresAt ls n d := by
  obtain ⟨l, hl, hcomment⟩ := hn
  obtain ⟨t, ht⟩ := Option.isSome_iff_exists.mp (isSome_commentText?_iff.mpr hcomment)
  have hnone : Declaration.final? l = none := DeclaresNoField.of_commentText? ht
  rw [declaresAt_iff hl, hnone]
  exact nofun

/-- A line declares one field. -/
theorem DeclaresAt.eq {e : Declaration} (hd : DeclaresAt ls n d) (he : DeclaresAt ls n e) : d = e := by
  obtain ⟨l, hl, hd⟩ := hd
  exact Option.some.inj (hd.symm.trans ((declaresAt_iff hl).mp he))

end

/-- The texts of the comments from line `a` up to line `b`. -/
def commentTexts (ls : List Text) (a b : Nat) : List Text := ((ls.take b).drop a).filterMap commentText?

/-- The longest run of comments that ends ahead of `line` and starts at `claimed` or behind it. -/
structure RunAbove (ls : List Text) (claimed first line : Nat) : Prop where
  claimed_le : claimed ≤ first
  le : first ≤ line
  comments : ∀ n, first ≤ n → n < line → CommentAt ls n
  longest : ∀ n, n + 1 = first → claimed ≤ n → ¬ CommentAt ls n

/-- The longest run of `//` comments right below `line`. -/
structure RunBelow (ls : List Text) (line stop : Nat) : Prop where
  lt : line < stop
  comments : ∀ n, line < n → n < stop → OwnCommentAt ls n
  longest : ¬ OwnCommentAt ls stop

/-- A declaration with the numbers of the lines that belong to it, from `first` up to `stop`. -/
structure Holding where
  declaration : Declaration
  first : Nat
  line : Nat
  stop : Nat
  deriving DecidableEq, Repr

namespace Holding

/-- The field, with the comment on its line ahead of those below it. -/
def field (ls : List Text) (h : Holding) : DeclaredField :=
  .ofDeclaration h.declaration (commentTexts ls h.first h.line)
    ((commentText? h.declaration.rest).toList ++ commentTexts ls (h.line + 1) h.stop)

/-- The field takes the line. -/
def Owns (h : Holding) (n : Nat) : Prop := h.first ≤ n ∧ n < h.stop

/-- What the field takes where the lines ahead of `claimed` are taken. -/
structure Holds (ls : List Text) (claimed : Nat) (h : Holding) : Prop where
  declares : DeclaresAt ls h.line h.declaration
  above : RunAbove ls claimed h.first h.line
  below : RunBelow ls h.line h.stop

end Holding

/-- Every field starts from where the field ahead of it stops. -/
def Holdings (ls : List Text) : Nat → List Holding → Prop
  | _, [] => True
  | claimed, h :: hs => h.Holds ls claimed ∧ Holdings ls h.stop hs

/-! ### The run below a declaration -/

section
variable {ls : List Text}

theorem ownCommentRun_eq (ls : List Text) :
    ownCommentRun ls = (ls.take (ownCommentRun ls).length).filterMap commentText? := by
  induction ls with
  | nil => rfl
  | cons l ls ih =>
    rw [ownCommentRun]
    split
    · next t ht =>
      rw [List.length_cons, List.take_succ_cons,
        List.filterMap_cons_some (commentText?_of_ownCommentText? ht), ← ih]
    · rfl

theorem ownCommentAt_of_lt {n : Nat} (hn : n < (ownCommentRun ls).length) : OwnCommentAt ls n := by
  induction ls generalizing n with
  | nil => exact absurd hn (Nat.not_lt_zero n)
  | cons l ls ih =>
    rw [ownCommentRun] at hn
    split at hn
    · next t ht =>
      cases n with
      | zero => exact ⟨l, rfl, isSome_ownCommentText?_iff.mp (by rw [ht]; rfl)⟩
      | succ n => exact ih (Nat.lt_of_succ_lt_succ hn)
    · exact absurd hn (Nat.not_lt_zero n)

theorem not_ownCommentAt_length (ls : List Text) : ¬ OwnCommentAt ls (ownCommentRun ls).length := by
  induction ls with
  | nil =>
    rintro ⟨l, hl, -⟩
    exact absurd hl nofun
  | cons l ls ih =>
    rw [ownCommentRun]
    split
    · exact ih
    · next h =>
      rintro ⟨m, hm, hown⟩
      obtain rfl : l = m := Option.some.inj hm
      rw [← isSome_ownCommentText?_iff, h] at hown
      exact Bool.noConfusion hown

theorem ownCommentAt_drop {n m : Nat} : OwnCommentAt (ls.drop n) m ↔ OwnCommentAt ls (n + m) := by
  rw [OwnCommentAt, OwnCommentAt, List.getElem?_drop]

theorem runBelow (ls : List Text) (n : Nat) :
    RunBelow ls n (n + 1 + (ownCommentRun (ls.drop (n + 1))).length) := by
  refine ⟨by omega, ?_, ?_⟩
  · intro m hm hstop
    obtain ⟨k, rfl⟩ : ∃ k, m = n + 1 + k := Nat.exists_eq_add_of_le hm
    rw [← ownCommentAt_drop]
    exact ownCommentAt_of_lt (by omega)
  · rw [← ownCommentAt_drop]
    exact not_ownCommentAt_length _

theorem commentTexts_below (ls : List Text) (n : Nat) :
    commentTexts ls n (n + (ownCommentRun (ls.drop n)).length) = ownCommentRun (ls.drop n) := by
  rw [commentTexts, ← List.take_drop, ← ownCommentRun_eq]

end

/-! ### The run above a declaration -/

section
variable {ls rest : List Text} {l : Text} {claimed first n : Nat}

theorem getElem?_of_drop_eq_cons (h : ls.drop n = l :: rest) : ls[n]? = some l := by
  rw [← Nat.add_zero n, ← List.getElem?_drop, h]
  rfl

theorem drop_succ_of_drop_eq_cons (h : ls.drop n = l :: rest) : ls.drop (n + 1) = rest := by
  rw [← List.drop_drop, h]
  rfl

theorem commentTexts_self (ls : List Text) (n : Nat) : commentTexts ls n n = [] := by
  rw [commentTexts, List.drop_eq_nil_of_le (List.length_take_le n ls)]
  rfl

/-- A comment line adds its text at the end. -/
theorem commentTexts_succ (hl : ls[n]? = some l) {t : Text} (ht : commentText? l = some t)
    (hle : first ≤ n) :
    commentTexts ls first (n + 1) = commentTexts ls first n ++ [t] := by
  obtain ⟨hn, rfl⟩ := List.getElem?_eq_some_iff.mp hl
  have hlen : first ≤ (ls.take n).length := by
    rw [List.length_take]
    omega
  rw [commentTexts, commentTexts, List.take_succ_eq_append_getElem hn, List.drop_append_of_le_length hlen,
    List.filterMap_append, List.filterMap_cons_some ht]
  rfl

/-- No comment is above the line right behind the claimed ones. -/
theorem RunAbove.empty (ls : List Text) (n : Nat) : RunAbove ls n n n :=
  ⟨Nat.le_refl n, Nat.le_refl n, fun m hm hlt => by omega, fun m hm hle => by omega⟩

theorem RunAbove.comment (h : RunAbove ls claimed first n) (hn : CommentAt ls n) :
    RunAbove ls claimed first (n + 1) := by
  refine ⟨h.claimed_le, Nat.le_succ_of_le h.le, ?_, h.longest⟩
  intro m hm hlt
  rcases Nat.lt_succ_iff_lt_or_eq.mp hlt with hlt | rfl
  · exact h.comments m hm hlt
  · exact hn

/-- A line that is no comment ends the run. -/
theorem RunAbove.other (h : RunAbove ls claimed first n) (hn : ¬ CommentAt ls n) :
    RunAbove ls claimed (n + 1) (n + 1) := by
  have hle : claimed ≤ n := Nat.le_trans h.claimed_le h.le
  refine ⟨Nat.le_succ_of_le hle, Nat.le_refl _, fun m hm hlt => by omega, ?_⟩
  intro m hm _
  obtain rfl := Nat.succ.inj hm
  exact hn

end

/-! ### The walk -/

section
variable {ls : List Text} {claimed n : Nat} {fs : List DeclaredField} {h : Holding} {hs : List Holding}

/-- What a walk gives from line `n` on, where the lines ahead of `claimed` are taken. -/
structure Gives (ls : List Text) (claimed n : Nat) (fs : List DeclaredField) (hs : List Holding) : Prop where
  fields : fs = hs.map (·.field ls)
  chain : Holdings ls claimed hs
  lines : ∀ m d, n ≤ m ∧ DeclaresAt ls m d ↔ ∃ h ∈ hs, h.line = m ∧ h.declaration = d

theorem Gives.nil (hn : ls.length ≤ n) : Gives ls claimed n [] [] := by
  refine ⟨rfl, trivial, fun m d => ?_⟩
  constructor
  · rintro ⟨hm, l, hl, -⟩
    rw [List.getElem?_eq_none (Nat.le_trans hn hm)] at hl
    exact absurd hl nofun
  · rintro ⟨h, hh, -⟩
    exact absurd hh List.not_mem_nil

/-- A line that declares nothing is passed over. -/
theorem Gives.skip (h : Gives ls claimed (n + 1) fs hs) (hn : ∀ d, ¬ DeclaresAt ls n d) :
    Gives ls claimed n fs hs := by
  refine ⟨h.fields, h.chain, fun m d => ?_⟩
  rw [← h.lines]
  constructor
  · rintro ⟨hm, hd⟩
    have hne : n ≠ m := fun e => hn d (e ▸ hd)
    exact ⟨by omega, hd⟩
  · rintro ⟨hm, hd⟩
    exact ⟨by omega, hd⟩

/-- A declaration takes its runs, and the walk goes on behind the one below it. -/
theorem Gives.cons (hgives : Gives ls h.stop h.stop fs hs) (hholds : h.Holds ls claimed) :
    Gives ls claimed h.line (h.field ls :: fs) (h :: hs) := by
  refine ⟨by rw [hgives.fields, List.map_cons], ⟨hholds, hgives.chain⟩, fun m d => ?_⟩
  rw [List.exists_mem_cons_iff, ← hgives.lines]
  constructor
  · rintro ⟨hm, hd⟩
    rcases Nat.eq_or_lt_of_le hm with rfl | hm
    · exact .inl ⟨rfl, hholds.declares.eq hd⟩
    · refine .inr ⟨?_, hd⟩
      by_contra hstop
      have hown := hholds.below.comments m hm (Nat.lt_of_not_le hstop)
      exact not_declaresAt_of_commentAt hown.commentAt hd
  · rintro (⟨rfl, rfl⟩ | ⟨hm, hd⟩)
    · exact ⟨Nat.le_refl _, hholds.declares⟩
    · have hlt := hholds.below.lt
      exact ⟨by omega, hd⟩

/-- The walk carries the run above the next line, the longest that is left to a field there. -/
theorem exists_gives (ls above rest : List Text) : ∀ claimed first n, ls.drop n = rest →
    RunAbove ls claimed first n → commentTexts ls first n = above →
    ∃ hs, Gives ls claimed n (commentedFieldsAfter above rest) hs := by
  fun_induction commentedFieldsAfter above rest with
  | case1 =>
    intro claimed first n hrest hrun habove
    exact ⟨[], .nil (List.drop_eq_nil_iff.mp hrest)⟩
  | case2 above l rest d hd below ih =>
    intro claimed first n hrest hrun habove
    have hl := getElem?_of_drop_eq_cons hrest
    have hdrop := drop_succ_of_drop_eq_cons hrest
    have hbelow : ownCommentRun (ls.drop (n + 1)) = below := congrArg ownCommentRun hdrop
    have hstop : ls.drop (n + 1 + below.length) = rest.drop below.length := by
      rw [← List.drop_drop, hdrop]
    obtain ⟨hs, hgives⟩ := ih _ _ _ hstop (.empty ls _) (commentTexts_self ls _)
    have hfield : Holding.field ls ⟨d, first, n, n + 1 + below.length⟩ =
        .ofDeclaration d above ((commentText? d.rest).toList ++ below) := by
      rw [Holding.field, habove, ← hbelow, commentTexts_below]
    have hdeclares : DeclaresAt ls n d := ⟨l, hl, hd⟩
    have hrunBelow : RunBelow ls n (n + 1 + below.length) := by
      rw [← hbelow]
      exact runBelow ls n
    rw [← hfield]
    exact ⟨_, hgives.cons (h := ⟨d, first, n, n + 1 + below.length⟩) ⟨hdeclares, hrun, hrunBelow⟩⟩
  | case3 above l rest hd t ht ih =>
    intro claimed first n hrest hrun habove
    have hl := getElem?_of_drop_eq_cons hrest
    have hcomment : CommentAt ls n := by
      rw [commentAt_iff hl, ← isSome_commentText?_iff, ht]
      rfl
    have htexts : commentTexts ls first (n + 1) = above ++ [t] := by
      rw [commentTexts_succ hl ht hrun.le, habove]
    obtain ⟨hs, hgives⟩ :=
      ih _ _ _ (drop_succ_of_drop_eq_cons hrest) (hrun.comment hcomment) htexts
    exact ⟨hs, hgives.skip fun _ => not_declaresAt_of_commentAt hcomment⟩
  | case4 above l rest hd ht ih =>
    intro claimed first n hrest hrun habove
    have hl := getElem?_of_drop_eq_cons hrest
    have hother : ¬ CommentAt ls n := by
      rw [commentAt_iff hl, ← isSome_commentText?_iff, ht]
      exact Bool.false_ne_true
    obtain ⟨hs, hgives⟩ :=
      ih _ _ _ (drop_succ_of_drop_eq_cons hrest) (hrun.other hother) (commentTexts_self ls (n + 1))
    have hnone : Declaration.final? l = none := hd
    refine ⟨hs, hgives.skip fun d => ?_⟩
    rw [declaresAt_iff hl, hnone]
    exact (Option.some_ne_none d).symm

end

/-! ### No line is taken twice -/

namespace Holdings
variable {ls : List Text} {claimed : Nat} {hs : List Holding}

theorem claimed_le_first (h : Holdings ls claimed hs) : ∀ k ∈ hs, claimed ≤ k.first := by
  induction hs generalizing claimed with
  | nil => intro k hk; exact absurd hk List.not_mem_nil
  | cons k hs ih =>
    obtain ⟨hk, hrest⟩ := h
    intro k' hk'
    rcases List.mem_cons.mp hk' with rfl | hk'
    · exact hk.above.claimed_le
    · have hstop := ih hrest k' hk'
      have hlt := hk.below.lt
      have hle := hk.above.le
      have hclaimed := hk.above.claimed_le
      omega

theorem exists_holds (h : Holdings ls claimed hs) : ∀ k ∈ hs, ∃ c, k.Holds ls c := by
  induction hs generalizing claimed with
  | nil => intro k hk; exact absurd hk List.not_mem_nil
  | cons k hs ih =>
    obtain ⟨hk, hrest⟩ := h
    intro k' hk'
    rcases List.mem_cons.mp hk' with rfl | hk'
    · exact ⟨claimed, hk⟩
    · exact ih hrest k' hk'

/-- A field starts no earlier than any field ahead of it stops. -/
theorem pairwise (h : Holdings ls claimed hs) : hs.Pairwise fun a b => a.stop ≤ b.first := by
  induction hs generalizing claimed with
  | nil => exact .nil
  | cons k hs ih => exact .cons (claimed_le_first h.2) (ih h.2)

theorem pairwise_disjoint (h : Holdings ls claimed hs) :
    hs.Pairwise fun a b => ∀ n, a.Owns n → ¬ b.Owns n := by
  refine h.pairwise.imp fun hle n ha hb => ?_
  have hlt : n < n := Nat.lt_of_lt_of_le ha.2 (Nat.le_trans hle hb.1)
  exact absurd hlt (Nat.lt_irrefl n)

theorem pairwise_line (h : Holdings ls claimed hs) : hs.Pairwise fun a b => a.line < b.line := by
  refine h.pairwise.imp_of_mem fun ha hb hle => ?_
  obtain ⟨_, ha⟩ := h.exists_holds _ ha
  obtain ⟨_, hb⟩ := h.exists_holds _ hb
  exact Nat.lt_of_lt_of_le ha.below.lt (Nat.le_trans hle hb.above.le)

theorem eq_of_owns (h : Holdings ls claimed hs) {a b : Holding} (ha : a ∈ hs) (hb : b ∈ hs) {n : Nat}
    (han : a.Owns n) (hbn : b.Owns n) : a = b := by
  have hdisjoint := h.pairwise_disjoint
  have hone : ∀ x ∈ hs, ∀ y ∈ hs, x.Owns n → y.Owns n → x = y :=
    List.Pairwise.forall_of_forall_of_flip (fun x _ _ _ => rfl)
      (hdisjoint.imp fun hab hx hy => absurd hy (hab n hx))
      (hdisjoint.imp fun hab hy hx => absurd hy (hab n hx))
  exact hone a ha b hb han hbn

end Holdings

/-- A `//` comment with only such comments between it and the declaration is the field's. -/
theorem RunBelow.lt_stop {ls : List Text} {line stop n : Nat} (h : RunBelow ls line stop)
    (hcomments : ∀ m, line < m → m ≤ n → OwnCommentAt ls m) : n < stop := by
  by_contra hstop
  exact h.longest (hcomments stop h.lt (Nat.le_of_not_lt hstop))

/-- The fields of a class body in order, with the lines they take: the comments of a field are those
of the longest run above it that leaves the field ahead alone, the one behind its semicolon, and the
longest run of `//` comments below it. So no line is taken by two fields, and a `//` comment with only
such comments between it and a field is that field's. -/
theorem comments_owned (body : Text) : ∃ hs : List Holding,
    commentedFields body = hs.map (·.field (Text.lines body)) ∧
      (∀ n d, DeclaresAt (Text.lines body) n d ↔ ∃ h ∈ hs, h.line = n ∧ h.declaration = d) ∧
      Holdings (Text.lines body) 0 hs ∧
      hs.Pairwise (fun a b => a.line < b.line ∧ ∀ n, a.Owns n → ¬ b.Owns n) ∧
      ∀ h ∈ hs, ∀ n, h.line < n → (∀ m, h.line < m → m ≤ n → OwnCommentAt (Text.lines body) m) →
        h.Owns n ∧ ∀ k ∈ hs, k.Owns n → k = h := by
  obtain ⟨hs, hgives⟩ :=
    exists_gives (Text.lines body) [] (Text.lines body) 0 0 0 rfl (.empty _ 0) (commentTexts_self _ 0)
  have hchain := hgives.chain
  refine ⟨hs, hgives.fields, ?_, hchain, hchain.pairwise_line.and hchain.pairwise_disjoint, ?_⟩
  · intro n d
    rw [← hgives.lines]
    exact (and_iff_right (Nat.zero_le n)).symm
  · intro h hh n hn hcomments
    obtain ⟨_, hholds⟩ := hchain.exists_holds h hh
    have hfirst : h.first ≤ n := Nat.le_trans hholds.above.le (Nat.le_of_lt hn)
    have howns : h.Owns n := ⟨hfirst, hholds.below.lt_stop hcomments⟩
    exact ⟨howns, fun k hk hkn => hchain.eq_of_owns hk hh hkn howns⟩

/-- A `///` comment between two fields is the lower one's, a `//` comment the upper one's. -/
example : commentedFields "/// A\n// a\nfinal int x; // b\n// c\n/// B\n// d\nfinal int y;" =
    [⟨"int", "x", false, ["A", "a"], ["b", "c"]⟩, ⟨"int", "y", false, ["B", "d"], []⟩] := by
  decide +kernel

end DartTransfer

import DartTransfer.Proofs.Located
import DartTransfer.Proofs.Patterns

/-!
# Class blocks, matched and scanned

What `SourceClass.all` finds is what a backtracking search for the pattern of a class block finds
(`SourceClass.hits_allFrom`). The search may begin at any heading and cut names and headers short,
but the first heading decides: if no block stands there, a brace is missing in the rest of the text,
and no later heading has a block either (`Pattern.search?_classBlock_eq_none`). So the blocks are
those of a scan that never goes back, `SourceClass.BlockScan`.
-/

namespace DartTransfer

namespace Pattern

/-- `class` at the start of a word, and the blanks after it. -/
def lead : Pattern := seq boundary (seq (text "class") (seq (one isBlank) (many isBlank)))

def identifier : Pattern := group (seq (one isIdentifierStart) (many isIdentifierPart))

/-- All that stands ahead of the next opening brace. -/
def header : Pattern := group (many (· != '\x7b'))

/-- A brace, all that stands ahead of the next closing brace, and this brace. -/
def braced : Pattern := seq (text "\x7b") (seq (group (many (· != '\x7d'))) (text "\x7d"))

/-- `class Name ...`, up to the next opening brace or the end of the text. -/
def classHeading : Pattern := seq lead (seq identifier header)

/-- `class Name ... { ... }`. -/
def classBlock : Pattern := seq lead (seq identifier (seq header braced))

section
variable {before : Option Char} {t skipped : Text} {h : Heading} {w v : Way} {q : Pattern}

/-- What starts with the lead and a name stands only where a heading does. -/
theorem at?_isSome_of_mem (hw : w ∈ ways (seq lead (seq identifier q)) before t) :
    (Heading.at? before t).isSome = true := by
  obtain ⟨u, hu, v, hv, -⟩ := of_mem_seq hw
  obtain ⟨u₁, h₁, u₂, h₂, hurest⟩ := of_mem_seq hu
  obtain ⟨u₃, h₃, u₄, h₄, hrest₂⟩ := of_mem_seq h₂
  obtain ⟨u₅, h₅, u₆, h₆, hrest₄⟩ := of_mem_seq h₄
  obtain ⟨v₁, hv₁, -⟩ := of_mem_seq hv
  obtain ⟨v₂, hv₂, -⟩ := of_mem_group hv₁
  obtain ⟨v₃, hv₃, -⟩ := of_mem_seq hv₂
  obtain ⟨hword, ht⟩ := of_mem_boundary h₁
  obtain ⟨d, hd, hblank⟩ := of_mem_one h₅
  obtain ⟨gap, hgaprest, hgap⟩ := of_mem_many h₆
  obtain ⟨e, he, hstart⟩ := of_mem_one hv₃
  have hclass := of_mem_text h₃
  rw [hurest, hrest₂, hrest₄] at he
  rw [hgaprest, he] at hd
  rw [ht, hd] at hclass
  refine Heading.at?_isSome_iff.mpr
    ⟨?_, d :: gap, e, v₃.rest, by rw [hclass]; simp, List.cons_ne_nil d gap, ?_, hstart⟩
  · have hc : isWord 'c' = true := by decide
    rw [hclass] at hword
    simpa [hc] using hword
  · intro c hc
    rcases List.mem_cons.mp hc with rfl | hc
    · exact hblank
    · exact hgap c hc

/-- A class block holds an opening brace and a closing one behind it. -/
theorem exists_braces_of_mem (hw : w ∈ classBlock.ways before t) :
    ∃ u v r, t = u ++ '\x7b' :: (v ++ '\x7d' :: r) := by
  obtain ⟨u₁, h₁, v₁, hv₁, -⟩ := of_mem_seq hw
  obtain ⟨u₂, h₂, v₂, hv₂, -⟩ := of_mem_seq hv₁
  obtain ⟨u₃, h₃, v₃, hv₃, -⟩ := of_mem_seq hv₂
  obtain ⟨u₄, h₄, v₄, hv₄, -⟩ := of_mem_seq hv₃
  obtain ⟨u₅, h₅, v₅, hv₅, -⟩ := of_mem_seq hv₄
  obtain ⟨u₆, h₆, hrest₆⟩ := of_mem_group h₅
  obtain ⟨body, hbody, -⟩ := of_mem_many h₆
  have hopen := of_mem_text h₄
  have hclose := of_mem_text hv₅
  rw [hbody, ← hrest₆, hclose] at hopen
  obtain ⟨s₁, rfl⟩ := exists_append_of_mem h₁
  obtain ⟨s₂, hs₂⟩ := exists_append_of_mem h₂
  obtain ⟨s₃, hs₃⟩ := exists_append_of_mem h₃
  exact ⟨s₁ ++ s₂ ++ s₃, body, v₅.rest, by rw [hs₂, hs₃, hopen]; simp⟩

theorem search?_of_find?_eq_none (e : Heading.find? before t = none) :
    (seq lead (seq identifier q)).search? before t = none := by
  refine search?_eq_none fun u v huv => List.eq_nil_iff_forall_not_mem.mpr fun w hw => ?_
  have hat := at?_isSome_of_mem hw
  rw [Heading.find?_eq_none_iff.mp e u v huv] at hat
  exact Bool.noConfusion hat

theorem head?_ways_lead {gap r : Text} (hb : before.any isWord = false) (hne : gap ≠ [])
    (hgap : ∀ c ∈ gap, isBlank c = true) (hr : ∀ c ∈ r.head?, isBlank c = false) :
    (lead.ways before ("class".toList ++ gap ++ r)).head? = some ⟨[], "class".toList ++ gap, r⟩ := by
  obtain ⟨d, gap, rfl⟩ := List.exists_cons_of_ne_nil hne
  have hword : before.any isWord ≠ ("class".toList ++ (d :: gap ++ r)).head?.any isWord := by
    have hc : isWord 'c' = true := by decide
    rw [hb]
    simp [hc]
  have hblanks (b : Option Char) :
      ((seq (one isBlank) (many isBlank)).ways b (d :: gap ++ r)).head? = some ⟨[], d :: gap, r⟩ :=
    head?_ways_seq (head?_ways_one (hgap d List.mem_cons_self))
      (head?_ways_many (fun x hx => hgap x (List.mem_cons_of_mem d hx)) hr)
  rw [List.append_assoc]
  exact head?_ways_seq (head?_ways_boundary hword) (head?_ways_seq (head?_ways_text _ _) (hblanks _))

theorem head?_ways_identifier {n r : Text} (hn : n.IsIdentifier)
    (hr : ∀ c ∈ r.head?, isIdentifierPart c = false) :
    (identifier.ways before (n ++ r)).head? = some ⟨[n], n, r⟩ := by
  obtain ⟨⟨c, hc, hstart⟩, hparts⟩ := hn
  obtain ⟨n, rfl⟩ := List.head?_eq_some_iff.mp hc
  exact head?_ways_group (head?_ways_seq (head?_ways_one hstart)
    (head?_ways_many (fun x hx => hparts x (List.mem_cons_of_mem c hx)) hr))

theorem head?_ways_header {u r : Text} (hu : '\x7b' ∉ u) (hr : ∀ c ∈ r.head?, c = '\x7b') :
    (header.ways before (u ++ r)).head? = some ⟨[u], u, r⟩ := by
  refine head?_ways_group (head?_ways_many ?_ ?_)
  · intro c hc
    exact bne_iff_ne.mpr fun e => hu (e ▸ hc)
  · intro c hc
    simp [hr c hc]

theorem head?_ways_braced {u r : Text} (hu : '\x7d' ∉ u) :
    (braced.ways before ('\x7b' :: (u ++ '\x7d' :: r))).head? =
      some ⟨[u], '\x7b' :: (u ++ ['\x7d']), r⟩ := by
  have hbody (b : Option Char) :
      ((group (many (· != '\x7d'))).ways b (u ++ '\x7d' :: r)).head? = some ⟨[u], u, '\x7d' :: r⟩ := by
    refine head?_ways_group (head?_ways_many ?_ (by simp))
    intro c hc
    exact bne_iff_ne.mpr fun e => hu (e ▸ hc)
  exact head?_ways_seq (head?_ways_text _ _) (head?_ways_seq (hbody _) (head?_ways_text _ _))

/-- The preferred way takes the heading as it is read, for a name or a gap cut short gains nothing. -/
theorem head?_ways_heading {gs : List Text} {s r : Text} (e : Heading.at? before t = some h)
    (hq : ∀ b, (q.ways b h.rest).head? = some ⟨gs, s, r⟩) :
    ((seq lead (seq identifier q)).ways before t).head? =
      some ⟨h.name :: gs, h.lead ++ (h.name ++ s), r⟩ := by
  obtain ⟨hb, rfl, ⟨gap, hl, hne, hgap⟩, hname, hend⟩ := Heading.at?_eq_some_iff.mp e
  have hstop : ∀ c ∈ (h.name ++ h.rest).head?, isBlank c = false := by
    obtain ⟨⟨d, hd, hstart⟩, -⟩ := hname
    rw [List.head?_append, Option.mem_def.mp hd]
    intro c hc
    obtain rfl : d = c := Option.some.inj hc
    exact isBlank_of_isIdentifierPart (isIdentifierPart_of_isIdentifierStart hstart)
  have hlead := head?_ways_lead hb hne hgap hstop
  rw [← hl, ← List.append_assoc] at hlead
  exact head?_ways_seq hlead (head?_ways_seq (head?_ways_identifier hname hend) (hq _))

/-- The search for a pattern that starts like a heading ends at the first heading, if the pattern
stands there. -/
theorem search?_of_find? {gs : List Text} {s r : Text} (e : Heading.find? before t = some (skipped, h))
    (hq : ∀ b, (q.ways b h.rest).head? = some ⟨gs, s, r⟩) :
    (seq lead (seq identifier q)).search? before t =
      some (skipped, ⟨h.name :: gs, h.lead ++ (h.name ++ s), r⟩) := by
  obtain ⟨rest, rfl, hat, hno⟩ := Heading.find?_eq_some e
  have hskip (u v : Text) (huv : skipped = u ++ v) (hv : v ≠ []) :
      (seq lead (seq identifier q)).ways (Text.lastOr before u) (v ++ rest) = [] := by
    refine List.eq_nil_iff_forall_not_mem.mpr fun w hw => ?_
    have hsome := at?_isSome_of_mem hw
    rw [hno u v huv hv] at hsome
    exact Bool.noConfusion hsome
  rw [search?_append hskip, search?_of_head? (head?_ways_heading hat hq)]
  simp

/-- A first heading without a block is the end of all blocks: each would have its two braces behind
that heading. -/
theorem search?_classBlock_eq_none (e : Heading.find? before t = some (skipped, h))
    (hrest : ∀ u v, h.rest = u ++ '\x7b' :: v → '\x7d' ∉ v) : classBlock.search? before t = none := by
  obtain ⟨rest, rfl, hat, hno⟩ := Heading.find?_eq_some e
  refine search?_eq_none fun u v huv => List.eq_nil_iff_forall_not_mem.mpr fun w hw => ?_
  obtain ⟨s, hs⟩ : ∃ s, rest = s ++ v := by
    rcases List.append_eq_append_iff.mp huv with ⟨s, -, hs⟩ | ⟨s, hskipped, hv⟩
    · exact ⟨s, hs⟩
    · -- no heading stands ahead of the first, so neither does a block
      cases s with
      | nil => exact ⟨[], hv.symm⟩
      | cons c s =>
        have hsome := at?_isSome_of_mem hw
        rw [hv, hno u (c :: s) hskipped (List.cons_ne_nil c s)] at hsome
        exact Bool.noConfusion hsome
  obtain ⟨x, y, z, rfl⟩ := exists_braces_of_mem hw
  have happ : h.lead ++ h.name ++ h.rest = s ++ x ++ '\x7b' :: (y ++ '\x7d' :: z) := by
    rw [← Heading.append_of_at? hat, hs, List.append_assoc]
  obtain ⟨s', -, hs'⟩ := Text.exists_of_append_eq_cons happ (Heading.brace_notMem hat)
  exact hrest s' _ hs' (by simp)

end

end Pattern

namespace SourceClass

/-- A class as a search reports it. -/
def asHit (c : SourceClass) : Pattern.Hit := ⟨[c.name, c.header, c.body], c.span⟩

theorem asHit_injective : Function.Injective asHit := by
  rintro ⟨name, header, body, span⟩ ⟨name', header', body', span'⟩ h
  simp only [asHit, Pattern.Hit.mk.injEq, List.cons.injEq, and_true] at h
  obtain ⟨⟨rfl, rfl, rfl⟩, rfl⟩ := h
  rfl

/-- The classes are the hits of repeated searches for the pattern of a block. -/
theorem hits_allFrom (position : Nat) (before : Option Char) (t : Text) :
    Pattern.classBlock.Hits position before t ((allFrom position before t).map asHit) := by
  fun_induction allFrom position before t with
  | case1 position before t hfind => exact Pattern.search?_of_find?_eq_none hfind
  | case2 position before t skipped h hfind hopen =>
    refine Pattern.search?_classBlock_eq_none hfind fun u v huv => ?_
    refine absurd (?_ : '\x7b' ∈ h.rest) (Text.splitAt?_eq_none_iff.mp hopen)
    rw [huv]
    simp
  | case3 position before t skipped h hfind header r hopen hclose =>
    obtain ⟨hrest, hheader⟩ := Text.splitAt?_eq_some_iff.mp hopen
    refine Pattern.search?_classBlock_eq_none hfind fun u v huv => ?_
    have hclosed := Text.splitAt?_eq_none_iff.mp hclose
    obtain ⟨x, -, hx⟩ := Text.exists_of_append_eq_cons (hrest.symm.trans huv) hheader
    intro hv
    refine hclosed ?_
    cases x with
    | nil =>
      obtain ⟨-, rfl⟩ := List.cons.inj hx
      exact hv
    | cons d x =>
      obtain ⟨-, rfl⟩ := List.cons.inj hx
      simp [hv]
  | case4 position before t skipped h hfind header r hopen body rest hclose start stop ih =>
    obtain ⟨hrest, hheader⟩ := Text.splitAt?_eq_some_iff.mp hopen
    obtain ⟨rfl, hbody⟩ := Text.splitAt?_eq_some_iff.mp hclose
    have hblock (b : Option Char) :
        ((Pattern.seq .header .braced).ways b h.rest).head? =
          some ⟨[header, body], header ++ '\x7b' :: (body ++ ['\x7d']), rest⟩ := by
      rw [hrest]
      exact Pattern.head?_ways_seq (Pattern.head?_ways_header hheader (by simp))
        (Pattern.head?_ways_braced hbody)
    refine ⟨skipped, _, Pattern.search?_of_find? hfind hblock, rfl, rfl, ?_, ?_⟩
    · show start + _ = start + _
      simp
    · have hlast : Text.lastOr before
          (skipped ++ (h.lead ++ (h.name ++ (header ++ '\x7b' :: (body ++ ['\x7d']))))) = some '\x7d' := by
        simpa using
          Text.lastOr_concat before (skipped ++ h.lead ++ h.name ++ header ++ '\x7b' :: body) '\x7d'
      rw [hlast]
      exact ih

end SourceClass

/-! ### The scan -/

namespace Text
variable {ahead t : Text} {start n : Nat} {gap name rest : Text}

/-- `class` starts a word at byte `n`, and blanks and the start of an identifier follow. -/
def HeadingAt (t : Text) (n : Nat) : Prop :=
  ∃ ahead gap d r, t = ahead ++ ("class".toList ++ gap ++ d :: r) ∧ byteLength ahead = n ∧
    (∀ c ∈ ahead.getLast?, isWord c = false) ∧ gap ≠ [] ∧ (∀ c ∈ gap, isBlank c = true) ∧
      isIdentifierStart d = true

/-- The first heading at or behind the cursor stands at byte `start`; it is `class`, the blanks `gap`
and the longest identifier there, `name`. -/
structure FirstHeading (t : Text) (cursor start : Nat) (gap name rest : Text) : Prop where
  cursor_le : cursor ≤ start
  first : ∀ n, cursor ≤ n → n < start → ¬ t.HeadingAt n
  append : ∃ ahead, t = ahead ++ ("class".toList ++ gap ++ name ++ rest) ∧ ahead.byteLength = start ∧
    ∀ c ∈ ahead.getLast?, isWord c = false
  gap_ne : gap ≠ []
  gap_blank : ∀ c ∈ gap, isBlank c = true
  name : name.IsIdentifier
  longest : ∀ c ∈ rest.head?, isIdentifierPart c = false

theorem any_lastOr_none : (lastOr none ahead).any isWord = false ↔
    ∀ c ∈ ahead.getLast?, isWord c = false := by
  rw [lastOr, Option.or_none]
  cases ahead.getLast? <;> simp

theorem headingAt_iff : t.HeadingAt n ↔ ∃ u v, t = u ++ v ∧ u.byteLength = n ∧
    (Heading.at? (lastOr none u) v).isSome = true := by
  simp only [Heading.at?_isSome_iff, any_lastOr_none]
  constructor
  · rintro ⟨u, gap, d, r, ht, hn, hu, hgap⟩
    exact ⟨u, _, ht, hn, hu, gap, d, r, rfl, hgap⟩
  · rintro ⟨u, _, ht, hn, hu, gap, d, r, rfl, hgap⟩
    exact ⟨u, gap, d, r, ht, hn, hu, hgap⟩

theorem find?_eq_none_iff_headingAt : Heading.find? (lastOr none ahead) t = none ↔
    ∀ n, ahead.byteLength ≤ n → ¬ (ahead ++ t).HeadingAt n := by
  rw [Heading.find?_eq_none_iff]
  constructor
  · intro h n hn hat
    obtain ⟨u, v, huv, rfl, hv⟩ := headingAt_iff.mp hat
    obtain ⟨e, rfl, rfl⟩ := exists_of_byteLength_le huv hn
    rw [lastOr_append, h e v rfl] at hv
    exact Bool.noConfusion hv
  · rintro h u v rfl
    rw [← Option.not_isSome_iff_eq_none, ← lastOr_append]
    intro hv
    exact h (ahead ++ u).byteLength (by simp) (headingAt_iff.mpr ⟨_, v, by simp, rfl, hv⟩)

/-- The first heading is the one that is found. -/
theorem firstHeading_iff : (ahead ++ t).FirstHeading ahead.byteLength start gap name rest ↔
    ∃ skipped, start = ahead.byteLength + skipped.byteLength ∧
      Heading.find? (lastOr none ahead) t = some (skipped, ⟨"class".toList ++ gap, name, rest⟩) := by
  constructor
  · rintro ⟨hle, hfirst, ⟨u, hu, rfl, hword⟩, hne, hgap, hname, hend⟩
    obtain ⟨skipped, rfl, rfl⟩ := exists_of_byteLength_le hu hle
    refine ⟨skipped, byteLength_append _ _, Heading.find?_eq_some_iff.mpr ⟨_, rfl, ?_, ?_⟩⟩
    · rw [← lastOr_append]
      exact Heading.at?_eq_some_iff.mpr
        ⟨any_lastOr_none.mpr hword, rfl, ⟨gap, rfl, hne, hgap⟩, hname, hend⟩
    · rintro x y rfl hy
      rw [← Option.not_isSome_iff_eq_none, ← lastOr_append]
      intro hat
      refine hfirst (ahead ++ x).byteLength (by simp) ?_ (headingAt_iff.mpr ⟨_, _, ?_, rfl, hat⟩)
      · have : y.byteLength ≠ 0 := fun e => hy (byteLength_eq_zero_iff.mp e)
        simp only [byteLength_append]
        omega
      · simp
  · rintro ⟨skipped, rfl, hfind⟩
    obtain ⟨t', rfl, hat, hno⟩ := Heading.find?_eq_some hfind
    rw [← lastOr_append] at hat
    obtain ⟨hword, rfl, ⟨gap', hgap', hne, hblank⟩, hname, hend⟩ := Heading.at?_eq_some_iff.mp hat
    obtain rfl : gap = gap' := List.append_cancel_left hgap'
    refine ⟨Nat.le_add_right _ _, ?_, ⟨ahead ++ skipped, by simp, byteLength_append _ _,
      any_lastOr_none.mp hword⟩, hne, hblank, hname, hend⟩
    intro n hn hlt hheading
    obtain ⟨u, v, huv, rfl, hv⟩ := headingAt_iff.mp hheading
    obtain ⟨x, rfl, hx⟩ := exists_of_byteLength_le huv hn
    have hle : x.byteLength ≤ skipped.byteLength := by
      rw [byteLength_append] at hlt
      omega
    obtain ⟨y, rfl, rfl⟩ := exists_of_byteLength_le hx.symm hle
    have hy : y ≠ [] := by
      rintro rfl
      simp at hlt
    rw [lastOr_append, hno x y rfl hy] at hv
    exact Bool.noConfusion hv

theorem exists_firstHeading {skipped : Text} {h : Heading}
    (hfind : Heading.find? (lastOr none ahead) t = some (skipped, h)) :
    ∃ gap, h.lead = "class".toList ++ gap ∧ (ahead ++ t).FirstHeading ahead.byteLength
      (ahead.byteLength + skipped.byteLength) gap h.name h.rest := by
  obtain ⟨t', -, hat, -⟩ := Heading.find?_eq_some hfind
  obtain ⟨lead, name, rest⟩ := h
  obtain ⟨-, -, ⟨gap, rfl, -⟩, -⟩ := Heading.at?_eq_some_iff.mp hat
  exact ⟨gap, rfl, firstHeading_iff.mpr ⟨skipped, rfl, hfind⟩⟩

end Text

namespace SourceClass

/-- The scan for class blocks from a cursor: the first heading, the first opening brace behind its
name, the first closing brace behind that one, and on behind it; where one of the three is missing,
the scan is over. -/
inductive BlockScan (t : Text) : Nat → List SourceClass → Prop
  | noHeading {cursor : Nat} : (∀ n, cursor ≤ n → ¬ t.HeadingAt n) → BlockScan t cursor []
  | noOpening {cursor start : Nat} {gap name rest : Text} :
    t.FirstHeading cursor start gap name rest → '\x7b' ∉ rest → BlockScan t cursor []
  | noClosing {cursor start : Nat} {gap name header rest : Text} :
    t.FirstHeading cursor start gap name (header ++ '\x7b' :: rest) → '\x7b' ∉ header → '\x7d' ∉ rest →
      BlockScan t cursor []
  | block {cursor start stop : Nat} {gap name header body rest : Text} {cs : List SourceClass} :
    t.FirstHeading cursor start gap name (header ++ '\x7b' :: (body ++ '\x7d' :: rest)) →
      '\x7b' ∉ header → '\x7d' ∉ body →
      stop = start +
        Text.byteLength ("class".toList ++ gap ++ name ++ header ++ '\x7b' :: (body ++ ['\x7d'])) →
      BlockScan t stop cs → BlockScan t cursor (⟨name, header, body, ⟨start, stop⟩⟩ :: cs)

theorem allFrom_eq (position : Nat) (before : Option Char) (t : Text) : allFrom position before t =
    match Heading.find? before t with
    | none => []
    | some (skipped, h) =>
      match h.rest.splitAt? '\x7b' with
      | none => []
      | some (header, r) =>
        match Text.splitAt? '\x7d' r with
        | none => []
        | some (body, r) =>
          let start := position + skipped.byteLength
          let stop := start + Text.byteLength (h.lead ++ h.name ++ header ++ "\x7b" ++ body ++ "\x7d")
          ⟨h.name, header, body, ⟨start, stop⟩⟩ :: allFrom stop (some '\x7d') r := by
  rw [allFrom]
  split
  · next hfind => rw [hfind]
  · next hfind =>
    rw [hfind]
    dsimp only
    split
    · next hopen => rw [hopen]
    · next hopen =>
      rw [hopen]
      dsimp only
      split
      · next hclose => rw [hclose]
      · next hclose => rw [hclose]

section
variable {position : Nat} {before : Option Char} {t skipped header body r rest : Text} {h : Heading}

theorem allFrom_of_noHeading (hfind : Heading.find? before t = none) : allFrom position before t = [] := by
  rw [allFrom_eq, hfind]

theorem allFrom_of_noOpening (hfind : Heading.find? before t = some (skipped, h))
    (hopen : h.rest.splitAt? '\x7b' = none) : allFrom position before t = [] := by
  rw [allFrom_eq, hfind]
  dsimp only
  rw [hopen]

theorem allFrom_of_noClosing (hfind : Heading.find? before t = some (skipped, h))
    (hopen : h.rest.splitAt? '\x7b' = some (header, r)) (hclose : Text.splitAt? '\x7d' r = none) :
    allFrom position before t = [] := by
  rw [allFrom_eq, hfind]
  dsimp only
  rw [hopen]
  dsimp only
  rw [hclose]

theorem allFrom_of_block (hfind : Heading.find? before t = some (skipped, h))
    (hopen : h.rest.splitAt? '\x7b' = some (header, r))
    (hclose : Text.splitAt? '\x7d' r = some (body, rest)) : allFrom position before t =
      let start := position + skipped.byteLength
      let stop := start + Text.byteLength (h.lead ++ h.name ++ header ++ "\x7b" ++ body ++ "\x7d")
      ⟨h.name, header, body, ⟨start, stop⟩⟩ :: allFrom stop (some '\x7d') rest := by
  rw [allFrom_eq, hfind]
  dsimp only
  rw [hopen]
  dsimp only
  rw [hclose]

end

/-- A scan from behind `ahead` reports what is found there. -/
theorem BlockScan.allFrom_eq {t : Text} {cursor : Nat} {cs : List SourceClass} (h : BlockScan t cursor cs)
    (ahead t' : Text) (ht : t = ahead ++ t') (hcursor : cursor = ahead.byteLength) :
    allFrom cursor (Text.lastOr none ahead) t' = cs := by
  induction h generalizing ahead t' with
  | noHeading hno =>
    subst ht hcursor
    exact allFrom_of_noHeading (Text.find?_eq_none_iff_headingAt.mpr hno)
  | noOpening hfirst hopen =>
    subst ht hcursor
    obtain ⟨skipped, -, hfind⟩ := Text.firstHeading_iff.mp hfirst
    exact allFrom_of_noOpening hfind (Text.splitAt?_eq_none_iff.mpr hopen)
  | noClosing hfirst hheader hclose =>
    subst ht hcursor
    obtain ⟨skipped, -, hfind⟩ := Text.firstHeading_iff.mp hfirst
    exact allFrom_of_noClosing hfind (Text.splitAt?_eq_some_iff.mpr ⟨rfl, hheader⟩)
      (Text.splitAt?_eq_none_iff.mpr hclose)
  | @block cursor start stop gap name header body rest cs hfirst hheader hbody hstop hscan ih =>
    subst ht hcursor
    obtain ⟨skipped, hstart, hfind⟩ := Text.firstHeading_iff.mp hfirst
    obtain ⟨t'', rfl, hat, -⟩ := Heading.find?_eq_some hfind
    obtain rfl := Heading.append_of_at? hat
    rw [allFrom_of_block hfind (Text.splitAt?_eq_some_iff.mpr ⟨rfl, hheader⟩)
      (Text.splitAt?_eq_some_iff.mpr ⟨rfl, hbody⟩)]
    have hlast : Text.lastOr none (ahead ++ skipped ++ ("class".toList ++ gap ++ name ++ header ++
        '\x7b' :: (body ++ ['\x7d']))) = some '\x7d' := by
      simpa using Text.lastOr_concat none
        (ahead ++ skipped ++ "class".toList ++ gap ++ name ++ header ++ '\x7b' :: body) '\x7d'
    have hcs := ih (ahead ++ skipped ++ ("class".toList ++ gap ++ name ++ header ++
      '\x7b' :: (body ++ ['\x7d']))) rest (by simp) (by rw [hstop, hstart]; simp [Nat.add_assoc])
    rw [hlast] at hcs
    subst hstop hstart
    simpa using hcs

/-- What is found behind `ahead` is what a scan from there reports. -/
theorem blockScan_allFrom (position : Nat) (before : Option Char) (t : Text) :
    ∀ ahead : Text, position = ahead.byteLength → before = Text.lastOr none ahead →
      BlockScan (ahead ++ t) position (allFrom position before t) := by
  fun_induction allFrom position before t with
  | case1 position before t hfind =>
    rintro ahead rfl rfl
    exact .noHeading (Text.find?_eq_none_iff_headingAt.mp hfind)
  | case2 position before t skipped h hfind hopen =>
    rintro ahead rfl rfl
    obtain ⟨gap, -, hfirst⟩ := Text.exists_firstHeading hfind
    exact .noOpening hfirst (Text.splitAt?_eq_none_iff.mp hopen)
  | case3 position before t skipped h hfind header r hopen hclose =>
    rintro ahead rfl rfl
    obtain ⟨gap, -, hfirst⟩ := Text.exists_firstHeading hfind
    obtain ⟨hrest, hheader⟩ := Text.splitAt?_eq_some_iff.mp hopen
    rw [hrest] at hfirst
    exact .noClosing hfirst hheader (Text.splitAt?_eq_none_iff.mp hclose)
  | case4 position before t skipped h hfind header r hopen body rest hclose start stop ih =>
    rintro ahead rfl rfl
    obtain ⟨gap, hlead, hfirst⟩ := Text.exists_firstHeading hfind
    obtain ⟨hrest, hheader⟩ := Text.splitAt?_eq_some_iff.mp hopen
    obtain ⟨rfl, hbody⟩ := Text.splitAt?_eq_some_iff.mp hclose
    obtain ⟨t', rfl, hat, -⟩ := Heading.find?_eq_some hfind
    obtain rfl := Heading.append_of_at? hat
    rw [hrest] at hfirst
    have hstop : stop = ahead.byteLength + skipped.byteLength +
        Text.byteLength ("class".toList ++ gap ++ h.name ++ header ++ '\x7b' :: (body ++ ['\x7d'])) := by
      rw [← hlead]
      show start + _ = start + _
      simp
    rw [hrest]
    refine .block hfirst hheader hbody hstop ?_
    have hscan := ih (ahead ++ skipped ++ (h.lead ++ h.name ++ header ++ '\x7b' :: (body ++ ['\x7d'])))
      (by rw [hstop, ← hlead]; simp [Nat.add_assoc])
      (by simpa using (Text.lastOr_concat none
        (ahead ++ skipped ++ h.lead ++ h.name ++ header ++ '\x7b' :: body) '\x7d').symm)
    simpa [hrest] using hscan

theorem BlockScan.exists_slice {t : Text} {cursor : Nat} {cs : List SourceClass} (h : BlockScan t cursor cs) :
    ∀ c ∈ cs, c.span.start < c.span.stop ∧ c.span.stop ≤ t.byteLength ∧
      ∃ gap, t.slice c.span = "class".toList ++ gap ++ c.name ++ c.header ++ "\x7b" ++ c.body ++ "\x7d" ∧
        gap ≠ [] ∧ (∀ d ∈ gap, isBlank d = true) ∧ c.name.IsIdentifier ∧
        '\x7b' ∉ c.header ∧ '\x7d' ∉ c.body := by
  induction h with
  | noHeading => simp
  | noOpening => simp
  | noClosing => simp
  | @block cursor start stop gap name header body rest cs hfirst hheader hbody hstop hscan ih =>
    intro c hc
    rcases List.mem_cons.mp hc with rfl | hc
    · obtain ⟨ahead, rfl, rfl, -⟩ := hfirst.append
      have hclose := Char.utf8Size_pos '\x7d'
      refine ⟨?_, ?_, gap, ?_, hfirst.gap_ne, hfirst.gap_blank, hfirst.name, hheader, hbody⟩
      · simp only [hstop, Text.byteLength_append, Text.byteLength_cons, Text.byteLength_nil]
        omega
      · simp only [hstop, Text.byteLength_append, Text.byteLength_cons, Text.byteLength_nil]
        omega
      · have ht : ahead ++ ("class".toList ++ gap ++ name ++ (header ++ '\x7b' :: (body ++ '\x7d' :: rest))) =
            ahead ++ ("class".toList ++ gap ++ name ++ header ++ '\x7b' :: (body ++ ['\x7d'])) ++ rest := by
          simp
        rw [ht, Text.slice_append rfl hstop]
        simp
    · exact ih c hc

/-- In multi mode the classes of a text are those of the scan from its start, and those of repeated
searches for the pattern of a block. They stand one behind the other, and each is `class`, blanks,
a name, a header up to the first opening brace and a body up to the first closing one. -/
theorem all_eq_iff_blockScan (t : Text) :
    (∀ cs, locate .multi t = cs ↔ BlockScan t 0 cs) ∧
    (∀ cs : List SourceClass, locate .multi t = cs ↔ Pattern.classBlock.Hits 0 none t (cs.map asHit)) ∧
    (locate .multi t).Pairwise (fun c d => c.span.stop ≤ d.span.start) ∧
    ∀ c ∈ locate .multi t, c.span.start < c.span.stop ∧ c.span.stop ≤ t.byteLength ∧
      ∃ gap, t.slice c.span = "class".toList ++ gap ++ c.name ++ c.header ++ "\x7b" ++ c.body ++ "\x7d" ∧
        gap ≠ [] ∧ (∀ d ∈ gap, isBlank d = true) ∧ c.name.IsIdentifier ∧
        '\x7b' ∉ c.header ∧ '\x7d' ∉ c.body := by
  have hscan : BlockScan t 0 (locate .multi t) := blockScan_allFrom 0 none t [] rfl rfl
  have hhits : Pattern.classBlock.Hits 0 none t ((locate .multi t).map asHit) := hits_allFrom 0 none t
  refine ⟨fun cs => ⟨?_, fun h => h.allFrom_eq [] t rfl rfl⟩, fun cs => ⟨?_, ?_⟩, ?_, ?_⟩
  · rintro rfl
    exact hscan
  · rintro rfl
    exact hhits
  · intro h
    exact (List.map_inj_right fun _ _ e => asHit_injective e).mp (hhits.unique h)
  · exact List.pairwise_map.mp (scan_locate .multi t).cuts.pairwise
  · exact hscan.exists_slice

/-- A heading in the header of a block, and one behind it whose block is not closed. -/
def unclosed : Text := "class A of class B \x7b n \x7d class C \x7b"

theorem all_eq_iff_blockScan_unclosed : ∃ c, locate .multi unclosed = [c] ∧ c.name = "A".toList ∧
    BlockScan unclosed 0 [c] ∧ Pattern.classBlock.Hits 0 none unclosed [c.asHit] ∧
    ∃ gap, unclosed.slice c.span =
      "class".toList ++ gap ++ c.name ++ c.header ++ "\x7b" ++ c.body ++ "\x7d" := by
  obtain ⟨hscan, hhits, -, hslice⟩ := all_eq_iff_blockScan unclosed
  have h : locate .multi unclosed = [⟨"A", " of class B ", " n ", ⟨0, 24⟩⟩] := by decide +kernel
  obtain ⟨-, -, gap, hgap, -⟩ := hslice _ (by rw [h]; exact List.mem_singleton_self _)
  exact ⟨_, h, rfl, (hscan _).mp h, (hhits _).mp h, gap, hgap⟩

end SourceClass

end DartTransfer

import DartTransfer.Proofs.Blocks

/-!
# The first class in both modes

Both modes look at the first heading of a text. Single mode takes it, whatever follows
(`SourceClass.locate_single_of_find?`), as the search for the pattern of a heading does. Multi mode
takes it if single mode has a closing brace in the body, and then cuts the body there; if not, it takes
nothing at all (`SourceClass.locate_multi_of_mem_single`). So the two agree on the first class.
-/

namespace DartTransfer

namespace Text

/-- Nothing is left behind the end of a text. -/
theorem dropBytes_succ_byteLength (t : Text) : dropBytes (byteLength t + 1) t = [] := by
  induction t with
  | nil => rfl
  | cons c t ih =>
    rw [dropBytes, byteLength_cons, if_pos (by omega)]
    rwa [show c.utf8Size + byteLength t + 1 - c.utf8Size = byteLength t + 1 by omega]

/-- The text ahead of the first `c`, and the rest from there on. -/
theorem exists_append_head? (c : Char) (t : Text) :
    ∃ s r, t = s ++ r ∧ c ∉ s ∧ (r = [] ∨ ∃ u, r = c :: u) := by
  by_cases hc : c ∈ t
  · obtain ⟨s, u, rfl, hs⟩ := List.eq_append_cons_of_mem hc
    exact ⟨s, c :: u, rfl, hs, .inr ⟨u, rfl⟩⟩
  · exact ⟨t, [], (List.append_nil t).symm, hc, .inl rfl⟩

end Text

namespace SourceClass
variable {t skipped header tail body : Text} {h : Heading} {d : SourceClass}

theorem locate_single_of_find? (hfind : Heading.find? none t = some (skipped, h))
    (hrest : h.rest = header ++ tail) (hheader : '\x7b' ∉ header)
    (htail : tail = [] ∨ ∃ u, tail = '\x7b' :: u) :
    locate .single t = [⟨h.name, header, tail.drop 1, ⟨skipped.byteLength, t.byteLength⟩⟩] := by
  have hne : ∀ c ∈ header, (c != '\x7b') = true :=
    fun c hc => bne_iff_ne.mpr fun e => hheader (e ▸ hc)
  have hstop : ∀ c ∈ tail.head?, (c != '\x7b') = false := by
    rcases htail with rfl | ⟨u, rfl⟩ <;> simp
  simp [locate, first?, hfind, hrest, Text.takeWhile_run hne hstop, Text.dropWhile_run hne hstop]

theorem locate_eq_nil (hfind : Heading.find? none t = none) (m : Discovery) : locate m t = [] := by
  cases m with
  | single => simp [locate, first?, hfind]
  | multi => exact allFrom_of_noHeading hfind

theorem locate_multi_of_noOpening (hfind : Heading.find? none t = some (skipped, h))
    (hrest : '\x7b' ∉ h.rest) : locate .multi t = [] :=
  allFrom_of_noOpening hfind (Text.splitAt?_eq_none_iff.mpr hrest)

theorem locate_multi_of_noClosing (hfind : Heading.find? none t = some (skipped, h))
    (hrest : h.rest = header ++ '\x7b' :: body) (hheader : '\x7b' ∉ header) (hbody : '\x7d' ∉ body) :
    locate .multi t = [] :=
  allFrom_of_noClosing hfind (Text.splitAt?_eq_some_iff.mpr ⟨hrest, hheader⟩)
    (Text.splitAt?_eq_none_iff.mpr hbody)

theorem exists_locate_multi (hfind : Heading.find? none t = some (skipped, h))
    (hrest : h.rest = header ++ '\x7b' :: (body ++ '\x7d' :: tail)) (hheader : '\x7b' ∉ header)
    (hbody : '\x7d' ∉ body) :
    ∃ stop cs, locate .multi t = ⟨h.name, header, body, ⟨skipped.byteLength, stop⟩⟩ :: cs := by
  rw [locate, all, allFrom_of_block hfind (Text.splitAt?_eq_some_iff.mpr ⟨hrest, hheader⟩)
    (Text.splitAt?_eq_some_iff.mpr ⟨rfl, hbody⟩)]
  dsimp only
  rw [Nat.zero_add]
  exact ⟨_, _, rfl⟩

/-- Single mode takes the first match of the pattern of a heading; the body starts one byte behind
it. -/
theorem mem_locate_single_iff : d ∈ locate .single t ↔
    ∃ s w, Pattern.classHeading.search? none t = some (s, w) ∧ w.groups = [d.name, d.header] ∧
      d.body = t.dropBytes ((s ++ w.taken).byteLength + 1) ∧ d.span = ⟨s.byteLength, t.byteLength⟩ := by
  cases hfind : Heading.find? none t with
  | none =>
    have hsearch : Pattern.classHeading.search? none t = none := Pattern.search?_of_find?_eq_none hfind
    simp [locate_eq_nil hfind, hsearch]
  | some found =>
    obtain ⟨skipped, h⟩ := found
    obtain ⟨header, tail, hrest, hheader, htail⟩ := Text.exists_append_head? '\x7b' h.rest
    have hstop : ∀ c ∈ tail.head?, c = '\x7b' := by
      rcases htail with rfl | ⟨u, rfl⟩ <;> simp
    have hsearch : Pattern.classHeading.search? none t =
        some (skipped, ⟨[h.name, header], h.lead ++ (h.name ++ header), tail⟩) :=
      Pattern.search?_of_find? hfind fun b => by
        rw [hrest]
        exact Pattern.head?_ways_header hheader hstop
    have hbody :
        t.dropBytes (Text.byteLength (skipped ++ (h.lead ++ (h.name ++ header))) + 1) = tail.drop 1 := by
      obtain ⟨t', rfl, hat, -⟩ := Heading.find?_eq_some hfind
      obtain rfl := Heading.append_of_at? hat
      rw [hrest]
      rcases htail with rfl | ⟨u, rfl⟩
      · simpa using Text.dropBytes_succ_byteLength (skipped ++ (h.lead ++ (h.name ++ header)))
      · have hone : Char.utf8Size '\x7b' = 1 := by decide
        simpa [hone, Nat.add_assoc] using
          Text.dropBytes_byteLength (skipped ++ (h.lead ++ (h.name ++ header)) ++ ['\x7b']) u
    rw [locate_single_of_find? hfind hrest hheader htail, List.mem_singleton, hsearch]
    constructor
    · rintro rfl
      exact ⟨skipped, _, rfl, rfl, hbody.symm, rfl⟩
    · rintro ⟨s, w, e, hgroups, hdbody, hspan⟩
      obtain ⟨rfl, rfl⟩ := Prod.mk.inj (Option.some.inj e)
      rw [hbody] at hdbody
      obtain ⟨name, header', body', span⟩ := d
      simp only [List.cons.injEq, and_true] at hgroups hdbody hspan
      rw [← hgroups.1, ← hgroups.2, hdbody, hspan]

theorem exists_of_mem_single (hd : d ∈ locate .single t) : ∃ skipped h header tail,
    Heading.find? none t = some (skipped, h) ∧ h.rest = header ++ tail ∧ '\x7b' ∉ header ∧
      (tail = [] ∨ ∃ u, tail = '\x7b' :: u) ∧
      d = ⟨h.name, header, tail.drop 1, ⟨skipped.byteLength, t.byteLength⟩⟩ := by
  cases hfind : Heading.find? none t with
  | none =>
    rw [locate_eq_nil hfind] at hd
    exact absurd hd List.not_mem_nil
  | some found =>
    obtain ⟨skipped, h⟩ := found
    obtain ⟨header, tail, hrest, hheader, htail⟩ := Text.exists_append_head? '\x7b' h.rest
    rw [locate_single_of_find? hfind hrest hheader htail] at hd
    exact ⟨skipped, h, header, tail, rfl, hrest, hheader, htail, List.mem_singleton.mp hd⟩

/-- What multi mode makes of the class of single mode. -/
theorem locate_multi_of_mem_single (hd : d ∈ locate .single t) :
    '\x7d' ∉ d.body ∧ locate .multi t = [] ∨
    ∃ c cs r, locate .multi t = c :: cs ∧ c.name = d.name ∧ c.header = d.header ∧
      c.span.start = d.span.start ∧ d.body = c.body ++ '\x7d' :: r ∧ '\x7d' ∉ c.body := by
  obtain ⟨skipped, h, header, tail, hfind, hrest, hheader, htail, rfl⟩ := exists_of_mem_single hd
  rcases htail with rfl | ⟨u, rfl⟩
  · rw [List.append_nil] at hrest
    exact .inl ⟨List.not_mem_nil, locate_multi_of_noOpening hfind (hrest ▸ hheader)⟩
  · by_cases hu : '\x7d' ∈ u
    · obtain ⟨body, rest, rfl, hbody⟩ := List.eq_append_cons_of_mem hu
      obtain ⟨stop, cs, hcs⟩ := exists_locate_multi hfind hrest hheader hbody
      exact .inr ⟨_, cs, rest, hcs, rfl, rfl, rfl, rfl, hbody⟩
    · exact .inl ⟨hu, locate_multi_of_noClosing hfind hrest hheader hu⟩

/-- The span of single mode holds all that follows the name; without a brace there is no body. -/
theorem exists_slice_of_mem_single (hd : d ∈ locate .single t) :
    d.span.stop = t.byteLength ∧ ∃ gap after,
      t.slice d.span = "class".toList ++ gap ++ d.name ++ after ∧ gap ≠ [] ∧
        (∀ c ∈ gap, isBlank c = true) ∧ (∀ c ∈ after.head?, isIdentifierPart c = false) ∧
        ('\x7b' ∉ after → d.body = []) := by
  obtain ⟨skipped, h, header, tail, hfind, hrest, hheader, htail, rfl⟩ := exists_of_mem_single hd
  obtain ⟨t', rfl, hat, -⟩ := Heading.find?_eq_some hfind
  obtain ⟨-, rfl, ⟨gap, hlead, hne, hgap⟩, -, hend⟩ := Heading.at?_eq_some_iff.mp hat
  refine ⟨rfl, gap, h.rest, ?_, hne, hgap, hend, ?_⟩
  · rw [← hlead, ← List.append_nil (skipped ++ _)]
    exact Text.slice_append rfl (by simp)
  · intro hopen
    rcases htail with rfl | ⟨u, rfl⟩
    · rfl
    · exact absurd (by rw [hrest]; simp) hopen

/-- Multi mode finds a class exactly when the class of single mode has a closing brace in its body.
Then its first class is that class with the body cut there; single mode runs to the end of the text. -/
theorem first_of_both (t : Text) :
    (∀ d, d ∈ locate .single t ↔ ∃ s w, Pattern.classHeading.search? none t = some (s, w) ∧
      w.groups = [d.name, d.header] ∧ d.body = t.dropBytes ((s ++ w.taken).byteLength + 1) ∧
        d.span = ⟨s.byteLength, t.byteLength⟩) ∧
    (locate .multi t ≠ [] ↔ ∃ d ∈ locate .single t, '\x7d' ∈ d.body) ∧
    ∀ d ∈ locate .single t, d.span.stop = t.byteLength ∧
      ('\x7d' ∈ d.body → ∃ c cs r, locate .multi t = c :: cs ∧ c.name = d.name ∧ c.header = d.header ∧
        c.span.start = d.span.start ∧ d.body = c.body ++ '\x7d' :: r ∧ '\x7d' ∉ c.body) ∧
      ∃ gap after, t.slice d.span = "class".toList ++ gap ++ d.name ++ after ∧
        gap ≠ [] ∧ (∀ c ∈ gap, isBlank c = true) ∧ (∀ c ∈ after.head?, isIdentifierPart c = false) ∧
        ('\x7b' ∉ after → d.body = [] ∧ locate .multi t = []) := by
  refine ⟨fun d => mem_locate_single_iff, ⟨?_, ?_⟩, ?_⟩
  · intro hne
    obtain ⟨d, hd⟩ : ∃ d, d ∈ locate .single t := by
      refine List.exists_mem_of_ne_nil _ fun hnil => hne (locate_eq_nil ?_ .multi)
      simpa [locate, first?] using hnil
    refine ⟨d, hd, ?_⟩
    rcases locate_multi_of_mem_single hd with ⟨-, hnil⟩ | ⟨c, cs, r, -, -, -, -, hbody, -⟩
    · exact absurd hnil hne
    · rw [hbody]
      simp
  · rintro ⟨d, hd, hbody⟩
    rcases locate_multi_of_mem_single hd with ⟨hnot, -⟩ | ⟨c, cs, r, hcs, -⟩
    · exact absurd hbody hnot
    · rw [hcs]
      exact List.cons_ne_nil c cs
  · intro d hd
    obtain ⟨hstop, gap, after, hslice, hne, hgap, hend, hopen⟩ := exists_slice_of_mem_single hd
    refine ⟨hstop, ?_, gap, after, hslice, hne, hgap, hend, ?_⟩
    · intro hbody
      rcases locate_multi_of_mem_single hd with ⟨hnot, -⟩ | hcs
      · exact absurd hbody hnot
      · exact hcs
    · intro hafter
      refine ⟨hopen hafter, ?_⟩
      rcases locate_multi_of_mem_single hd with ⟨-, hnil⟩ | ⟨c, cs, r, -, -, -, -, hbody, -⟩
      · exact hnil
      · rw [hopen hafter] at hbody
        exact absurd hbody (by simp)

/-- A class behind the word `class` in a comment, cut short by a brace of its constructor. -/
def constructed : Text := "// the class of A\nclass A \x7b\n  A(\x7brequired this.b\x7d);\n\x7d\n"

theorem first_of_both_constructed : ∃ d c cs r, locate .single constructed = [d] ∧
    d.body = "\n  A(\x7brequired this.b\x7d);\n\x7d\n".toList ∧ locate .multi constructed = c :: cs ∧
      c.name = "of".toList ∧ d.body = c.body ++ '\x7d' :: r ∧ '\x7d' ∉ c.body := by
  obtain ⟨-, -, h⟩ := first_of_both constructed
  have hsingle : locate .single constructed =
      [⟨"of", " A\nclass A ", "\n  A(\x7brequired this.b\x7d);\n\x7d\n", ⟨7, 54⟩⟩] := by decide +kernel
  obtain ⟨-, hboth, -⟩ := h _ (by rw [hsingle]; exact List.mem_singleton_self _)
  obtain ⟨c, cs, r, hcs, hname, -, -, hcut⟩ := hboth (by decide)
  exact ⟨_, c, cs, r, hsingle, rfl, hcs, hname, hcut⟩

end SourceClass

end DartTransfer

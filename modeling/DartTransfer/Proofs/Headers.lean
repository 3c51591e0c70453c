import DartTransfer.Proofs.Located

/-!
# Whose name a located class has

A header is all that stands between a name and the next opening brace, so a heading in it hides: the
name is that of the first heading from where the scan stands (`SourceClass.NamedBy`), and the brace
belongs to the last heading ahead of it. Which heading that is depends on what counts as code:
`Heading.Owns` knows the headings, braces and semicolons of code alone, and leaves it to the grammar of
comments and strings which these are. A located class owns its brace exactly when its heading and the
brace are code and no other heading of code and no semicolon of code comes in between
(`SourceClass.header_heading_iff`). A comment with the word `class` is enough to part the two
(`SourceClass.heading_in_header`).
-/

namespace DartTransfer

/-! ### The heading that a brace belongs to -/

namespace Heading
variable {code : Text → Prop} {t u k name : Text}

/-- A heading starts in the text behind `u`. -/
def StartsAt (t u : Text) : Prop := ∃ v, t = u ++ v ∧ (at? (Text.lastOr none u) v).isSome = true

/-- An opening brace stands between any two headings of the text. -/
def Separated (t : Text) : Prop := ∀ u v, StartsAt t u → StartsAt t (u ++ v) → v ≠ [] → '\x7b' ∈ v

/-- The heading behind `u` owns the opening brace behind `k`: both are code, no other heading of code starts
between the two, and no brace and no semicolon of code stands there. Whether a place is code is asked of the text
ahead of it. -/
structure Owns (code : Text → Prop) (t name u k : Text) : Prop where
  heading : ∃ v h, t = u ++ v ∧ at? (Text.lastOr none u) v = some h ∧ h.name = name
  brace : k ++ ['\x7b'] <+: t
  ahead : u <+: k
  heading_code : code u
  brace_code : code k
  last : ∀ w, u <+: w → w ≠ u → w <+: k → StartsAt t w → ¬ code w
  no_end : ∀ w c, u <+: w → w ++ [c] <+: k → c = '\x7b' ∨ c = ';' → ¬ code w

theorem startsAt_append_iff {v : Text} : StartsAt (u ++ v) u ↔ (at? (Text.lastOr none u) v).isSome = true := by
  constructor
  · rintro ⟨v', hv, hat⟩
    rwa [List.append_cancel_left hv]
  · exact fun hat => ⟨v, rfl, hat⟩

theorem Owns.startsAt (h : Owns code t name u k) : StartsAt t u := by
  obtain ⟨v, e, ht, hat, -⟩ := h.heading
  exact ⟨v, ht, by rw [hat]; rfl⟩

/-- A brace has one owner. -/
theorem Owns.unique {u' name' : Text} (h : Owns code t name u k) (h' : Owns code t name' u' k) :
    u = u' ∧ name = name' := by
  obtain rfl : u = u' := by
    refine Decidable.byContradiction fun hne => ?_
    rcases List.prefix_or_prefix_of_prefix h.ahead h'.ahead with hu | hu
    · exact h.last u' hu (Ne.symm hne) h'.ahead h'.startsAt h'.heading_code
    · exact h'.last u hu hne h.ahead h.startsAt h.heading_code
  obtain ⟨v, e, ht, hat, rfl⟩ := h.heading
  obtain ⟨v', e', ht', hat', rfl⟩ := h'.heading
  obtain rfl : v = v' := List.append_cancel_left (ht.symm.trans ht')
  exact ⟨rfl, congrArg Heading.name (Option.some.inj (hat.symm.trans hat'))⟩

theorem StartsAt.exists_cons (h : StartsAt t u) : ∃ v, t = u ++ 'c' :: v := by
  obtain ⟨v, ht, hat⟩ := h
  obtain ⟨-, gap, e, r, hv, -⟩ := at?_isSome_iff.mp hat
  exact ⟨"lass".toList ++ gap ++ e :: r, by rw [ht, hv]; rfl⟩

/-- The keyword of a heading has one `c`, its first character, and the blanks have none. -/
theorem eq_nil_of_lead_eq {before : Option Char} {s x y : Text} {h : Heading} (e : at? before s = some h)
    (hlead : h.lead = x ++ 'c' :: y) : x = [] := by
  obtain ⟨-, -, ⟨gap, hl, -, hgap⟩, -, -⟩ := at?_eq_some_iff.mp e
  cases x with
  | nil => rfl
  | cons d x =>
    have htail : x ++ 'c' :: y = "lass".toList ++ gap := (List.cons.inj (hlead.symm.trans hl)).2
    have hmem : 'c' ∈ "lass".toList ++ gap := htail ▸ List.mem_append_right x List.mem_cons_self
    rcases List.mem_append.mp hmem with hkeyword | hblank
    · exact absurd hkeyword (by decide)
    · exact absurd (hgap 'c' hblank) (by decide)

end Heading

namespace SourceClass
variable {d : Discovery} {t ahead skipped lead tail r : Text} {c : SourceClass} {cs cs' : List SourceClass}

/-! ### The heading that a class is named by -/

/-- A heading stands in the header exactly when one starts ahead of the brace that follows the
header. -/
theorem find?_header_iff (before : Option Char) {header tail : Text} (hh : '\x7b' ∉ header)
    (ht : tail = [] ∨ ∃ r, tail = '\x7b' :: r) :
    (Heading.find? before header).isSome = true ↔ ∃ u v, header ++ tail = u ++ v ∧ '\x7b' ∉ u ∧
      (Heading.at? (Text.lastOr before u) v).isSome = true := by
  rw [Heading.find?_isSome_iff]
  constructor
  · rintro ⟨u, v, rfl, hv⟩
    refine ⟨u, v ++ tail, by rw [List.append_assoc], fun hu => hh (List.mem_append_left _ hu), ?_⟩
    rcases ht with rfl | ⟨r, rfl⟩
    · rwa [List.append_nil]
    · rwa [Heading.at?_of_append_brace]
  · rintro ⟨u, v, huv, hu, hv⟩
    rcases ht with rfl | ⟨r, rfl⟩
    · exact ⟨u, v, by rw [← huv, List.append_nil], hv⟩
    · -- the brace is no part of `u`, so `u` ends within the header
      obtain ⟨e, hheader, rfl⟩ := Text.exists_of_append_eq_cons huv.symm hu
      rw [Heading.at?_of_append_brace] at hv
      exact ⟨u, e, hheader, hv⟩

/-- A class is read off the first heading, its header, and a tail that starts with the brace if
there is one. -/
theorem ReadAs.exists_tail {position : Nat} {before : Option Char} {skipped lead block rest : Text}
    (h : c.ReadAs position before t skipped lead block rest) :
    ∃ tail, t = skipped ++ (lead ++ c.name ++ (c.header ++ tail)) ∧
      Heading.at? (Text.lastOr before skipped) (lead ++ c.name ++ (c.header ++ tail)) =
        some ⟨lead, c.name, c.header ++ tail⟩ ∧
      (∀ u v, skipped = u ++ v → v ≠ [] →
        Heading.at? (Text.lastOr before u) (v ++ (lead ++ c.name ++ (c.header ++ tail))) = none) ∧
      (tail = [] ∧ c.body = [] ∨ ∃ r, tail = '\x7b' :: (c.body ++ r)) := by
  obtain ⟨t', ht, hat, hno⟩ := Heading.find?_eq_some h.heading
  obtain rfl : t' = lead ++ c.name ++ (c.header ++ block ++ rest) := Heading.append_of_at? hat
  rw [List.append_assoc c.header block rest] at ht hat hno
  refine ⟨block ++ rest, ht, hat, hno, ?_⟩
  rcases h.block_eq with ⟨hb, -⟩ | ⟨hb, hr⟩ | ⟨hb, hbody, hr⟩
  · exact .inr ⟨'\x7d' :: rest, by rw [hb]; simp⟩
  · exact .inr ⟨[], by rw [hb, hr]; simp⟩
  · exact .inl ⟨by rw [hb, hr]; rfl, hbody⟩

/-- The class has the name of the first heading behind `ahead`, which stands behind `skipped` and is `lead` and the
name; the header and then `tail`, from the next opening brace on, follow it. -/
structure NamedBy (t : Text) (c : SourceClass) (ahead skipped lead tail : Text) : Prop where
  append : t = ahead ++ skipped ++ (lead ++ c.name ++ (c.header ++ tail))
  start : c.span.start = (ahead ++ skipped).byteLength
  heading : Heading.at? (Text.lastOr none (ahead ++ skipped)) (lead ++ c.name ++ (c.header ++ tail)) =
    some ⟨lead, c.name, c.header ++ tail⟩
  first : ∀ u v, skipped = u ++ v → v ≠ [] → ¬ Heading.StartsAt t (ahead ++ u)
  no_brace : '\x7b' ∉ c.header
  tail_eq : tail = [] ∧ c.body = [] ∨ ∃ r, tail = '\x7b' :: (c.body ++ r)

theorem exists_namedBy (h : locate d t = cs ++ c :: cs') :
    ∃ ahead skipped lead tail, c.NamedBy t ahead skipped lead tail ∧
      ahead.byteLength = (cs.getLast?.map (·.span.stop)).getD 0 := by
  have hscan := scan_locate d t
  rw [h] at hscan
  obtain ⟨ahead, t', skipped, lead, block, rest, rfl, hpos, hc⟩ := hscan.exists_readAs
  obtain ⟨tail, rfl, hat, hno, htail⟩ := hc.exists_tail
  have hstart : c.span.start = (ahead ++ skipped).byteLength := by
    rw [hc.start, Text.byteLength_append, Nat.zero_add]
  simp only [← Text.lastOr_append] at hat hno
  refine ⟨ahead, skipped, lead, tail, ⟨(List.append_assoc ..).symm, hstart, hat, ?_, hc.no_brace, htail⟩,
    by simpa using hpos⟩
  rintro u v rfl hv
  rw [List.append_assoc u v, ← List.append_assoc ahead u, Heading.startsAt_append_iff, hno u v rfl hv]
  exact Bool.false_ne_true

namespace NamedBy

theorem lead_ne_nil (h : c.NamedBy t ahead skipped lead tail) : lead ≠ [] := by
  obtain ⟨-, -, ⟨gap, hlead, -⟩, -, -⟩ := Heading.at?_eq_some_iff.mp h.heading
  exact fun hnil => List.cons_ne_nil _ _ (hlead.symm.trans hnil)

theorem name_ne_nil (h : c.NamedBy t ahead skipped lead tail) : c.name ≠ [] :=
  (Heading.at?_eq_some_iff.mp h.heading).2.2.2.1.ne_nil

theorem startsAt (h : c.NamedBy t ahead skipped lead tail) : Heading.StartsAt t (ahead ++ skipped) := by
  rw [h.append, Heading.startsAt_append_iff, h.heading]
  rfl

/-- Another heading stands in the header exactly when one starts behind the name with no brace in between. -/
theorem find?_header_iff (h : c.NamedBy t ahead skipped lead tail) :
    (Heading.find? c.name.getLast? c.header).isSome = true ↔
      ∃ v, '\x7b' ∉ v ∧ Heading.StartsAt t (ahead ++ skipped ++ (lead ++ c.name ++ v)) := by
  have hbrace : tail = [] ∨ ∃ r, tail = '\x7b' :: r := by
    rcases h.tail_eq with ⟨hnil, -⟩ | ⟨r, hr⟩
    · exact .inl hnil
    · exact .inr ⟨_, hr⟩
  have hlast (v : Text) :
      Text.lastOr none (ahead ++ skipped ++ (lead ++ c.name ++ v)) = Text.lastOr c.name.getLast? v := by
    rw [Text.lastOr_append, Text.lastOr_append, Text.lastOr_append, Text.lastOr_of_ne_nil _ h.name_ne_nil]
  rw [SourceClass.find?_header_iff c.name.getLast? h.no_brace hbrace]
  constructor
  · rintro ⟨v, w, hvw, hv, hat⟩
    refine ⟨v, hv, w, ?_, by rwa [hlast]⟩
    rw [h.append, hvw]
    simp only [List.append_assoc]
  · rintro ⟨v, hv, w, hw, hat⟩
    rw [hlast] at hat
    rw [h.append, List.append_assoc (ahead ++ skipped), List.append_assoc (lead ++ c.name)] at hw
    exact ⟨v, w, List.append_cancel_left (List.append_cancel_left hw), hv, hat⟩

theorem find?_header_of_separated (h : c.NamedBy t ahead skipped lead tail) (hsep : Heading.Separated t) :
    Heading.find? c.name.getLast? c.header = none := by
  rw [← Option.not_isSome_iff_eq_none, h.find?_header_iff]
  rintro ⟨v, hv, hat⟩
  have hmem := hsep (ahead ++ skipped) (lead ++ c.name ++ v) h.startsAt hat (by simp [h.name_ne_nil])
  rcases List.mem_append.mp hmem with hmem | hmem
  · exact Heading.brace_notMem h.heading hmem
  · exact hv hmem

/-- Behind a place where a heading starts stands its keyword. -/
theorem exists_cons_of_startsAt {x : Text} (h : c.NamedBy t ahead skipped lead tail)
    (hat : Heading.StartsAt t (ahead ++ skipped ++ x)) :
    ∃ v, lead ++ c.name ++ (c.header ++ tail) = x ++ 'c' :: v := by
  obtain ⟨v, hv⟩ := hat.exists_cons
  rw [h.append, List.append_assoc (ahead ++ skipped)] at hv
  exact ⟨v, List.append_cancel_left hv⟩

theorem mem_of_startsAt {x y : Text} (h : c.NamedBy t ahead skipped lead ('\x7b' :: r))
    (hxy : c.name ++ c.header = x ++ y) (hat : Heading.StartsAt t (ahead ++ skipped ++ (lead ++ x))) : 'c' ∈ y := by
  obtain ⟨v, hv⟩ := h.exists_cons_of_startsAt hat
  have hcons : y ++ '\x7b' :: r = 'c' :: v := by
    rw [← List.append_assoc, List.append_assoc lead, hxy] at hv
    simpa using hv
  cases y with
  | nil => exact absurd (List.cons.inj hcons).1 (by decide)
  | cons e y =>
    obtain rfl := (List.cons.inj hcons).1
    exact List.mem_cons_self

/-- A heading that starts behind the one of the class, but ahead of the brace, starts in the name or the header. -/
theorem exists_of_startsAt {x y : Text} (h : c.NamedBy t ahead skipped lead tail)
    (hxy : lead ++ c.name ++ c.header = x ++ y) (hx : x ≠ [])
    (hat : Heading.StartsAt t (ahead ++ skipped ++ x)) : ∃ z, x = lead ++ z ∧ c.name ++ c.header = z ++ y := by
  rw [List.append_assoc] at hxy
  rcases List.append_eq_append_iff.mp hxy with ⟨z, hz, hy⟩ | ⟨z, hz, hy⟩
  · exact ⟨z, hz, hy⟩
  · cases z with
    | nil => exact ⟨[], by rw [hz, List.append_nil, List.append_nil], hy.symm⟩
    | cons b z =>
      -- the place is in the lead, behind its first character
      obtain ⟨v, hv⟩ := h.exists_cons_of_startsAt hat
      rw [List.append_assoc lead, hz, List.append_assoc x] at hv
      obtain ⟨rfl, -⟩ := List.cons.inj (List.append_cancel_left hv)
      exact absurd (Heading.eq_nil_of_lead_eq h.heading hz) hx

/-- The class owns the brace behind its header exactly when its heading and the brace are code, no other heading of
code starts in the name or the header, and no semicolon of code stands in the header. -/
theorem owns_iff (h : c.NamedBy t ahead skipped lead ('\x7b' :: r)) (code : Text → Prop) :
    Heading.Owns code t c.name (ahead ++ skipped) (ahead ++ skipped ++ (lead ++ c.name ++ c.header)) ↔
      code (ahead ++ skipped) ∧ code (ahead ++ skipped ++ (lead ++ c.name ++ c.header)) ∧
      (∀ x y, c.name ++ c.header = x ++ y → Heading.StartsAt t (ahead ++ skipped ++ (lead ++ x)) →
        ¬ code (ahead ++ skipped ++ (lead ++ x))) ∧
      ∀ x y, c.header = x ++ ';' :: y → ¬ code (ahead ++ skipped ++ (lead ++ c.name ++ x)) := by
  constructor
  · intro hown
    refine ⟨hown.heading_code, hown.brace_code, fun x y hxy hat => ?_, fun x y hxy => ?_⟩
    · refine hown.last _ (List.prefix_append ..) (by simp [h.lead_ne_nil]) ?_ hat
      rw [List.prefix_append_right_inj, List.append_assoc, hxy, List.prefix_append_right_inj]
      exact List.prefix_append ..
    · refine hown.no_end _ ';' (List.prefix_append ..) ?_ (.inr rfl)
      rw [List.append_assoc, List.prefix_append_right_inj, List.append_assoc, List.prefix_append_right_inj, hxy]
      exact ⟨y, by simp⟩
  · rintro ⟨hheading, hbrace, hlast, hend⟩
    refine ⟨⟨_, _, h.append, h.heading, rfl⟩, ⟨r, by rw [h.append]; simp⟩, List.prefix_append .., hheading, hbrace,
      ?_, ?_⟩
    · rintro _ ⟨x, rfl⟩ hne hpre hat
      obtain ⟨y, hxy⟩ := (List.prefix_append_right_inj _).mp hpre
      have hx : x ≠ [] := by
        rintro rfl
        exact hne (List.append_nil _)
      obtain ⟨z, rfl, hz⟩ := h.exists_of_startsAt hxy.symm hx hat
      exact hlast z y hz hat
    · rintro _ e ⟨x, rfl⟩ hpre he
      obtain ⟨y, hxy⟩ := hpre
      have hsplit : lead ++ c.name ++ c.header = x ++ e :: y := by
        rw [List.append_assoc (ahead ++ skipped), List.append_assoc (ahead ++ skipped)] at hxy
        simpa using (List.append_cancel_left hxy).symm
      rcases he with rfl | rfl
      · exact absurd (hsplit ▸ List.mem_append_right x List.mem_cons_self)
          (List.not_mem_append (Heading.brace_notMem h.heading) h.no_brace)
      · obtain ⟨z, rfl, hz⟩ := Text.exists_of_append_eq_cons hsplit (Heading.mark_notMem h.heading (by decide))
        exact hend z y hz

end NamedBy

/-- The name of a located class is that of the first heading from where the scan stands, and the
header is the text from there to the first opening brace. Another heading stands in it exactly when
one starts between the two, and none does where braces separate the headings of the text. Whatever is
taken for code, the class owns the brace exactly when its heading and the brace are code and neither a
heading nor a semicolon of code comes in between. -/
theorem header_heading_iff (h : locate d t = cs ++ c :: cs') :
    ∃ ahead skipped lead tail, c.NamedBy t ahead skipped lead tail ∧
      ahead.byteLength = (cs.getLast?.map (·.span.stop)).getD 0 ∧
      ((Heading.find? c.name.getLast? c.header).isSome = true ↔
        ∃ v, '\x7b' ∉ v ∧ Heading.StartsAt t (ahead ++ skipped ++ (lead ++ c.name ++ v))) ∧
      (Heading.Separated t → Heading.find? c.name.getLast? c.header = none) ∧
      ∀ code : Text → Prop, tail ≠ [] →
        (Heading.Owns code t c.name (ahead ++ skipped) (ahead ++ skipped ++ (lead ++ c.name ++ c.header)) ↔
          code (ahead ++ skipped) ∧ code (ahead ++ skipped ++ (lead ++ c.name ++ c.header)) ∧
          (∀ x y, c.name ++ c.header = x ++ y → Heading.StartsAt t (ahead ++ skipped ++ (lead ++ x)) →
            ¬ code (ahead ++ skipped ++ (lead ++ x))) ∧
          ∀ x y, c.header = x ++ ';' :: y → ¬ code (ahead ++ skipped ++ (lead ++ c.name ++ x))) := by
  obtain ⟨ahead, skipped, lead, tail, hnamed, hpos⟩ := exists_namedBy h
  refine ⟨ahead, skipped, lead, tail, hnamed, hpos, hnamed.find?_header_iff, hnamed.find?_header_of_separated,
    fun code htail => ?_⟩
  rcases hnamed.tail_eq with ⟨hnil, -⟩ | ⟨r, rfl⟩
  · exact absurd hnil htail
  · exact hnamed.owns_iff code

-- a comment may bring its own brace
example : (locate .single "/// As in class Foo \x7b \x7d\nclass Tag \x7b\n  final String label;\n\x7d\n").map (·.name) =
    ["Foo".toList] := by
  decide +kernel

/-- Two classes, the second with a heading in its header. -/
def twoTags : Text :=
  "class Tag \x7b\n  final int n;\n\x7d\n// the class of\nclass Tags \x7b\n  final Tag tag;\n\x7d\n"

/-- Whether a place is ahead of every `//` of its line, by the text ahead of it. -/
def isAheadOfLineComment (u : Text) : Bool := !Text.occursIn "//" (Text.splitEnd (· != '\n') u).2

/-- The first class owns its brace; the second is named by a comment, and another heading comes ahead of its brace. -/
theorem header_heading_iff_twoTags :
    ∃ b c, locate .multi twoTags = [b, c] ∧ b.name = "Tag".toList ∧ c.name = "of".toList ∧
      Heading.Owns (isAheadOfLineComment ·) twoTags b.name [] "class Tag ".toList ∧
      ∃ ahead skipped lead tail, c.NamedBy twoTags ahead skipped lead tail ∧ ahead.byteLength = b.span.stop ∧
        (∃ v, '\x7b' ∉ v ∧ Heading.StartsAt twoTags (ahead ++ skipped ++ (lead ++ c.name ++ v))) ∧
        ¬ Heading.Owns (isAheadOfLineComment ·) twoTags c.name (ahead ++ skipped)
          (ahead ++ skipped ++ (lead ++ c.name ++ c.header)) := by
  have hlocate : locate .multi twoTags =
      [] ++ ⟨"Tag", " ", "\n  final int n;\n", ⟨0, 28⟩⟩ ::
        [⟨"of", "\nclass Tags ", "\n  final Tag tag;\n", ⟨36, 76⟩⟩] := by
    decide +kernel
  have hlocate' : locate .multi twoTags = [_] ++ _ :: [] := hlocate
  refine ⟨_, _, hlocate, rfl, rfl, ?_, ?_⟩
  · obtain ⟨ahead, skipped, lead, tail, hnamed, -, -, -, howns⟩ := header_heading_iff hlocate
    have hstart : ahead ++ skipped = [] := Text.byteLength_eq_zero_iff.mp hnamed.start.symm
    have htwo := hnamed.append
    have hat := hnamed.heading
    rw [hstart, List.nil_append] at htwo
    rw [hstart, ← htwo] at hat
    obtain rfl : lead = "class ".toList := by
      have hlead : (Heading.at? (Text.lastOr none []) twoTags).map (·.lead) = some "class ".toList := by
        decide +kernel
      rw [hat] at hlead
      exact Option.some.inj hlead
    obtain ⟨r, rfl⟩ := hnamed.tail_eq.resolve_left fun hnil => absurd hnil.2 (by decide)
    rw [hstart] at howns
    refine (howns _ nofun).mpr ⟨by decide, by decide, fun x y hxy hat => ?_, fun x y hxy => ?_⟩
    · rw [← hstart] at hat
      exact absurd (hxy ▸ List.mem_append_right x (hnamed.mem_of_startsAt hxy hat)) (by decide)
    · exact absurd (hxy ▸ List.mem_append_right x List.mem_cons_self) (by decide)
  · obtain ⟨ahead, skipped, lead, tail, hnamed, hpos, hiff, -, howns⟩ := header_heading_iff hlocate'
    refine ⟨ahead, skipped, lead, tail, hnamed, hpos, hiff.mp (by decide +kernel), ?_⟩
    obtain ⟨r, rfl⟩ := hnamed.tail_eq.resolve_left fun hnil => absurd hnil.2 (by decide)
    rw [howns _ nofun]
    rintro ⟨hcode, -⟩
    have hplace : ahead ++ skipped = twoTags.takeBytes 36 := by
      rw [hnamed.append, show 36 = (ahead ++ skipped).byteLength from hnamed.start, Text.takeBytes_byteLength]
    rw [hplace] at hcode
    exact absurd hcode (by decide +kernel)

/-- A class whose comment has the word `class` in it. -/
def classInComment : Text := "/// The class of a tag.\nclass Tag \x7b\n  final String label;\n\x7d\n"

/-- The word in the comment gives the name, and the heading of the class ends up in the header. -/
theorem heading_in_header :
    (∃ c ∈ locate .single classInComment,
      c.name = "of".toList ∧ (Heading.find? c.name.getLast? c.header).isSome = true) ∧
    ∃ c ∈ locate .multi classInComment,
      c.name = "of".toList ∧ (Heading.find? c.name.getLast? c.header).isSome = true := by
  decide +kernel

end SourceClass

end DartTransfer

import DartTransfer.DataClass
import DartTransfer.Proofs.Cuts
import DartTransfer.Proofs.Headings

/-!
# Where located classes stand

`SourceClass.Scan position before t cs`: the classes `cs` are read off `t`, a text that starts at
`position` after the character `before`, one behind the other, each from the first heading of what
the one before it has left (`SourceClass.ReadAs`). Both ways to locate classes are such scans
(`SourceClass.scan_locate`), so the spans of located classes cut the text, and each of them holds
`class`, a name, a header and a body.
-/

namespace DartTransfer

namespace SourceClass

/-- `c` is read off `t` as the text `lead`, name, header and `block` between `skipped` and
`rest`. -/
structure ReadAs (position : Nat) (before : Option Char) (t : Text) (c : SourceClass)
    (skipped lead block rest : Text) : Prop where
  append : t = skipped ++ (lead ++ c.name ++ c.header ++ block) ++ rest
  heading : Heading.find? before t = some (skipped, ⟨lead, c.name, c.header ++ block ++ rest⟩)
  no_brace : '\x7b' ∉ c.header
  /-- A block is closed by a brace, or runs to the end of the text, or is missing. -/
  block_eq : block = '\x7b' :: (c.body ++ ['\x7d']) ∧ '\x7d' ∉ c.body ∨
    block = '\x7b' :: c.body ∧ rest = [] ∨ block = [] ∧ c.body = [] ∧ rest = []
  start : c.span.start = position + skipped.byteLength
  stop : c.span.stop = c.span.start + (lead ++ c.name ++ c.header ++ block).byteLength

def Scan (position : Nat) (before : Option Char) (t : Text) : List SourceClass → Prop
  | [] => True
  | c :: cs => ∃ skipped lead block rest, c.ReadAs position before t skipped lead block rest ∧
      Scan c.span.stop (Text.lastOr before (skipped ++ (lead ++ c.name ++ c.header ++ block))) rest cs

section
variable {position : Nat} {before : Option Char} {t : Text} {c : SourceClass}
  {cs cs' : List SourceClass}

theorem scan_first? (t : Text) : Scan 0 none t (first? t).toList := by
  cases e : first? t with
  | none => trivial
  | some c =>
    obtain ⟨⟨skipped, lead, name, r⟩, hfind, rfl⟩ := Option.map_eq_some_iff.mp e
    obtain ⟨rest, rfl, hat, -⟩ := Heading.find?_eq_some hfind
    obtain rfl : rest = lead ++ name ++ r := Heading.append_of_at? hat
    have hr : r.takeWhile (· != '\x7b') ++ r.dropWhile (· != '\x7b') = r :=
      List.takeWhile_append_dropWhile
    have hblock : r.dropWhile (· != '\x7b') = '\x7b' :: (r.dropWhile (· != '\x7b')).drop 1 ∨
        r.dropWhile (· != '\x7b') = [] := by
      cases hd : r.dropWhile (· != '\x7b') with
      | nil => exact .inr rfl
      | cons d u =>
        have hne := List.head?_dropWhile_not (· != '\x7b') r
        rw [hd] at hne
        obtain rfl : d = '\x7b' := by simpa using hne
        exact .inl rfl
    refine ⟨skipped, lead, r.dropWhile (· != '\x7b'), [], ?_, trivial⟩
    refine ⟨?_, ?_, ?_, ?_, ?_, ?_⟩
    · simp [hr]
    · simpa [hr] using hfind
    · intro hc
      simpa using Text.takeWhile_all hc
    · rcases hblock with h | h
      · exact .inr (.inl ⟨h, rfl⟩)
      · exact .inr (.inr ⟨h, by simp [h], rfl⟩)
    · simp
    · have := congrArg Text.byteLength hr
      simp only [Text.byteLength_append] at this ⊢
      omega

theorem scan_allFrom (position : Nat) (before : Option Char) (t : Text) :
    Scan position before t (allFrom position before t) := by
  fun_induction allFrom position before t with
  | case1 => trivial
  | case2 => trivial
  | case3 => trivial
  | case4 position before t skipped h hfind header r hopen body rest hclose start stop ih =>
    obtain ⟨rest', rfl, hat, -⟩ := Heading.find?_eq_some hfind
    obtain rfl : rest' = h.lead ++ h.name ++ h.rest := Heading.append_of_at? hat
    obtain ⟨lead, name, r'⟩ := h
    obtain ⟨hr, hheader⟩ := Text.splitAt?_eq_some_iff.mp hopen
    obtain ⟨rfl, hbody⟩ := Text.splitAt?_eq_some_iff.mp hclose
    obtain rfl : r' = header ++ '\x7b' :: (body ++ '\x7d' :: rest) := hr
    refine ⟨skipped, lead, '\x7b' :: (body ++ ['\x7d']), rest, ?_, ?_⟩
    · refine ⟨by simp, ?_, hheader, .inl ⟨rfl, hbody⟩, rfl, ?_⟩
      · rw [hfind]; simp
      · show start + _ = start + _
        simp
    · have hlast :
          Text.lastOr before (skipped ++ (lead ++ name ++ header ++ '\x7b' :: (body ++ ['\x7d']))) =
          some '\x7d' := by
        simpa using Text.lastOr_concat before (skipped ++ lead ++ name ++ header ++ '\x7b' :: body) '\x7d'
      rw [hlast]
      exact ih

theorem scan_locate (d : Discovery) (t : Text) : Scan 0 none t (locate d t) := by
  cases d with
  | single => exact scan_first? t
  | multi => exact scan_allFrom 0 none t

theorem Scan.cuts (h : Scan position before t cs) : Span.Cuts position t (cs.map (·.span)) := by
  induction cs generalizing position before t with
  | nil => trivial
  | cons c cs ih =>
    obtain ⟨skipped, lead, block, rest, hc, hcs⟩ := h
    exact ⟨skipped, _, rest, hc.append, hc.start, hc.stop, ih hcs⟩

/-- Each scanned class is read off what the classes before it have left. -/
theorem Scan.exists_readAs (h : Scan position before t (cs ++ c :: cs')) :
    ∃ ahead t' skipped lead block rest, t = ahead ++ t' ∧
      position + ahead.byteLength = (cs.getLast?.map (·.span.stop)).getD position ∧
      c.ReadAs (position + ahead.byteLength) (Text.lastOr before ahead) t' skipped lead block rest := by
  induction cs generalizing position before t with
  | nil =>
    obtain ⟨skipped, lead, block, rest, hc, -⟩ := h
    exact ⟨[], t, skipped, lead, block, rest, rfl, rfl, hc⟩
  | cons d cs ih =>
    obtain ⟨skipped, lead, block, rest, hd, hcs⟩ := h
    obtain ⟨ahead, t', skipped', lead', block', rest', hrest, hpos, hc⟩ := ih hcs
    have hstop :
        position + (skipped ++ (lead ++ d.name ++ d.header ++ block)).byteLength = d.span.stop := by
      rw [hd.stop, hd.start, Text.byteLength_append, Nat.add_assoc]
    refine ⟨skipped ++ (lead ++ d.name ++ d.header ++ block) ++ ahead, t', skipped', lead', block',
      rest', ?_, ?_, ?_⟩
    · rw [List.append_assoc _ ahead t', ← hrest]
      exact hd.append
    · rw [Text.byteLength_append, ← Nat.add_assoc, hstop, hpos]
      cases hl : cs.getLast? with
      | none => rw [List.getLast?_eq_none_iff.mp hl]; rfl
      | some e =>
        cases cs with
        | nil => simp at hl
        | cons f cs => rw [List.getLast?_cons_cons, hl]; rfl
    · rw [Text.byteLength_append, ← Nat.add_assoc, hstop, Text.lastOr_append]
      exact hc

theorem ReadAs.lead_eq {skipped lead block rest : Text}
    (h : c.ReadAs position before t skipped lead block rest) :
    ∃ gap, lead = "class".toList ++ gap ∧ gap ≠ [] ∧ ∀ d ∈ gap, isBlank d = true := by
  obtain ⟨_, -, hat, -⟩ := Heading.find?_eq_some h.heading
  exact (Heading.at?_eq_some_iff.mp hat).2.2.1

theorem ReadAs.name_isIdentifier {skipped lead block rest : Text}
    (h : c.ReadAs position before t skipped lead block rest) : c.name.IsIdentifier := by
  obtain ⟨_, -, hat, -⟩ := Heading.find?_eq_some h.heading
  exact (Heading.at?_eq_some_iff.mp hat).2.2.2.1

end

section
variable {d : Discovery} {t : Text} {c : SourceClass}

/-- A located class is read off a part of the text, and its span holds what is read. -/
theorem exists_readAs_of_mem_locate (hc : c ∈ locate d t) :
    ∃ position before t' skipped lead block rest, c.ReadAs position before t' skipped lead block rest ∧
      t.slice c.span = lead ++ c.name ++ c.header ++ block ∧
      c.span.stop + rest.byteLength = t.byteLength := by
  obtain ⟨cs, cs', hcs⟩ := List.append_of_mem hc
  have h := scan_locate d t
  rw [hcs] at h
  obtain ⟨ahead, t', skipped, lead, block, rest, rfl, -, hr⟩ := h.exists_readAs
  have hstart : c.span.start = (ahead ++ skipped).byteLength := by
    rw [hr.start, Text.byteLength_append, Nat.zero_add]
  refine ⟨_, _, t', skipped, lead, block, rest, hr, ?_, ?_⟩
  · rw [hr.append, ← List.append_assoc, ← List.append_assoc, Text.slice_append hstart hr.stop]
  · rw [hr.append, hr.stop, hstart]
    simp only [Text.byteLength_append, Nat.add_assoc]

theorem exists_slice_of_mem_locate (hc : c ∈ locate d t) :
    ∃ gap tail, t.slice c.span = "class".toList ++ gap ++ c.name ++ tail ∧ c.name.IsIdentifier := by
  obtain ⟨_, _, _, _, lead, block, _, hr, hslice, -⟩ := exists_readAs_of_mem_locate hc
  obtain ⟨gap, rfl, -⟩ := hr.lead_eq
  refine ⟨gap, c.header ++ block, ?_, hr.name_isIdentifier⟩
  rw [hslice, List.append_assoc _ c.header block]

/-- A located class is closed by a brace, or is the last thing in the text. -/
theorem getLast?_slice_of_mem_locate (hc : c ∈ locate d t) :
    '\x7d' ∈ (t.slice c.span).getLast? ∨ c.span.stop = t.byteLength := by
  obtain ⟨_, _, _, _, lead, block, rest, hr, hslice, hstop⟩ := exists_readAs_of_mem_locate hc
  have hend : rest = [] → c.span.stop = t.byteLength := by
    rintro rfl
    simpa using hstop
  rcases hr.block_eq with ⟨hblock, -⟩ | ⟨-, hrest⟩ | ⟨-, -, hrest⟩
  · refine .inl ?_
    rw [hslice, hblock, ← List.cons_append, ← List.append_assoc, List.getLast?_concat]
    rfl
  · exact .inr (hend hrest)
  · exact .inr (hend hrest)

end

end SourceClass

end DartTransfer

import DartTransfer.Proofs.CharacterClasses
import DartTransfer.Proofs.Runs

/-!
# Headings and where they stand

A heading is the word `class`, blanks and an identifier that nothing continues
(`Heading.at?_eq_some_iff`). The first heading of a text is the one ahead of which no other stands
(`Heading.find?_eq_some`), and a text has a first heading as soon as one stands anywhere in it
(`Heading.find?_isSome_iff`). No part of a heading is an opening brace, so a heading that starts
ahead of a brace ends ahead of it (`Heading.at?_of_append_brace`).
-/

namespace DartTransfer

namespace Text

theorem wordAt?_eq_some_iff {w t r : Text} {before : Option Char} :
    wordAt? w before t = some r ↔ before.any isWord = false ∧ t = w ++ r ∧
      r.head?.any isWord = false := by
  rw [wordAt?]
  split
  · next h => simp [h]
  · next h =>
    split
    · next r' hr =>
      rw [stripPrefix?_eq_some_iff] at hr
      subst hr
      split
      · next hw =>
        constructor
        · exact nofun
        · rintro ⟨-, e, hw'⟩
          rw [List.append_cancel_left e, hw'] at hw
          exact absurd hw Bool.false_ne_true
      · next hw =>
        constructor
        · rintro e
          cases e
          exact ⟨by simpa using h, rfl, by simpa using hw⟩
        · rintro ⟨-, e, -⟩
          rw [List.append_cancel_left e]
    · next hr =>
      constructor
      · exact nofun
      · rintro ⟨-, e, -⟩
        rw [stripPrefix?_eq_some_iff.mpr e] at hr
        exact absurd hr nofun

/-- The character ahead of what follows `s`, in a text that comes after the character `before`. -/
def lastOr (before : Option Char) (s : Text) : Option Char := s.getLast?.or before

@[simp] theorem lastOr_nil (before : Option Char) : lastOr before [] = before := rfl

@[simp] theorem lastOr_cons (before : Option Char) (c : Char) (s : Text) :
    lastOr before (c :: s) = lastOr (some c) s := by
  cases s with
  | nil => rfl
  | cons d s =>
    obtain ⟨e, he⟩ := Option.isSome_iff_exists.mp (List.getLast?_isSome.mpr (List.cons_ne_nil d s))
    simp [lastOr, List.getLast?_cons_cons, he]

theorem lastOr_append (before : Option Char) (s t : Text) :
    lastOr before (s ++ t) = lastOr (lastOr before s) t := by
  induction s generalizing before with
  | nil => rfl
  | cons c s ih => rw [List.cons_append, lastOr_cons, lastOr_cons, ih]

theorem lastOr_concat (before : Option Char) (s : Text) (c : Char) :
    lastOr before (s ++ [c]) = some c := by
  rw [lastOr_append]
  rfl

theorem lastOr_of_ne_nil {s : Text} (before : Option Char) (hs : s ≠ []) :
    lastOr before s = s.getLast? := by
  obtain ⟨c, hc⟩ := Option.isSome_iff_exists.mp (List.getLast?_isSome.mpr hs)
  rw [lastOr, hc]
  rfl

theorem exists_lastOr {s : Text} (before : Option Char) (hs : s ≠ []) :
    ∃ c ∈ s, lastOr before s = some c := by
  obtain ⟨c, hc⟩ := Option.isSome_iff_exists.mp (List.getLast?_isSome.mpr hs)
  exact ⟨c, List.mem_of_getLast? hc, by rw [lastOr_of_ne_nil before hs, hc]⟩

end Text

namespace Heading
variable {before : Option Char} {t skipped : Text} {h : Heading}

theorem at?_eq_some_iff :
    at? before t = some h ↔ before.any isWord = false ∧ t = h.lead ++ h.name ++ h.rest ∧
      (∃ gap, h.lead = "class".toList ++ gap ∧ gap ≠ [] ∧ ∀ c ∈ gap, isBlank c = true) ∧
      h.name.IsIdentifier ∧ ∀ c ∈ h.rest.head?, isIdentifierPart c = false := by
  constructor
  · intro e
    simp only [at?] at e
    split at e
    · simp at e
    · next r hr =>
      obtain ⟨hb, rfl, -⟩ := Text.wordAt?_eq_some_iff.mp hr
      split at e
      · simp at e
      · next hgap =>
        split at e
        · next n s hs =>
          cases e
          obtain ⟨hs, hn, hr⟩ := Text.identifier?_eq_some_iff.mp hs
          refine ⟨hb, ?_, ⟨_, rfl, by simpa using hgap, fun c hc => Text.takeWhile_all hc⟩, hn, hr⟩
          simp only [List.append_assoc, ← hs]
          rw [List.takeWhile_append_dropWhile]
        · simp at e
  · rintro ⟨hb, rfl, ⟨gap, hl, hne, hgap⟩, hn, hr⟩
    obtain ⟨lead, name, rest⟩ := h
    obtain rfl : lead = "class".toList ++ gap := hl
    have hstop : ∀ c ∈ (name ++ rest).head?, isBlank c = false := by
      obtain ⟨⟨d, hd, hs⟩, -⟩ := hn
      rw [List.head?_append, Option.mem_def.mp hd]
      intro c hc
      obtain rfl : d = c := Option.some.inj hc
      exact isBlank_of_isIdentifierPart (isIdentifierPart_of_isIdentifierStart hs)
    have hw :
        Text.wordAt? "class" before ("class".toList ++ gap ++ name ++ rest) =
          some (gap ++ (name ++ rest)) := by
      refine Text.wordAt?_eq_some_iff.mpr ⟨hb, by simp, ?_⟩
      obtain ⟨b, gap, rfl⟩ := List.exists_cons_of_ne_nil hne
      exact isWord_of_isBlank (hgap b (by simp))
    simp only [at?, hw, Text.takeWhile_run hgap hstop, Text.dropWhile_run hgap hstop]
    rw [if_neg (by simpa using hne), Text.identifier?_eq_some_iff.mpr ⟨rfl, hn, hr⟩]

/-- A heading stands at the text as soon as an identifier starts behind `class` and blanks. -/
theorem at?_isSome_iff : (at? before t).isSome = true ↔ before.any isWord = false ∧
    ∃ gap d r, t = "class".toList ++ gap ++ d :: r ∧ gap ≠ [] ∧ (∀ c ∈ gap, isBlank c = true) ∧
      isIdentifierStart d = true := by
  constructor
  · intro e
    obtain ⟨h, e⟩ := Option.isSome_iff_exists.mp e
    obtain ⟨hb, ht, ⟨gap, hl, hne, hgap⟩, ⟨⟨d, hd, hs⟩, -⟩, -⟩ := at?_eq_some_iff.mp e
    obtain ⟨n, hn⟩ := List.head?_eq_some_iff.mp hd
    exact ⟨hb, gap, d, n ++ h.rest, by rw [ht, hl, hn]; simp, hne, hgap, hs⟩
  · rintro ⟨hb, gap, d, r, rfl, hne, hgap, hs⟩
    obtain ⟨name, rest, hn⟩ : ∃ name rest, Text.identifier? (d :: r) = some (name, rest) :=
      ⟨_, _, by rw [Text.identifier?, if_pos hs]⟩
    obtain ⟨hr, hname, hend⟩ := Text.identifier?_eq_some_iff.mp hn
    have hat : at? before ("class".toList ++ gap ++ d :: r) = some ⟨"class".toList ++ gap, name, rest⟩ := by
      refine at?_eq_some_iff.mpr ⟨hb, ?_, ⟨gap, rfl, hne, hgap⟩, hname, hend⟩
      rw [hr, List.append_assoc _ name rest]
    rw [hat]
    rfl

theorem append_of_at? (e : at? before t = some h) : t = h.lead ++ h.name ++ h.rest :=
  (at?_eq_some_iff.mp e).2.1

theorem find?_of_at? (e : at? before t = some h) : find? before t = some ([], h) := by
  cases t with
  | nil => simp [at?, Text.wordAt?, Text.stripPrefix?] at e
  | cons c t => rw [find?, e]

/-- The first heading stands behind `skipped`, and none stands ahead of it. -/
theorem find?_eq_some (e : find? before t = some (skipped, h)) :
    ∃ rest, t = skipped ++ rest ∧ at? (Text.lastOr before skipped) rest = some h ∧
      ∀ u v, skipped = u ++ v → v ≠ [] → at? (Text.lastOr before u) (v ++ rest) = none := by
  induction t generalizing before skipped with
  | nil => simp [find?] at e
  | cons c t ih =>
    rw [find?] at e
    split at e
    · next h' hh =>
      cases e
      refine ⟨c :: t, rfl, hh, ?_⟩
      intro u v huv hv
      exact absurd (List.append_eq_nil_iff.mp huv.symm).2 hv
    · next hnone =>
      obtain ⟨⟨s, h'⟩, e', e''⟩ := Option.map_eq_some_iff.mp e
      cases e''
      obtain ⟨rest, rfl, hat, hno⟩ := ih e'
      refine ⟨rest, rfl, by rwa [Text.lastOr_cons], ?_⟩
      intro u v huv hv
      cases u with
      | nil =>
        obtain rfl : v = c :: s := huv.symm
        exact hnone
      | cons d u =>
        rw [List.cons_append] at huv
        obtain ⟨rfl, hs⟩ := List.cons.inj huv
        rw [Text.lastOr_cons]
        exact hno u v hs hv

theorem find?_eq_some_iff : find? before t = some (skipped, h) ↔
    ∃ rest, t = skipped ++ rest ∧ at? (Text.lastOr before skipped) rest = some h ∧
      ∀ u v, skipped = u ++ v → v ≠ [] → at? (Text.lastOr before u) (v ++ rest) = none := by
  refine ⟨find?_eq_some, ?_⟩
  rintro ⟨rest, rfl, hat, hno⟩
  induction skipped generalizing before with
  | nil => exact find?_of_at? hat
  | cons c s ih =>
    have hc : at? before (c :: (s ++ rest)) = none := hno [] (c :: s) rfl (List.cons_ne_nil c s)
    rw [Text.lastOr_cons] at hat
    rw [List.cons_append, find?, hc, ih hat]
    · rfl
    · intro u v huv hv
      have := hno (c :: u) v (by rw [huv, List.cons_append]) hv
      rwa [Text.lastOr_cons] at this

theorem find?_isSome_iff : (find? before t).isSome = true ↔
    ∃ u v, t = u ++ v ∧ (at? (Text.lastOr before u) v).isSome = true := by
  constructor
  · intro e
    obtain ⟨⟨skipped, h⟩, e⟩ := Option.isSome_iff_exists.mp e
    obtain ⟨rest, rfl, hat, -⟩ := find?_eq_some e
    exact ⟨skipped, rest, rfl, by rw [hat]; rfl⟩
  · rintro ⟨u, v, rfl, hv⟩
    induction u generalizing before with
    | nil =>
      cases v with
      | nil => simp [at?, Text.wordAt?, Text.stripPrefix?] at hv
      | cons c v =>
        obtain ⟨h, hh⟩ := Option.isSome_iff_exists.mp hv
        rw [List.nil_append, find?, show at? before (c :: v) = some h from hh]
        rfl
    | cons c u ih =>
      rw [List.cons_append, find?]
      split
      · rfl
      · rw [Option.isSome_map]
        exact ih (by rwa [Text.lastOr_cons] at hv)

theorem find?_eq_none_iff :
    find? before t = none ↔ ∀ u v, t = u ++ v → at? (Text.lastOr before u) v = none := by
  simp only [← Option.not_isSome_iff_eq_none, find?_isSome_iff, not_exists, not_and]

/-- No part of a heading is a mark. -/
theorem mark_notMem (e : at? before t = some h) {c : Char} (hc : c ∈ marks) : c ∉ h.lead ++ h.name := by
  obtain ⟨-, -, ⟨gap, hl, -, hgap⟩, hn, -⟩ := at?_eq_some_iff.mp e
  rw [hl, List.mem_append, List.mem_append]
  rintro ((hkeyword | hblank) | hname)
  · have hpart := List.all_eq_true.mp (by decide : "class".toList.all (fun d => !marks.elem d) = true) c hkeyword
    rw [List.elem_iff.mpr hc] at hpart
    exact Bool.noConfusion hpart
  · have hmark := List.all_eq_true.mp (by decide : marks.all (!isBlank ·) = true) c hc
    rw [hgap c hblank] at hmark
    exact Bool.noConfusion hmark
  · exact hn.notMem (isIdentifierPart_of_mem_marks hc) hname

theorem brace_notMem (e : at? before t = some h) : '\x7b' ∉ h.lead ++ h.name := mark_notMem e (by decide)

/-- A heading that starts ahead of a brace stands there whether the text goes on with the brace or
ends. -/
theorem at?_of_append_brace {r : Text} :
    (at? before (t ++ '\x7b' :: r)).isSome = (at? before t).isSome := by
  have hpart : isIdentifierPart '\x7b' = false := isIdentifierPart_of_mem_marks (by decide)
  rw [Bool.eq_iff_iff]
  constructor
  · intro e
    obtain ⟨h, e⟩ := Option.isSome_iff_exists.mp e
    have hbrace := brace_notMem e
    obtain ⟨hb, happ, hl, hn, hr⟩ := at?_eq_some_iff.mp e
    obtain ⟨u, hu, hrest⟩ := Text.exists_of_append_eq_cons happ.symm hbrace
    have hat : at? before t = some ⟨h.lead, h.name, u⟩ := by
      refine at?_eq_some_iff.mpr ⟨hb, hu, hl, hn, ?_⟩
      intro c hc
      exact hr c (by rw [hrest, List.head?_append, Option.mem_def.mp hc]; rfl)
    rw [hat]
    rfl
  · intro e
    obtain ⟨h, e⟩ := Option.isSome_iff_exists.mp e
    obtain ⟨hb, happ, hl, hn, hr⟩ := at?_eq_some_iff.mp e
    have hat : at? before (t ++ '\x7b' :: r) = some ⟨h.lead, h.name, h.rest ++ '\x7b' :: r⟩ := by
      refine at?_eq_some_iff.mpr ⟨hb, by rw [happ]; simp, hl, hn, ?_⟩
      intro c hc
      cases hrest : h.rest with
      | nil =>
        rw [hrest] at hc
        obtain rfl : '\x7b' = c := by simpa using hc
        exact hpart
      | cons d u =>
        rw [hrest] at hc
        exact hr c (by rw [hrest]; exact hc)
    rw [hat]
    rfl

end Heading

end DartTransfer

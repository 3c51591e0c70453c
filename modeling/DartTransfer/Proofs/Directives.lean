import Mathlib.Data.List.TakeWhile
import DartTransfer.Proofs.Comments
import DartTransfer.Proofs.Keys

/-!
# How a comment is read as a directive

A comment is of the form `key: payload` when letters are all that stands ahead of its first colon, blanks
apart, and its payload is on one line (`Directive.Keyed`). The key says which directive it is, in any
mixture of upper and lower case (`Directive.parse?_eq_enumMarker_iff`, `Directive.parse?_eq_parsing_iff`).
-/

namespace DartTransfer

namespace Text
variable {t lead tail : Text}

theorem trimStart_of_isBlank (h : ∀ c ∈ t, isBlank c = true) : trimStart t = [] := by
  rw [trimStart, List.dropWhile_eq_nil_iff]
  exact h

/-- A text is trimmed by taking the blanks off both of its ends. -/
theorem exists_trim (t : Text) : ∃ lead tail, t = lead ++ trim t ++ tail ∧
    (∀ c ∈ lead, isBlank c = true) ∧ ∀ c ∈ tail, isBlank c = true := by
  refine ⟨t.takeWhile isBlank, blankEnd (trimStart t), ?_, fun c hc => takeWhile_all hc,
    fun c hc => blankEnd_all hc⟩
  rw [List.append_assoc, trim, trimEnd_append_blankEnd]
  exact List.takeWhile_append_dropWhile.symm

instance (t : Text) : Decidable t.IsTrimmed :=
  decidable_of_iff (trim t = t) ⟨fun h => h ▸ isTrimmed_trim t, IsTrimmed.trim_eq⟩

theorem IsTrimmed.trim_run (h : IsTrimmed t) (hlead : ∀ c ∈ lead, isBlank c = true)
    (htail : ∀ c ∈ tail, isBlank c = true) : trim (lead ++ t ++ tail) = t := by
  have hstart : trimStart (lead ++ t ++ tail) = trimStart (t ++ tail) := by
    rw [List.append_assoc]
    exact List.dropWhile_append_of_pos hlead
  rw [trim, hstart]
  cases t with
  | nil => rw [List.nil_append, trimStart_of_isBlank htail]; rfl
  | cons c t =>
    have hhead : trimStart (c :: t ++ tail) = c :: t ++ tail := dropWhile_run (a := []) (by simp) h.start
    rw [hhead, trimEnd_run h.stop htail]

end Text

theorem isBlank_of_isAlpha {c : Char} (h : c.isAlpha = true) : isBlank c = false :=
  isBlank_of_isIdentifierPart (isIdentifierPart_of_isIdentifierStart (by rw [isIdentifierStart, h]; rfl))

theorem isAlpha_of_isBlank {c : Char} (h : isBlank c = true) : c.isAlpha = false := by
  rw [Bool.eq_false_iff]
  intro hc
  rw [isBlank_of_isAlpha hc] at h
  exact Bool.noConfusion h

namespace Directive
variable {comment key payload word : Text}

/-- The comment is `key: payload`, with blanks wherever they may stand. -/
structure Keyed (comment key payload : Text) : Prop where
  append : ∃ pad gap lead tail : Text, comment = pad ++ key ++ gap ++ ':' :: (lead ++ payload ++ tail) ∧
    ∀ c ∈ pad ++ gap ++ lead ++ tail, isBlank c = true
  key_ne : key ≠ []
  letters : ∀ c ∈ key, c.isAlpha = true
  trimmed : payload.IsTrimmed
  newline : '\n' ∉ payload

theorem keyed_of_keyAndPayload? (h : keyAndPayload? comment = some (key, payload)) :
    Keyed comment key payload := by
  simp only [keyAndPayload?] at h
  split at h
  · next r hr =>
    split at h
    · exact absurd h nofun
    · next hif =>
      obtain ⟨rfl, rfl⟩ := Prod.mk.inj (Option.some.inj h)
      rw [Bool.or_eq_true, not_or, List.isEmpty_iff, List.contains_iff_mem] at hif
      refine ⟨?_, hif.1, fun c hc => Text.takeWhile_all hc, Text.isTrimmed_trim r, hif.2⟩
      obtain ⟨lead, tail, hpayload, hlead, htail⟩ := Text.exists_trim r
      let t := Text.trimStart comment
      have hgap : t.dropWhile Char.isAlpha = (t.dropWhile Char.isAlpha).takeWhile isBlank ++ ':' :: r :=
        hr ▸ List.takeWhile_append_dropWhile.symm
      refine ⟨comment.takeWhile isBlank, (t.dropWhile Char.isAlpha).takeWhile isBlank, lead, tail, ?_, ?_⟩
      · rw [← hpayload, List.append_assoc _ _ (':' :: r), ← hgap, List.append_assoc,
          List.takeWhile_append_dropWhile]
        exact List.takeWhile_append_dropWhile.symm
      · simp only [List.mem_append]
        rintro c (((hc | hc) | hc) | hc)
        · exact Text.takeWhile_all hc
        · exact Text.takeWhile_all hc
        · exact hlead c hc
        · exact htail c hc
  · exact absurd h nofun

theorem keyAndPayload?_of_keyed (h : Keyed comment key payload) :
    keyAndPayload? comment = some (key, payload) := by
  obtain ⟨⟨pad, gap, lead, tail, rfl, hblank⟩, hne, hletters, htrimmed, hnewline⟩ := h
  simp only [List.mem_append, or_imp, forall_and] at hblank
  obtain ⟨⟨⟨hpad, hgap⟩, hlead⟩, htail⟩ := hblank
  obtain ⟨k, key, rfl⟩ := List.exists_cons_of_ne_nil hne
  set r := lead ++ payload ++ tail
  have hstart : Text.trimStart (pad ++ k :: key ++ gap ++ ':' :: r) = k :: key ++ (gap ++ ':' :: r) := by
    rw [List.append_assoc, List.append_assoc]
    refine Text.dropWhile_run hpad fun c hc => ?_
    obtain rfl : k = c := Option.some.inj hc
    exact isBlank_of_isAlpha (hletters k List.mem_cons_self)
  have hnext : ∀ c ∈ (gap ++ ':' :: r).head?, c.isAlpha = false := by
    intro c hc
    rcases gap with _ | ⟨b, gap⟩
    · obtain rfl : ':' = c := Option.some.inj hc
      decide
    · obtain rfl : b = c := Option.some.inj hc
      exact isAlpha_of_isBlank (hgap b List.mem_cons_self)
  have hcolon : Text.trimStart (gap ++ ':' :: r) = ':' :: r :=
    Text.dropWhile_run hgap fun c hc => Option.some.inj hc ▸ by decide
  simp only [keyAndPayload?, hstart, Text.takeWhile_run hletters hnext, Text.dropWhile_run hletters hnext,
    hcolon, r, htrimmed.trim_run hlead htail]
  rw [if_neg]
  rw [Bool.or_eq_true, not_or, List.contains_iff_mem]
  exact ⟨Bool.false_ne_true, hnewline⟩

theorem keyAndPayload?_eq_some_iff :
    keyAndPayload? comment = some (key, payload) ↔ Keyed comment key payload :=
  ⟨keyed_of_keyAndPayload?, keyAndPayload?_of_keyed⟩

/-- A comment has one key and one payload. -/
theorem Keyed.unique {key' payload' : Text} (h : Keyed comment key payload)
    (h' : Keyed comment key' payload') : key = key' ∧ payload = payload' := by
  rw [← keyAndPayload?_eq_some_iff] at h h'
  exact Prod.mk.inj (Option.some.inj (h.symm.trans h'))

/-! ### Keys -/

theorem sameLetters_iff {s t : Text} : sameLetters s t = true ↔ s.map Char.toLower = t.map Char.toLower := by
  rw [sameLetters, beq_iff_eq]

/-- Letters in another case are letters. -/
theorem isAlpha_of_sameLetters (h : sameLetters key word = true) (hw : word.all Char.isAlpha = true) :
    ∀ c ∈ key, c.isAlpha = true := by
  intro c hc
  have hmem : c.toLower ∈ word.map Char.toLower := by
    rw [← sameLetters_iff.mp h]
    exact List.mem_map_of_mem hc
  obtain ⟨d, hd, e⟩ := List.mem_map.mp hmem
  rw [← isAlpha_toLower, ← e, isAlpha_toLower]
  exact List.all_eq_true.mp hw d hd

/-- The comment marks its field as enum-valued. -/
def IsEnumMarker (comment : Text) : Prop :=
  ∃ key payload, Keyed comment key payload ∧ sameLetters key "type" ∧ sameLetters payload "enum"

theorem parse?_of_keyed (h : Keyed comment key payload) : parse? comment =
    if sameLetters key "type" then
      if sameLetters payload "enum" then some enumMarker else none
    else if sameLetters key "parsing" then
      match splitAtComma? {} payload with
      | none => none
      | some (s, r) =>
        if s.trim.isEmpty || r.trim.isEmpty then none else some (parsing s.trim r.trim)
    else none := by
  rewrite [parse?, keyAndPayload?_of_keyed h]
  rfl

theorem exists_keyed {directive : Directive} (h : parse? comment = some directive) :
    ∃ key payload, Keyed comment key payload := by
  rw [parse?] at h
  split at h
  · exact absurd h nofun
  · next key payload hkey => exact ⟨key, payload, keyed_of_keyAndPayload? hkey⟩

theorem parse?_eq_enumMarker_iff : parse? comment = some .enumMarker ↔ IsEnumMarker comment := by
  constructor
  · intro h
    obtain ⟨key, payload, hkeyed⟩ := exists_keyed h
    rw [parse?_of_keyed hkeyed] at h
    split at h
    · next htype =>
      split at h
      · next henum => exact ⟨key, payload, hkeyed, htype, henum⟩
      · exact absurd h nofun
    · split at h
      · split at h
        · exact absurd h nofun
        · split at h <;> exact absurd h nofun
      · exact absurd h nofun
  · rintro ⟨key, payload, hkeyed, htype, henum⟩
    rw [parse?_of_keyed hkeyed, if_pos htype, if_pos henum]

/-- The templates are the two sides of the separating comma, less the blanks around them. -/
structure GivesTemplates (payload decode encode : Text) : Prop where
  split : ∃ s r, splitAtComma? {} payload = some (s, r) ∧ decode = s.trim ∧ encode = r.trim
  decode_ne : decode ≠ []
  encode_ne : encode ≠ []

theorem parse?_eq_parsing_iff {decode encode : Text} : parse? comment = some (.parsing decode encode) ↔
    ∃ key payload, Keyed comment key payload ∧ sameLetters key "parsing" ∧
      GivesTemplates payload decode encode := by
  constructor
  · intro h
    obtain ⟨key, payload, hkeyed⟩ := exists_keyed h
    rw [parse?_of_keyed hkeyed] at h
    split at h
    · split at h <;> exact absurd h nofun
    · split at h
      · next hparsing =>
        split at h
        · exact absurd h nofun
        · next s r hsplit =>
          split at h
          · exact absurd h nofun
          · next hif =>
            obtain ⟨rfl, rfl⟩ := Directive.parsing.inj (Option.some.inj h)
            rw [Bool.or_eq_true, not_or, List.isEmpty_iff, List.isEmpty_iff] at hif
            exact ⟨key, payload, hkeyed, hparsing, ⟨s, r, hsplit, rfl, rfl⟩, hif.1, hif.2⟩
      · exact absurd h nofun
  · rintro ⟨key, payload, hkeyed, hparsing, ⟨s, r, hsplit, rfl, rfl⟩, hdecode, hencode⟩
    have htype : ¬ sameLetters key "type" = true := by
      rw [sameLetters_iff, sameLetters_iff.mp hparsing]
      decide
    rw [parse?_of_keyed hkeyed, if_neg htype, if_pos hparsing, hsplit]
    dsimp only
    rw [if_neg]
    rw [Bool.or_eq_true, not_or, List.isEmpty_iff, List.isEmpty_iff]
    exact ⟨hdecode, hencode⟩

end Directive

end DartTransfer

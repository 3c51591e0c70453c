import DartTransfer.Generation
import DartTransfer.Proofs.Headings

/-!
# The line that imports go below

The imports that a text lacks go in behind its last line ahead of the first class that starts with
`import` or `library` (`Text.LastImport`), and to the top if there is no such line
(`importEdit?_lastImport`). A line ends at its newline, or where the class starts; in both cases the
insertion stands at a cut of the text (`importEdit?_anchored`).
-/

namespace DartTransfer

namespace Text

theorem byteLength_takeBytes_le (n : Nat) (t : Text) : (takeBytes n t).byteLength ≤ n := by
  induction t generalizing n with
  | nil => simp [takeBytes]
  | cons c t ih =>
    rw [takeBytes]
    split
    · have := ih (n - c.utf8Size)
      rw [byteLength_cons]
      omega
    · simp

end Text

/-- The text ends in a line that starts with `import` or `library`. -/
def Text.EndsInImport (t : Text) : Prop :=
  ∃ front line, t = front ++ line ∧ '\n' ∉ line ∧ isImportLine line = true

/-- No line that follows a newline of the text starts with `import` or `library`. -/
def Text.NoImportBelow (t : Text) : Prop :=
  ∀ u v, t = u ++ '\n' :: v → isImportLine (v.takeWhile (· != '\n')) = false

/-- The last line of the text that starts with `import` or `library`, in its place. -/
structure Text.LastImport (t front line rest : Text) : Prop where
  append : t = front ++ line ++ rest
  starts : ∀ c ∈ front.getLast?, c = '\n'
  whole : '\n' ∉ line
  ends : ∀ c ∈ rest.head?, c = '\n'
  isImport : isImportLine line = true
  last : rest.NoImportBelow

theorem Text.LastImport.endsInImport {t front line rest : Text} (h : t.LastImport front line rest) :
    (front ++ line).EndsInImport :=
  ⟨front, line, rfl, h.whole, h.isImport⟩

namespace Text
variable {s t : Text}

theorem newline_notMem_line (t : Text) : '\n' ∉ t.takeWhile (· != '\n') :=
  fun hm => by simpa using takeWhile_all hm

theorem head?_behind_line (t : Text) : ∀ c ∈ (t.dropWhile (· != '\n')).head?, c = '\n' :=
  fun c hc => by simpa using head?_dropWhile hc

theorem noImportBelow_nil : NoImportBelow [] := fun _ _ h => by simp at h

theorem NoImportBelow.append (h : NoImportBelow t) (hs : '\n' ∉ s) : NoImportBelow (s ++ t) := by
  intro u v huv
  obtain ⟨u, rfl, rfl⟩ := exists_of_append_eq_cons huv hs
  exact h u v rfl

theorem NoImportBelow.newline (h : NoImportBelow t) (ht : isImportLine (t.takeWhile (· != '\n')) = false) :
    NoImportBelow ('\n' :: t) := by
  intro u v huv
  cases u with
  | nil => exact (List.cons.inj huv).2 ▸ ht
  | cons d u => exact h u v (List.cons.inj huv).2

end Text

theorem lastImportEnd?_eq_none {position : Nat} {t : Text} (h : lastImportEnd? position t = none) :
    Text.NoImportBelow ('\n' :: t) := by
  fun_induction lastImportEnd? position t with
  | case1 position t line stop here hnil =>
    have ht : t = line := by
      rw [← List.takeWhile_append_dropWhile (p := (· != '\n')) (l := t), hnil, List.append_nil]
    have hnone : isImportLine line = false := by simpa [here] using h
    refine Text.NoImportBelow.newline ?_ hnone
    have hbelow := Text.noImportBelow_nil.append t.newline_notMem_line
    rw [List.append_nil] at hbelow
    exact ht ▸ hbelow
  | case2 position t line stop here d r hcons ih =>
    have ht : t = line ++ d :: r := by rw [← hcons, List.takeWhile_append_dropWhile]
    have hd := t.head?_behind_line
    rw [hcons] at hd
    obtain rfl : d = '\n' := hd d rfl
    obtain ⟨hlater, hhere⟩ := Option.or_eq_none_iff.mp h
    have hnone : isImportLine line = false := by simpa [here] using hhere
    refine Text.NoImportBelow.newline ?_ hnone
    rw [ht]
    exact (ih hlater).append t.newline_notMem_line

theorem lastImportEnd?_eq_some {position stop : Nat} {t : Text} (h : lastImportEnd? position t = some stop) :
    ∃ front line rest, t.LastImport front line rest ∧ stop = position + (front ++ line).byteLength := by
  fun_induction lastImportEnd? position t with
  | case1 position t line stop' here hnil =>
    have ht : t = [] ++ line ++ [] := by
      rw [← List.takeWhile_append_dropWhile (p := (· != '\n')) (l := t), hnil]
      rfl
    obtain ⟨himport, hstop⟩ := Option.ite_none_right_eq_some.mp h
    obtain rfl : stop' = stop := Option.some.inj hstop
    exact ⟨[], line, [], ⟨ht, nofun, t.newline_notMem_line, nofun, himport, Text.noImportBelow_nil⟩, rfl⟩
  | case2 position t line stop' here d r hcons ih =>
    have ht : t = line ++ d :: r := by rw [← hcons, List.takeWhile_append_dropWhile]
    have hd := t.head?_behind_line
    rw [hcons] at hd
    obtain rfl : d = '\n' := hd d rfl
    rcases Option.or_eq_some_iff.mp h with h | ⟨hlater, h⟩
    · obtain ⟨front, last, rest, hlast, rfl⟩ := ih h
      have happend : t = line ++ '\n' :: front ++ last ++ rest := by rw [ht, hlast.append]; simp
      refine ⟨line ++ '\n' :: front, last, rest,
        ⟨happend, ?_, hlast.whole, hlast.ends, hlast.isImport, hlast.last⟩, ?_⟩
      · rw [List.getLast?_append, List.getLast?_cons, Option.some_or]
        rintro c hc
        obtain rfl := Option.some.inj hc
        cases hfront : front.getLast? with
        | none => rfl
        | some e => exact hlast.starts e hfront
      · have hsize : '\n'.utf8Size = 1 := rfl
        simp only [Text.byteLength_append, Text.byteLength_cons, hsize, stop']
        omega
    · obtain ⟨himport, hstop⟩ := Option.ite_none_right_eq_some.mp h
      obtain rfl : stop' = stop := Option.some.inj hstop
      exact ⟨[], line, '\n' :: r,
        ⟨ht, nofun, t.newline_notMem_line, hd, himport, lastImportEnd?_eq_none hlater⟩, rfl⟩

/-- The imports that are missing go below the last import line ahead of the first class, or to the top
of the text. -/
theorem importEdit?_lastImport {t : Text} {cs : List DataClass} {o : Options} {e : Edit}
    (h : importEdit? t cs o = some e) :
    ∃ c cs', cs = c :: cs' ∧ missingImports t cs o ≠ [] ∧
      ((∃ front line rest, (t.takeBytes c.span.start).LastImport front line rest ∧
          e = .insertion (front ++ line).byteLength
            ("\n".toList ++ Text.joinWith "\n" (missingImports t cs o))) ∨
        Text.NoImportBelow ('\n' :: t.takeBytes c.span.start) ∧
          e = .insertion 0 (Text.joinWith "\n" (missingImports t cs o) ++ "\n\n".toList)) := by
  unfold importEdit? at h
  split at h
  · simp at h
  · simp at h
  · next c cs' hne =>
    simp only at h
    split at h
    · next stop hstop =>
      cases h
      obtain ⟨front, line, rest, hlast, rfl⟩ := lastImportEnd?_eq_some hstop
      exact ⟨c, cs', rfl, hne, .inl ⟨front, line, rest, hlast, by rw [Nat.zero_add]⟩⟩
    · next hnone =>
      cases h
      exact ⟨c, cs', rfl, hne, .inr ⟨lastImportEnd?_eq_none hnone, rfl⟩⟩

theorem importEdit?_anchored {t : Text} {cs : List DataClass} {o : Options} {e : Edit}
    (h : importEdit? t cs o = some e) :
    ∃ c cs' ahead rest, cs = c :: cs' ∧ missingImports t cs o ≠ [] ∧ t = ahead ++ rest ∧
      e.span = ⟨ahead.byteLength, ahead.byteLength⟩ ∧ ahead.byteLength ≤ c.span.start ∧
        (ahead.EndsInImport ∧ (ahead = t.takeBytes c.span.start ∨ ∀ d ∈ rest.head?, d = '\n') ∧
            e.replacement = "\n".toList ++ Text.joinWith "\n" (missingImports t cs o) ∨
          ahead = [] ∧
            e.replacement = Text.joinWith "\n" (missingImports t cs o) ++ "\n\n".toList) := by
  obtain ⟨c, cs', hcs, hne, ⟨front, line, rest, hlast, rfl⟩ | ⟨-, rfl⟩⟩ := importEdit?_lastImport h
  · have hle := Text.byteLength_takeBytes_le c.span.start t
    rw [hlast.append, Text.byteLength_append] at hle
    refine ⟨c, cs', front ++ line, rest ++ t.dropBytes c.span.start, hcs, hne, ?_, rfl, by omega,
      .inl ⟨hlast.endsInImport, ?_, rfl⟩⟩
    · rw [← List.append_assoc, ← hlast.append, Text.takeBytes_append_dropBytes]
    · cases rest with
      | nil => exact .inl (by rw [hlast.append, List.append_nil])
      | cons d rest => exact .inr hlast.ends
  · exact ⟨c, cs', [], t, hcs, hne, rfl, rfl, Nat.zero_le _, .inr ⟨rfl, rfl⟩⟩

theorem importEdit?_eq_some {t : Text} {cs : List DataClass} {o : Options} {e : Edit}
    (h : importEdit? t cs o = some e) :
    ∃ c cs' ahead rest, cs = c :: cs' ∧ missingImports t cs o ≠ [] ∧ t = ahead ++ rest ∧
      e.span = ⟨ahead.byteLength, ahead.byteLength⟩ ∧ ahead.byteLength ≤ c.span.start ∧
        (e.replacement = "\n".toList ++ Text.joinWith "\n" (missingImports t cs o) ∨
          ahead = [] ∧
            e.replacement = Text.joinWith "\n" (missingImports t cs o) ++ "\n\n".toList) := by
  obtain ⟨c, cs', ahead, rest, hcs, hne, ht, hspan, hle, hrep⟩ := importEdit?_anchored h
  exact ⟨c, cs', ahead, rest, hcs, hne, ht, hspan, hle, hrep.imp_left (·.2.2)⟩

theorem importEdit?_eq_none_iff {t : Text} {cs : List DataClass} {o : Options} :
    importEdit? t cs o = none ↔ cs = [] ∨ missingImports t cs o = [] := by
  unfold importEdit?
  split
  · simp
  · next h => simp [h]
  · next c cs' hne =>
    have hne' : missingImports t (c :: cs') o ≠ [] := hne
    simp only
    split <;> simp [hne']

end DartTransfer

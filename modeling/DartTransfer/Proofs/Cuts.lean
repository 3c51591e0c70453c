import DartTransfer.Edit

/-!
# Spans that cut a text

`Span.Cuts position t ss`: the spans `ss` mark off pieces of `t`, a text that starts at `position`,
one behind the other. This is all that a batch of edits needs: a batch whose spans cut the text is
in order as it stands, has no fault and is applied (`Edit.applyAll_of_cuts`). Spans may be dropped
(`Cuts.sublist`), and an insertion may be added in front of the first one (`Cuts.insertion`).
-/

namespace DartTransfer

namespace Text

/-- Of two splits of one text, the one that comes first in bytes comes first in characters. -/
theorem exists_of_byteLength_le {a b c d : Text} (h : a ++ b = c ++ d)
    (hl : a.byteLength ≤ c.byteLength) : ∃ e, c = a ++ e ∧ b = e ++ d := by
  rcases List.append_eq_append_iff.mp h with ⟨e, hc, hb⟩ | ⟨e, ha, hd⟩
  · exact ⟨e, hc, hb⟩
  · cases e with
    | nil => exact ⟨[], by simpa using ha.symm, by simpa using hd.symm⟩
    | cons x e =>
      have := x.utf8Size_pos
      rw [ha, byteLength_append, byteLength_cons] at hl
      omega

theorem append_inj_of_byteLength {a b c d : Text} (h : a ++ b = c ++ d)
    (hl : a.byteLength = c.byteLength) : a = c ∧ b = d := by
  obtain ⟨e, rfl, rfl⟩ := exists_of_byteLength_le h (Nat.le_of_eq hl)
  have hnil : e = [] := byteLength_eq_zero_iff.mp (by rw [byteLength_append] at hl; omega)
  simp [hnil]

theorem slice_append {ahead piece rest : Text} {s : Span} (hs : s.start = ahead.byteLength)
    (he : s.stop = s.start + piece.byteLength) : (ahead ++ piece ++ rest).slice s = piece := by
  rw [slice, hs, List.append_assoc, dropBytes_byteLength, he, hs, Nat.add_sub_cancel_left,
    takeBytes_byteLength]

theorem slice_self (t : Text) (n : Nat) : t.slice ⟨n, n⟩ = [] := by
  rw [slice, Nat.sub_self]
  cases dropBytes n t with
  | nil => rfl
  | cons c t => rw [takeBytes, if_neg (Nat.not_le.mpr c.utf8Size_pos)]

end Text

namespace Span

/-- The spans mark off pieces of `t`, a text that starts at `position`, one behind the other. -/
def Cuts (position : Nat) (t : Text) : List Span → Prop
  | [] => True
  | s :: ss => ∃ ahead piece rest, t = ahead ++ piece ++ rest ∧ s.start = position + ahead.byteLength ∧
      s.stop = s.start + piece.byteLength ∧ Cuts s.stop rest ss

namespace Cuts
variable {position : Nat} {t : Text} {s : Span} {ss ss' : List Span}

/-- Text in front of a cut text belongs to what is ahead of the first piece. -/
theorem extend {front : Text} (h : Cuts (position + front.byteLength) t ss) :
    Cuts position (front ++ t) ss := by
  cases ss with
  | nil => trivial
  | cons s ss =>
    obtain ⟨ahead, piece, rest, rfl, hs, he, hr⟩ := h
    exact ⟨front ++ ahead, piece, rest, by simp, by rw [hs, Text.byteLength_append]; omega, he, hr⟩

theorem tail (h : Cuts position t (s :: ss)) : Cuts position t ss := by
  obtain ⟨ahead, piece, rest, rfl, hs, he, hr⟩ := h
  refine extend ?_
  rwa [Text.byteLength_append, ← Nat.add_assoc, ← hs, ← he]

theorem sublist (h : Cuts position t ss) (hs : ss'.Sublist ss) : Cuts position t ss' := by
  induction hs generalizing position t with
  | slnil => exact h
  | cons s _ ih => exact ih h.tail
  | cons_cons s _ ih =>
    obtain ⟨ahead, piece, rest, rfl, hs, he, hr⟩ := h
    exact ⟨ahead, piece, rest, rfl, hs, he, ih hr⟩

/-- An empty span at a cut ahead of the first piece may be added. -/
theorem insertion {ahead rest : Text} (h : Cuts position (ahead ++ rest) ss)
    (hle : ∀ s ∈ ss.head?, position + ahead.byteLength ≤ s.start) :
    Cuts position (ahead ++ rest) (⟨position + ahead.byteLength, position + ahead.byteLength⟩ :: ss) := by
  refine ⟨ahead, [], rest, by simp, rfl, by simp, ?_⟩
  cases ss with
  | nil => trivial
  | cons s ss =>
    obtain ⟨ahead', piece, rest', ht, hs, he, hr⟩ := h
    have hl := hle s rfl
    rw [List.append_assoc] at ht
    obtain ⟨gap, rfl, rfl⟩ := Text.exists_of_byteLength_le ht (by omega)
    refine ⟨gap, piece, rest', by simp, ?_, he, hr⟩
    rw [hs, Text.byteLength_append, Nat.add_assoc]

theorem le_start (h : Cuts position t ss) : ∀ s ∈ ss, position ≤ s.start := by
  induction ss generalizing position t with
  | nil => intro s hs; simp at hs
  | cons s ss ih =>
    obtain ⟨ahead, piece, rest, rfl, hs, he, hr⟩ := h
    intro s' hs'
    rcases List.mem_cons.mp hs' with rfl | hs'
    · omega
    · exact Nat.le_trans (by omega) (ih hr s' hs')

theorem pairwise (h : Cuts position t ss) : ss.Pairwise fun a b => a.stop ≤ b.start := by
  induction ss generalizing position t with
  | nil => exact .nil
  | cons s ss ih =>
    obtain ⟨ahead, piece, rest, rfl, hs, he, hr⟩ := h
    exact .cons hr.le_start (ih hr)

theorem exists_append (h : Cuts position t ss) (hs : s ∈ ss) :
    ∃ ahead piece rest, t = ahead ++ piece ++ rest ∧ s.start = position + ahead.byteLength ∧
      s.stop = s.start + piece.byteLength := by
  induction ss generalizing position t with
  | nil => simp at hs
  | cons s' ss ih =>
    rcases List.mem_cons.mp hs with rfl | hs
    · obtain ⟨ahead, piece, rest, ht, h₁, h₂, -⟩ := h
      exact ⟨ahead, piece, rest, ht, h₁, h₂⟩
    · exact ih h.tail hs

theorem start_le_stop (h : Cuts position t ss) (hs : s ∈ ss) : s.start ≤ s.stop := by
  obtain ⟨_, _, _, -, -, he⟩ := h.exists_append hs
  omega

theorem isIn (h : Cuts 0 t ss) (hs : s ∈ ss) : s.isIn t = true := by
  obtain ⟨ahead, piece, rest, rfl, h₁, h₂⟩ := h.exists_append hs
  simp only [Span.isIn, Bool.and_eq_true, decide_eq_true_eq, Text.byteLength_append]
  omega

theorem isCut (h : Cuts 0 t ss) (hs : s ∈ ss) : s.isCut t = true := by
  obtain ⟨ahead, piece, rest, rfl, h₁, h₂⟩ := h.exists_append hs
  have start : Text.isBoundary (ahead ++ piece ++ rest) s.start = true := by
    rw [h₁, Nat.zero_add, List.append_assoc]
    exact Text.isBoundary_byteLength ..
  have stop : Text.isBoundary (ahead ++ piece ++ rest) s.stop = true := by
    rw [h₂, h₁, Nat.zero_add, ← Text.byteLength_append]
    exact Text.isBoundary_byteLength ..
  rw [Span.isCut, start, stop, Bool.and_self]

end Cuts

end Span

namespace Edit
variable {t : Text} {es : List Edit}

theorem insertInOrder_of_cuts {position : Nat} {e : Edit}
    (h : Span.Cuts position t ((e :: es).map (·.span))) : insertInOrder e es = e :: es := by
  cases es with
  | nil => rfl
  | cons f es =>
    have hle : e.span.stop ≤ f.span.start := (List.pairwise_cons.mp h.pairwise).1 _ (by simp)
    have he := h.start_le_stop (s := e.span) (by simp)
    have hf := h.start_le_stop (s := f.span) (by simp)
    rw [insertInOrder, if_pos]
    simp only [Span.before, Bool.or_eq_true, Bool.and_eq_true, decide_eq_true_eq, beq_iff_eq]
    omega

theorem inOrder_of_cuts {position : Nat} (h : Span.Cuts position t (es.map (·.span))) :
    inOrder es = es := by
  induction es with
  | nil => rfl
  | cons e es ih =>
    have hes : inOrder es = es := ih (Span.Cuts.tail h)
    rw [inOrder] at hes ⊢
    rw [List.foldr_cons, hes, insertInOrder_of_cuts h]

theorem overlapFault?_of_cuts {position : Nat} (h : Span.Cuts position t (es.map (·.span))) :
    overlapFault? es = none := by
  induction es generalizing position with
  | nil => rfl
  | cons e es ih =>
    cases es with
    | nil => rfl
    | cons f es =>
      have hle : e.span.stop ≤ f.span.start := (List.pairwise_cons.mp h.pairwise).1 _ (by simp)
      rw [overlapFault?, if_neg (by omega)]
      exact ih (Span.Cuts.tail h)

/-- A batch whose spans cut the text is applied as it stands. -/
theorem applyAll_of_cuts (h : Span.Cuts 0 t (es.map (·.span))) :
    applyAll t es = .ok (splice 0 t es) := by
  have hnone : es.findSome? (spanFault? t) = none := by
    rw [List.findSome?_eq_none_iff]
    intro e he
    have hs : e.span ∈ es.map (·.span) := List.mem_map_of_mem he
    simp [spanFault?, h.isIn hs, h.isCut hs]
  rw [applyAll, inOrder_of_cuts h, hnone, overlapFault?_of_cuts h]
  rfl

theorem splice_cons {position : Nat} {e : Edit} {ahead piece rest : Text}
    (hs : e.span.start = position + ahead.byteLength)
    (he : e.span.stop = e.span.start + piece.byteLength) :
    splice position (ahead ++ piece ++ rest) (e :: es) =
      ahead ++ e.replacement ++ splice e.span.stop rest es := by
  have hstop : e.span.stop - position = (ahead ++ piece).byteLength := by
    rw [Text.byteLength_append]; omega
  have hstart : e.span.start - position = ahead.byteLength := by omega
  rw [splice, hstop, Text.dropBytes_byteLength, hstart, List.append_assoc ahead piece rest,
    Text.takeBytes_byteLength]

end Edit

end DartTransfer

import DartTransfer.Edit
import Mathlib.Data.List.Basic

/-!
# The order of application

`Edit.inOrder` puts a batch in order by start and end, and edits with one span keep their order
(`Edit.filter_inOrder`). Only one list is in order and keeps that (`Edit.IsOrdered.eq_of_filter`), so
it is the list that a stable sort returns (`Edit.inOrder_eq_mergeSort`). The spans in order are the
same for every permutation of the batch (`Edit.map_span_inOrder_of_perm`).
-/

namespace DartTransfer

namespace Span
variable {a b c : Span}

theorem before_iff : a.before b = true ↔ a.start < b.start ∨ a.start = b.start ∧ a.stop ≤ b.stop := by
  simp [before]

theorem before_refl (a : Span) : a.before a = true := before_iff.mpr (.inr ⟨rfl, Nat.le_refl _⟩)

theorem before_trans (hab : a.before b = true) (hbc : b.before c = true) : a.before c = true := by
  rw [before_iff] at *
  omega

theorem before_total (a b : Span) : (a.before b || b.before a) = true := by
  rw [Bool.or_eq_true, before_iff, before_iff]
  omega

theorem before_antisymm (hab : a.before b = true) (hba : b.before a = true) : a = b := by
  rw [before_iff] at *
  obtain ⟨start, stop⟩ := a
  obtain ⟨start', stop'⟩ := b
  simp only at hab hba
  rw [Span.mk.injEq]
  omega

end Span

namespace Edit
variable {e f : Edit} {es fs : List Edit}

/-- No edit comes behind one that it has to come before. -/
def IsOrdered (es : List Edit) : Prop := es.Pairwise fun a b => a.span.before b.span = true

theorem insertInOrder_perm (e : Edit) (es : List Edit) : (insertInOrder e es).Perm (e :: es) := by
  induction es with
  | nil => exact .refl _
  | cons f es ih =>
    rw [insertInOrder]
    split
    · exact .refl _
    · exact (ih.cons f).trans (.swap e f es)

theorem inOrder_perm (es : List Edit) : (inOrder es).Perm es := by
  induction es with
  | nil => exact .refl _
  | cons e es ih => exact (insertInOrder_perm e _).trans (ih.cons e)

theorem IsOrdered.insertInOrder (e : Edit) (h : IsOrdered es) : IsOrdered (insertInOrder e es) := by
  induction es with
  | nil => exact List.pairwise_singleton _ e
  | cons f es ih =>
    obtain ⟨hf, hes⟩ := List.pairwise_cons.mp h
    rw [Edit.insertInOrder]
    split
    · next hef =>
      refine List.pairwise_cons.mpr ⟨fun g hg => ?_, h⟩
      rcases List.mem_cons.mp hg with rfl | hg
      · exact hef
      · exact Span.before_trans hef (hf g hg)
    · next hef =>
      have hfe : f.span.before e.span = true := by
        have := Span.before_total e.span f.span
        simpa [hef] using this
      refine List.pairwise_cons.mpr ⟨fun g hg => ?_, ih hes⟩
      rcases List.mem_cons.mp ((insertInOrder_perm e es).mem_iff.mp hg) with rfl | hg
      · exact hfe
      · exact hf g hg

theorem inOrder_isOrdered (es : List Edit) : IsOrdered (inOrder es) := by
  induction es with
  | nil => exact .nil
  | cons e es ih => exact ih.insertInOrder e

/-! ### Edits with one span -/

theorem filter_insertInOrder (s : Span) (e : Edit) (es : List Edit) :
    (insertInOrder e es).filter (·.span == s) = (e :: es).filter (·.span == s) := by
  induction es with
  | nil => rfl
  | cons f es ih =>
    rw [insertInOrder]
    split
    · rfl
    · next hef =>
      -- `e` goes behind `f` only if their spans differ, so at most one of the two has the span `s`
      have hne : ¬ (e.span = s ∧ f.span = s) := by
        rintro ⟨rfl, hf⟩
        exact hef (hf ▸ Span.before_refl _)
      rw [List.filter_cons, ih, List.filter_cons, List.filter_cons, List.filter_cons]
      by_cases he : e.span = s <;> by_cases hf : f.span = s <;> simp_all

theorem filter_inOrder (s : Span) (es : List Edit) :
    (inOrder es).filter (·.span == s) = es.filter (·.span == s) := by
  induction es with
  | nil => rfl
  | cons e es ih =>
    have hcons : inOrder (e :: es) = insertInOrder e (inOrder es) := rfl
    rw [hcons, filter_insertInOrder, List.filter_cons, List.filter_cons, ih]

theorem mem_of_filter (h : ∀ s, es.filter (·.span == s) = fs.filter (·.span == s)) (he : e ∈ es) :
    e ∈ fs := by
  have : e ∈ es.filter (·.span == e.span) := List.mem_filter.mpr ⟨he, beq_self_eq_true _⟩
  rw [h] at this
  exact (List.mem_filter.mp this).1

/-- An ordered list is determined by the order of the edits of each span. -/
theorem IsOrdered.eq_of_filter (hes : IsOrdered es) (hfs : IsOrdered fs)
    (h : ∀ s, es.filter (·.span == s) = fs.filter (·.span == s)) : es = fs := by
  induction es generalizing fs with
  | nil =>
    refine (List.eq_nil_iff_forall_not_mem.mpr fun f hf => ?_).symm
    exact absurd (mem_of_filter (fun s => (h s).symm) hf) List.not_mem_nil
  | cons e es ih =>
    have he : e ∈ fs := mem_of_filter h List.mem_cons_self
    cases fs with
    | nil => exact absurd he List.not_mem_nil
    | cons f fs =>
      have hef : e.span.before f.span = true := by
        rcases List.mem_cons.mp (mem_of_filter (fun s => (h s).symm) (e := f) List.mem_cons_self) with
          rfl | hf
        · exact Span.before_refl _
        · exact (List.pairwise_cons.mp hes).1 f hf
      have hfe : f.span.before e.span = true := by
        rcases List.mem_cons.mp he with rfl | he
        · exact Span.before_refl _
        · exact (List.pairwise_cons.mp hfs).1 e he
      have hspan : f.span = e.span := Span.before_antisymm hfe hef
      obtain ⟨rfl, -⟩ : e = f ∧ _ := by
        have := h e.span
        rw [List.filter_cons_of_pos (by simp), List.filter_cons_of_pos (by simp [hspan])] at this
        exact List.cons.inj this
      rw [ih (List.pairwise_cons.mp hes).2 (List.pairwise_cons.mp hfs).2 fun s => ?_]
      have := h s
      rw [List.filter_cons, List.filter_cons] at this
      split at this
      · exact (List.cons.inj this).2
      · exact this

theorem inOrder_inOrder (es : List Edit) : inOrder (inOrder es) = inOrder es :=
  (inOrder_isOrdered _).eq_of_filter (inOrder_isOrdered _) fun s => filter_inOrder s _

/-- The order of application is that of a stable sort. -/
theorem inOrder_eq_mergeSort (es : List Edit) :
    inOrder es = es.mergeSort fun a b => a.span.before b.span := by
  have htrans (a b c : Edit) : a.span.before b.span = true → b.span.before c.span = true →
      a.span.before c.span = true := Span.before_trans
  have htotal (a b : Edit) : (a.span.before b.span || b.span.before a.span) = true :=
    Span.before_total a.span b.span
  refine (inOrder_isOrdered es).eq_of_filter (List.pairwise_mergeSort htrans htotal es) fun s => ?_
  have hsame : (es.filter (·.span == s)).Pairwise fun a b => a.span.before b.span = true := by
    refine List.pairwise_of_forall_mem_list fun a ha b hb => ?_
    rw [List.mem_filter, beq_iff_eq] at ha hb
    rw [ha.2, hb.2]
    exact Span.before_refl s
  -- edits with one span are in order as they stand, and a stable sort keeps what is in order
  have hsub := (List.sublist_mergeSort htrans htotal hsame List.filter_sublist).filter (·.span == s)
  rw [List.filter_filter] at hsub
  simp only [Bool.and_self] at hsub
  rw [filter_inOrder]
  exact hsub.eq_of_length ((List.mergeSort_perm es _).filter _).length_eq.symm

theorem map_span_inOrder_of_perm (h : es.Perm fs) :
    (inOrder es).map (·.span) = (inOrder fs).map (·.span) := by
  have hperm : ((inOrder es).map (·.span)).Perm ((inOrder fs).map (·.span)) :=
    (((inOrder_perm es).trans h).trans (inOrder_perm fs).symm).map _
  exact hperm.eq_of_pairwise (fun _ _ _ _ => Span.before_antisymm)
    (List.pairwise_map.mpr (inOrder_isOrdered es)) (List.pairwise_map.mpr (inOrder_isOrdered fs))

end Edit

end DartTransfer

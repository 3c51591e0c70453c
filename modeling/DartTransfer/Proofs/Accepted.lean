import DartTransfer.Proofs.Cuts
import DartTransfer.Proofs.Order

/-!
# Which batches are applied

A batch is valid when its spans lie in the text, fall between characters and are apart, each two of
them (`Edit.IsValid`). Of the ordered batch only neighbours are compared, which is enough since a
span that ends where it starts or later cannot be passed over (`Edit.pairwise_of_overlapFault?`); so a
batch is applied exactly when it is valid. Its spans then cut the text, and the result is the text
between them and the replacements by turns (`Edit.exists_weave`). The fault of another batch is read
off the spans in order, so it does not depend on the order of the batch (`Edit.applied_iff_valid`).
-/

namespace DartTransfer

/-- The texts of two lists by turns. -/
def Text.weave : List Text → List Text → Text
  | k :: ks, r :: rs => k ++ r ++ weave ks rs
  | ks, _ => ks.flatten

namespace Edit
variable {t r : Text} {e : Edit} {es fs : List Edit}

/-! ### Valid batches -/

structure IsValid (t : Text) (es : List Edit) : Prop where
  isIn : ∀ e ∈ es, e.span.start ≤ e.span.stop ∧ e.span.stop ≤ t.byteLength
  isCut : ∀ e ∈ es, t.isBoundary e.span.start = true ∧ t.isBoundary e.span.stop = true
  apart : es.Pairwise fun a b => a.span.stop ≤ b.span.start ∨ b.span.stop ≤ a.span.start

theorem spanFault?_eq_none_iff : spanFault? t e = none ↔
    (e.span.start ≤ e.span.stop ∧ e.span.stop ≤ t.byteLength) ∧
      t.isBoundary e.span.start = true ∧ t.isBoundary e.span.stop = true := by
  have hin : e.span.isIn t = true ↔ e.span.start ≤ e.span.stop ∧ e.span.stop ≤ t.byteLength := by
    simp [Span.isIn]
  have hcut : e.span.isCut t = true ↔
      t.isBoundary e.span.start = true ∧ t.isBoundary e.span.stop = true := by
    simp [Span.isCut]
  rw [← hin, ← hcut, spanFault?]
  cases e.span.isIn t <;> cases e.span.isCut t <;> simp

namespace IsValid

theorem perm (h : IsValid t es) (hp : es.Perm fs) : IsValid t fs where
  isIn e he := h.isIn e (hp.mem_iff.mpr he)
  isCut e he := h.isCut e (hp.mem_iff.mpr he)
  apart := hp.pairwise h.apart Or.symm

theorem tail (h : IsValid t (e :: es)) : IsValid t es where
  isIn f hf := h.isIn f (List.mem_cons_of_mem e hf)
  isCut f hf := h.isCut f (List.mem_cons_of_mem e hf)
  apart := (List.pairwise_cons.mp h.apart).2

theorem pairwise (h : IsValid t es) (ho : IsOrdered es) :
    es.Pairwise fun a b => a.span.stop ≤ b.span.start := by
  refine (ho.and h.apart).imp_of_mem fun {a b} ha hb hab => ?_
  have hin := h.isIn b hb
  rw [Span.before_iff] at hab
  omega

end IsValid

/-- Spans behind each other mark off pieces of a text, of which `rest` is what `front` leaves. -/
theorem cuts_of_pairwise (front : Text) {rest : Text} (hes : IsValid (front ++ rest) es)
    (hfront : ∀ e ∈ es, front.byteLength ≤ e.span.start)
    (hp : es.Pairwise fun a b => a.span.stop ≤ b.span.start) :
    Span.Cuts front.byteLength rest (es.map (·.span)) := by
  induction es generalizing front rest with
  | nil => trivial
  | cons e es ih =>
    obtain ⟨hbehind, hp⟩ := List.pairwise_cons.mp hp
    obtain ⟨hstart, hstop⟩ := hes.isCut e List.mem_cons_self
    have hle := (hes.isIn e List.mem_cons_self).1
    obtain ⟨upto, after, ht, hupto⟩ := Text.exists_append_of_isBoundary hstart
    obtain ⟨ahead, rfl, rfl⟩ := Text.exists_of_byteLength_le ht (hupto ▸ hfront e List.mem_cons_self)
    rw [← List.append_assoc] at hes hstop
    obtain ⟨upto, rest, ht, hupto'⟩ := Text.exists_append_of_isBoundary hstop
    obtain ⟨piece, rfl, rfl⟩ := Text.exists_of_byteLength_le ht (hupto'.symm ▸ hupto ▸ hle)
    refine ⟨ahead, piece, rest, (List.append_assoc ..).symm, ?_, ?_, ?_⟩
    · rw [← hupto, Text.byteLength_append]
    · rw [← hupto, ← hupto', Text.byteLength_append]
    · rw [← hupto']
      rw [← List.append_assoc] at hes
      exact ih _ hes.tail (fun f hf => hupto'.symm ▸ hbehind f hf) hp

theorem IsValid.cuts (h : IsValid t es) : Span.Cuts 0 t ((inOrder es).map (·.span)) := by
  have hes : IsValid t (inOrder es) := h.perm (inOrder_perm es).symm
  exact cuts_of_pairwise [] hes (fun _ _ => Nat.zero_le _) (hes.pairwise (inOrder_isOrdered es))

/-! ### Neighbours are enough -/

theorem pairwise_of_overlapFault? (hin : ∀ e ∈ es, e.span.start ≤ e.span.stop)
    (h : overlapFault? es = none) : es.Pairwise fun a b => a.span.stop ≤ b.span.start := by
  induction es with
  | nil => exact .nil
  | cons e es ih =>
    cases es with
    | nil => exact List.pairwise_singleton _ e
    | cons f es =>
      rw [overlapFault?] at h
      split at h
      · simp at h
      · next hef =>
        have hrest := ih (fun g hg => hin g (List.mem_cons_of_mem e hg)) h
        have hf := hin f (List.mem_cons_of_mem e List.mem_cons_self)
        refine List.pairwise_cons.mpr ⟨fun g hg => ?_, hrest⟩
        rcases List.mem_cons.mp hg with rfl | hg
        · omega
        · have := (List.pairwise_cons.mp hrest).1 g hg
          omega

theorem applyAll_inOrder (t : Text) (es : List Edit) : applyAll t (inOrder es) = applyAll t es := by
  rw [applyAll, inOrder_inOrder, applyAll]

theorem IsValid.applyAll (h : IsValid t es) : applyAll t es = .ok (splice 0 t (inOrder es)) := by
  rw [← applyAll_inOrder, applyAll_of_cuts h.cuts]

theorem isValid_of_applyAll (h : applyAll t es = .ok r) : IsValid t es := by
  rw [applyAll] at h
  cases hnone : ((inOrder es).findSome? (spanFault? t)).or (overlapFault? (inOrder es)) with
  | some fault =>
    rw [hnone] at h
    exact absurd h (by simp)
  | none =>
    obtain ⟨hspans, hoverlap⟩ := Option.or_eq_none_iff.mp hnone
    have hall (e : Edit) (he : e ∈ inOrder es) := spanFault?_eq_none_iff.mp
      (List.findSome?_eq_none_iff.mp hspans e he)
    refine IsValid.perm ⟨fun e he => (hall e he).1, fun e he => (hall e he).2, ?_⟩ (inOrder_perm es)
    exact (pairwise_of_overlapFault? (fun e he => (hall e he).1.1) hoverlap).imp .inl

/-! ### What is kept -/

/-- The spans that an ordered batch keeps of a text, of which the part from `position` to `stop` is
left. -/
def gaps (position stop : Nat) : List Edit → List Span
  | [] => [⟨position, stop⟩]
  | e :: es => ⟨position, e.span.start⟩ :: gaps e.span.stop stop es

theorem length_gaps (position stop : Nat) (es : List Edit) :
    (gaps position stop es).length = es.length + 1 := by
  induction es generalizing position with
  | nil => rfl
  | cons e es ih => rw [gaps, List.length_cons, ih, List.length_cons]

theorem cuts_gaps {position : Nat} (h : Span.Cuts position t (es.map (·.span))) :
    Span.Cuts position t (gaps position (position + t.byteLength) es) := by
  induction es generalizing position t with
  | nil => exact ⟨[], t, [], by simp, rfl, rfl, trivial⟩
  | cons e es ih =>
    obtain ⟨ahead, piece, rest, rfl, hs, he, hr⟩ := h
    dsimp only at hs he
    have hstop : position + (ahead ++ piece ++ rest).byteLength = e.span.stop + rest.byteLength := by
      rw [Text.byteLength_append, Text.byteLength_append]
      omega
    refine ⟨[], ahead, piece ++ rest, by simp, rfl, hs, ?_⟩
    rw [hstop]
    exact Span.Cuts.extend (he ▸ ih hr)

/-- An ordered batch takes out its pieces and puts in its replacements, between the same texts. -/
theorem exists_weave (front : Text) {rest : Text}
    (h : Span.Cuts front.byteLength rest (es.map (·.span))) :
    let kept := (gaps front.byteLength (front ++ rest).byteLength es).map (front ++ rest).slice
    rest = Text.weave kept (es.map fun e => (front ++ rest).slice e.span) ∧
      splice front.byteLength rest es = Text.weave kept (es.map (·.replacement)) := by
  induction es generalizing front rest with
  | nil =>
    have hslice : (front ++ rest).slice ⟨front.byteLength, (front ++ rest).byteLength⟩ = rest := by
      have hall : (front ++ rest ++ []).slice ⟨front.byteLength, (front ++ rest).byteLength⟩ = rest :=
        Text.slice_append rfl (Text.byteLength_append ..)
      rwa [List.append_nil] at hall
    simp only [gaps, List.map_cons, List.map_nil, Text.weave, splice, hslice, List.flatten_cons,
      List.flatten_nil, List.append_nil, and_self]
  | cons e es ih =>
    obtain ⟨ahead, piece, rest, rfl, hs, he, hr⟩ := h
    dsimp only at hs he hr
    have hfront : e.span.stop = (front ++ ahead ++ piece).byteLength := by
      rw [Text.byteLength_append, Text.byteLength_append]
      omega
    have hahead : (front ++ (ahead ++ piece ++ rest)).slice ⟨front.byteLength, e.span.start⟩ = ahead := by
      rw [show front ++ (ahead ++ piece ++ rest) = front ++ ahead ++ (piece ++ rest) by simp]
      exact Text.slice_append rfl hs
    have hpiece : (front ++ (ahead ++ piece ++ rest)).slice e.span = piece := by
      rw [show front ++ (ahead ++ piece ++ rest) = front ++ ahead ++ piece ++ rest by simp]
      exact Text.slice_append (by rw [hs, Text.byteLength_append]) he
    rw [hfront] at hr
    obtain ⟨hrest, hsplice⟩ := ih _ hr
    rw [show front ++ ahead ++ piece ++ rest = front ++ (ahead ++ piece ++ rest) by simp, ← hfront]
      at hrest hsplice
    refine ⟨?_, ?_⟩
    · rw [gaps, List.map_cons, List.map_cons, Text.weave, hahead, hpiece, ← hrest]
    · rw [gaps, List.map_cons, List.map_cons, Text.weave, hahead, splice_cons hs he, ← hsplice]

/-! ### Faults -/

theorem overlapFault?_deletions (es : List Edit) :
    overlapFault? ((es.map (·.span)).map (Edit.mk · [])) = overlapFault? es := by
  fun_induction overlapFault? es with
  | case1 e f es h => exact if_pos h
  | case2 e f es h ih => exact (if_neg h).trans ih
  | case3 es h =>
    match es, h with
    | [], _ => rfl
    | [_], _ => rfl
    | e :: f :: es, h => exact absurd rfl (h e f es)

/-- Faults are faults of the spans, which are put in one order however the batch is. -/
theorem applyAll_eq_error_of_perm {fault : EditFault} (hp : es.Perm fs)
    (h : applyAll t es = .error fault) : applyAll t fs = .error fault := by
  have hspans := map_span_inOrder_of_perm hp
  have hfault (es : List Edit) :
      (es.findSome? (spanFault? t)).or (overlapFault? es) =
        ((es.map (·.span)).findSome? fun s => spanFault? t ⟨s, []⟩).or
          (overlapFault? ((es.map (·.span)).map (Edit.mk · []))) := by
    rw [overlapFault?_deletions, List.findSome?_map]
    rfl
  rw [applyAll, hfault, hspans, ← hfault] at h
  rw [applyAll]
  cases hnone : ((inOrder fs).findSome? (spanFault? t)).or (overlapFault? (inOrder fs)) with
  | some fault' => rwa [hnone] at h
  | none =>
    rw [hnone] at h
    exact absurd h (by simp)

/-- A batch is applied exactly when it is valid. Then what is kept is slices of the text, in order
and cut between characters, with the replacements by turns; otherwise the fault is that of any
permutation of the batch. -/
theorem applied_iff_valid (t : Text) (es : List Edit) :
    ((∃ r, applyAll t es = .ok r) ↔ IsValid t es) ∧
      ((∃ fault, applyAll t es = .error fault) ↔ ¬ IsValid t es) ∧
      (∀ r, applyAll t es = .ok r →
        (∀ s ∈ gaps 0 t.byteLength (inOrder es), s.start ≤ s.stop ∧ s.stop ≤ t.byteLength ∧
          t.isBoundary s.start = true ∧ t.isBoundary s.stop = true) ∧
        r = Text.weave ((gaps 0 t.byteLength (inOrder es)).map t.slice)
          ((inOrder es).map (·.replacement))) ∧
      ∀ fault, applyAll t es = .error fault →
        ∀ fs, es.Perm fs → applyAll t fs = .error fault := by
  have hiff : (∃ r, applyAll t es = .ok r) ↔ IsValid t es :=
    ⟨fun ⟨_, h⟩ => isValid_of_applyAll h, fun h => ⟨_, h.applyAll⟩⟩
  refine ⟨hiff, ?_, fun r h => ?_, fun fault h fs hp => applyAll_eq_error_of_perm hp h⟩
  · rw [← hiff]
    cases applyAll t es <;> simp
  · have hvalid := isValid_of_applyAll h
    obtain rfl : splice 0 t (inOrder es) = r := Except.ok.inj (hvalid.applyAll.symm.trans h)
    have hgaps := cuts_gaps hvalid.cuts
    rw [Nat.zero_add] at hgaps
    refine ⟨fun s hs => ?_, (exists_weave [] hvalid.cuts).2⟩
    have hin := hgaps.isIn hs
    have hcut := hgaps.isCut hs
    simp only [Span.isIn, Span.isCut, Bool.and_eq_true, decide_eq_true_eq] at hin hcut
    exact ⟨hin.1, hin.2, hcut.1, hcut.2⟩

/-- A replaced character with an insertion at each end of it, the last one first. -/
def bordered : List Edit := [insertion 3 "!", ⟨⟨1, 3⟩, "e"⟩, insertion 1 "-"]

/-- An insertion inside a span, and a span that ends far behind the text. -/
def misplaced : List Edit := [⟨⟨0, 3⟩, []⟩, insertion 1 "-", ⟨⟨1, 18446744073709551615⟩, []⟩]

theorem applied_iff_valid_bordered :
    (IsValid "aé" bordered ∧ applyAll "aé" bordered = .ok "a-e!" ∧
      "a-e!".toList = Text.weave ((gaps 0 3 (inOrder bordered)).map (Text.slice "aé"))
        ((inOrder bordered).map (·.replacement))) ∧
    applyAll "aé" misplaced = .error (.outside ⟨1, 18446744073709551615⟩ 3) ∧
    applyAll "aé" misplaced.reverse = .error (.outside ⟨1, 18446744073709551615⟩ 3) := by
  obtain ⟨hiff, -, hok, -⟩ := applied_iff_valid "aé" bordered
  obtain ⟨-, -, -, herror⟩ := applied_iff_valid "aé" misplaced
  have happlied : applyAll "aé" bordered = .ok "a-e!" := by decide +kernel
  have hrefused : applyAll "aé" misplaced = .error (.outside ⟨1, 18446744073709551615⟩ 3) := by
    decide +kernel
  exact ⟨⟨hiff.mp ⟨_, happlied⟩, happlied, (hok _ happlied).2⟩, hrefused,
    herror _ hrefused _ misplaced.reverse_perm.symm⟩

end Edit

end DartTransfer

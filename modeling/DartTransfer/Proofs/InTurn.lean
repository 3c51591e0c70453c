import DartTransfer.Proofs.Accepted

/-!
# A batch is applied edit by edit

What an edit changes lies behind the spans of the edits ahead of it, so a batch can as well be
applied in turn, from the last edit in order to the first, each edit at its own span as a batch of
its own (`Edit.foldlM_applyAll`). In a valid batch only insertions can share a span, hence the order
in which the edits are given counts for insertions at one position and nothing else
(`Edit.IsValid.inOrder_eq_of_perm`).
-/

namespace DartTransfer

namespace Edit
variable {t r : Text} {e : Edit} {es fs : List Edit}

/-- The text with one edit made. -/
def applyTo (t : Text) (e : Edit) : Text :=
  t.takeBytes e.span.start ++ e.replacement ++ t.dropBytes e.span.stop

theorem applyTo_append {ahead piece rest : Text} (hs : e.span.start = ahead.byteLength)
    (he : e.span.stop = e.span.start + piece.byteLength) :
    applyTo (ahead ++ piece ++ rest) e = ahead ++ e.replacement ++ rest := by
  have hstop : e.span.stop = (ahead ++ piece).byteLength := by rw [Text.byteLength_append, he, hs]
  rw [applyTo, hstop, Text.dropBytes_byteLength, hs, List.append_assoc ahead piece rest,
    Text.takeBytes_byteLength]

theorem applyAll_singleton {ahead piece rest : Text} (hs : e.span.start = ahead.byteLength)
    (he : e.span.stop = e.span.start + piece.byteLength) :
    applyAll (ahead ++ piece ++ rest) [e] = .ok (ahead ++ e.replacement ++ rest) := by
  have hs' : e.span.start = 0 + ahead.byteLength := by rw [hs, Nat.zero_add]
  have hcuts : Span.Cuts 0 (ahead ++ piece ++ rest) ([e].map (·.span)) :=
    ⟨ahead, piece, rest, rfl, hs', he, trivial⟩
  rw [applyAll_of_cuts hcuts, splice_cons hs' he, splice]

/-- Edits behind each other are made from the last one on, and each of them is accepted. -/
theorem foldlM_applyAll (front : Text) {rest : Text}
    (h : Span.Cuts front.byteLength rest (es.map (·.span))) :
    es.reverse.foldlM (fun t e => applyAll t [e]) (front ++ rest) =
        .ok (front ++ splice front.byteLength rest es) ∧
      es.reverse.foldl applyTo (front ++ rest) = front ++ splice front.byteLength rest es := by
  induction es generalizing front rest with
  | nil => exact ⟨rfl, rfl⟩
  | cons e es ih =>
    obtain ⟨ahead, piece, rest, rfl, hs, he, hr⟩ := h
    dsimp only at hs he hr
    have hfront : e.span.stop = (front ++ ahead ++ piece).byteLength := by
      rw [Text.byteLength_append, Text.byteLength_append]
      omega
    have hs' : e.span.start = (front ++ ahead).byteLength := by rw [hs, Text.byteLength_append]
    rw [hfront] at hr
    obtain ⟨haccepted, hmade⟩ := ih _ hr
    rw [show front ++ (ahead ++ piece ++ rest) = front ++ ahead ++ piece ++ rest by simp,
      splice_cons hs he, List.reverse_cons, List.foldlM_append, List.foldl_append, haccepted, hmade,
      hfront, ← List.append_assoc front, ← List.append_assoc front]
    refine ⟨?_, applyTo_append hs' he⟩
    show applyAll _ [e] >>= pure = _
    rw [applyAll_singleton hs' he]
    rfl

/-- Two edits of one span that is not empty would overlap, so there are no two in a valid batch. -/
theorem IsValid.filter_eq_of_perm (h : IsValid t es) (hp : es.Perm fs) {s : Span}
    (hs : s.start ≠ s.stop) : fs.filter (·.span == s) = es.filter (·.span == s) := by
  have hperm : (es.filter (·.span == s)).Perm (fs.filter (·.span == s)) := hp.filter _
  have hmem (e : Edit) (he : e ∈ es.filter (·.span == s)) : e ∈ es ∧ e.span = s := by
    simpa using List.mem_filter.mp he
  have hapart := h.apart.filter (·.span == s)
  generalize es.filter (·.span == s) = same at hperm hmem hapart
  match same with
  | [] => exact hperm.nil_eq.symm
  | [e] => exact List.perm_singleton.mp hperm.symm
  | a :: b :: _ =>
    obtain ⟨ha, has⟩ := hmem a (by simp)
    obtain ⟨-, hbs⟩ := hmem b (by simp)
    have hab := (List.pairwise_cons.mp hapart).1 b List.mem_cons_self
    have hle := (h.isIn a ha).1
    rw [has] at hab hle
    rw [hbs] at hab
    omega

/-- In a valid batch the order of the insertions at each position decides all of the order. -/
theorem IsValid.inOrder_eq_of_perm (h : IsValid t es) (hp : es.Perm fs)
    (hins : ∀ p, fs.filter (·.span == ⟨p, p⟩) = es.filter (·.span == ⟨p, p⟩)) :
    inOrder fs = inOrder es := by
  refine (inOrder_isOrdered fs).eq_of_filter (inOrder_isOrdered es) fun s => ?_
  rw [filter_inOrder, filter_inOrder]
  by_cases hs : s.start = s.stop
  · have := hins s.start
    rwa [show (⟨s.start, s.start⟩ : Span) = s from Span.mk.injEq .. ▸ ⟨rfl, hs⟩] at this
  · exact h.filter_eq_of_perm hp hs

/-- A batch that is applied is a stable sort by span and then one edit after the other, from the
last to the first, at its own span. So the text between the spans is kept and each replacement stands
between its neighbours once, whatever the order of the batch is apart from that of the insertions at
one position. -/
theorem applied_in_turn (h : applyAll t es = .ok r) :
    inOrder es = es.mergeSort (fun a b => a.span.before b.span) ∧
      (inOrder es).reverse.foldl applyTo t = r ∧
      (inOrder es).reverse.foldlM (fun t e => applyAll t [e]) t = .ok r ∧
      (∃ kept : List Text, kept.length = es.length + 1 ∧
        t = Text.weave kept ((inOrder es).map fun e => t.slice e.span) ∧
        r = Text.weave kept ((inOrder es).map (·.replacement))) ∧
      ∀ fs, es.Perm fs → (∀ p, fs.filter (·.span == ⟨p, p⟩) = es.filter (·.span == ⟨p, p⟩)) →
        applyAll t fs = .ok r := by
  have hvalid := isValid_of_applyAll h
  obtain rfl : splice 0 t (inOrder es) = r := Except.ok.inj (hvalid.applyAll.symm.trans h)
  obtain ⟨haccepted, hmade⟩ := foldlM_applyAll [] hvalid.cuts
  obtain ⟨htext, hresult⟩ := exists_weave [] hvalid.cuts
  refine ⟨inOrder_eq_mergeSort es, hmade, haccepted, ⟨_, ?_, htext, hresult⟩, fun fs hp hins => ?_⟩
  · rw [List.length_map, length_gaps, (inOrder_perm es).length_eq]
  · rw [(hvalid.perm hp).applyAll, hvalid.inOrder_eq_of_perm hp hins]

/-- Two insertions at the start of a replaced range and one at its end, given from back to front. -/
def crowded : List Edit := [insertion 6 ")", ⟨⟨4, 6⟩, "é"⟩, insertion 4 "(", insertion 4 "["]

theorem applied_in_turn_crowded :
    applyAll "let ab" crowded = .ok "let ([é)" ∧
      (inOrder crowded).reverse.foldl applyTo "let ab" = "let ([é)".toList ∧
      applyAll "let ab" [⟨⟨4, 6⟩, "é"⟩, insertion 4 "(", insertion 6 ")", insertion 4 "["] =
        .ok "let ([é)" := by
  have h : applyAll "let ab" crowded = .ok "let ([é)" := by decide +kernel
  obtain ⟨-, hmade, -, -, hperm⟩ := applied_in_turn h
  refine ⟨h, hmade, hperm _ (by decide) fun p => ?_⟩
  by_cases h₄ : p = 4
  · subst h₄; decide
  · by_cases h₆ : p = 6
    · subst h₆; decide
    · simp [crowded, insertion, Ne.symm h₄, Ne.symm h₆]

end Edit

end DartTransfer

import DartTransfer.Text.Basic

/-!
# Lines

A line ends at a newline, the carriage return before a newline belongs to the ending, and a text
that ends in a newline has no empty line after it. `lines_append` reads a text line by line off its
front, so that the lines of a text put together from lines are these lines (`lines_flatMap`).
-/

namespace DartTransfer.Text

/-- The text with `c` put in front of its first line. -/
private def prependToFirst (c : Char) : List Text → List Text
  | [] => [[c]]
  | l :: ls => (c :: l) :: ls

def lines : Text → List Text
  | [] => []
  | '\n' :: t => [] :: lines t
  | '\r' :: '\n' :: t => [] :: lines t
  | c :: t => prependToFirst c (lines t)

/-- What `lines` can return: no newline, and no carriage return at the end. -/
def IsLine (l : Text) : Prop := '\n' ∉ l ∧ l.getLast? ≠ some '\r'

/-- A line is read as it stands. -/
theorem lines_append {l : Text} (h : IsLine l) (t : Text) : lines (l ++ '\n' :: t) = l :: lines t := by
  induction l with
  | nil => rfl
  | cons c l ih =>
    obtain ⟨hn, hr⟩ := h
    have hc : c ≠ '\n' := fun e => hn (by simp [e])
    have hl : IsLine l := by
      refine ⟨fun hm => hn (List.mem_cons_of_mem _ hm), fun hm => hr ?_⟩
      rw [List.getLast?_cons, hm]
      rfl
    rw [List.cons_append, lines, ih hl]
    · rfl
    · exact hc
    · rintro u rfl
      cases l with
      | nil => exact fun _ => hr rfl
      | cons d l =>
        intro e
        exact hn (by simp [(List.cons.inj e).1])

theorem lines_flatMap {ls : List Text} (h : ∀ l ∈ ls, IsLine l) : lines (ls.flatMap (· ++ ['\n'])) = ls := by
  induction ls with
  | nil => rfl
  | cons l ls ih =>
    rw [List.flatMap_cons, List.append_assoc, List.singleton_append, lines_append (h l (by simp)),
      ih fun m hm => h m (by simp [hm])]

theorem newline_notMem_of_mem_lines (t : Text) : ∀ l ∈ lines t, '\n' ∉ l := by
  fun_induction lines t with
  | case1 => simp
  | case2 t ih => simpa using ih
  | case3 t ih => simpa using ih
  | case4 c t hc _ ih =>
    have hne : '\n' ≠ c := fun e => hc e.symm
    intro l h
    cases hls : lines t with
    | nil =>
      rw [hls, prependToFirst] at h
      rw [List.mem_singleton.mp h]
      simpa using hne
    | cons m ms =>
      rw [hls, prependToFirst] at h
      rw [hls] at ih
      rcases List.mem_cons.mp h with rfl | h
      · rw [List.mem_cons, not_or]
        exact ⟨hne, ih m List.mem_cons_self⟩
      · exact ih l (List.mem_cons_of_mem _ h)

end DartTransfer.Text

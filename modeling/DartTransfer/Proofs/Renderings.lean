import DartTransfer.Proofs.Conserved
import DartTransfer.Proofs.LineHeads

/-!
# Words in every style

A list of words makes a name in each style (`KeyStyle.render`). A conversion of such a name gives the same words in
its own style when it knows the word boundaries of the style that the name is in: `KeyStyle.sources` lists these
styles, and no other would do (`KeyStyle.mem_sources_iff`). So the words outlast a chain of conversions as long as each
one knows the style ahead of it (`KeyStyle.chain_render`), as snake and Pascal case do by turns
(`KeyStyle.words_outlast_chain`). Behind a word of one letter its capital meets the next one, and the boundary is lost;
so only the last word may be that short.
-/

namespace DartTransfer

namespace KeyStyle
variable {sep c : Char} {s : KeyStyle} {ss : List KeyStyle} {v w t : Text} {ws : List Text}

/-! ### Words -/

structure IsWord (w : Text) : Prop where
  ne_nil : w ≠ []
  isLower : ∀ c ∈ w, c.isLower = true

/-- Words of which each but the last has at least two letters. -/
structure AreWords (ws : List Text) : Prop where
  ne_nil : ws ≠ []
  isWord : ∀ w ∈ ws, IsWord w
  long : ∀ w ∈ ws.dropLast, 2 ≤ w.length

/-- The name that the words make in a style; a name is declared in camel case. -/
def render (s : KeyStyle) (ws : List Text) : Text :=
  match s with
  | camel | asDeclared => ws.headD [] ++ ws.tail.flatMap capitalize
  | snake => Text.joinWith ['_'] ws
  | pascal => ws.flatMap capitalize
  | kebab => Text.joinWith ['-'] ws

/-- The names after each conversion of the one before. -/
def chain (name : Text) : List KeyStyle → List Text
  | [] => []
  | s :: ss => s.convert name :: chain (s.convert name) ss

theorem AreWords.tail (h : AreWords (w :: v :: ws)) : AreWords (v :: ws) where
  ne_nil := List.cons_ne_nil v ws
  isWord u hu := h.isWord u (List.mem_cons_of_mem w hu)
  long u hu := h.long u (by simp [hu])

theorem AreWords.two_le (h : AreWords (w :: v :: ws)) : 2 ≤ w.length := h.long w (by simp)

theorem isUpper_of_isLower (h : c.isLower = true) : c.isUpper = false :=
  of_isLower (p := fun c => c.isUpper = false) h (by decide +kernel)

theorem toLower_of_isLower (h : c.isLower = true) : c.toLower = c :=
  of_isLower (p := fun c => c.toLower = c) h (by decide +kernel)

theorem isUpper_toUpper (h : c.isLower = true) : c.toUpper.isUpper = true :=
  of_isLower (p := fun c => c.toUpper.isUpper = true) h (by decide +kernel)

theorem map_toLower_of_isLower (h : ∀ c ∈ t, c.isLower = true) : t.map Char.toLower = t := by
  have hid : t.map Char.toLower = t.map id := List.map_congr_left fun c hc => toLower_of_isLower (h c hc)
  rw [hid, List.map_id]

theorem capitalize_cons (h : c.isLower = true) (t : Text) : capitalize (c :: t) = c.toUpper :: t := by
  rw [capitalize, upperOf_of_ascii (toNat_lt_of_isLower h), List.singleton_append]

namespace IsWord

theorem notMem (h : IsWord w) (hsep : sep.isLower = false) : sep ∉ w := by
  intro hm
  rw [h.isLower sep hm] at hsep
  exact Bool.noConfusion hsep

theorem exists_cons (h : IsWord w) : ∃ c t, w = c :: t ∧ c.isLower = true ∧ ∀ d ∈ t, d.isLower = true := by
  obtain ⟨c, t, rfl⟩ := List.exists_cons_of_ne_nil h.ne_nil
  obtain ⟨hc, ht⟩ := List.forall_mem_cons.mp h.isLower
  exact ⟨c, t, rfl, hc, ht⟩

theorem toLower_eq (h : IsWord w) : w.toLower = w := by
  have hascii : w.IsAscii := fun c hc => toNat_lt_of_isLower (h.isLower c hc)
  rw [hascii.toLower_eq, map_toLower_of_isLower h.isLower]

theorem toLower_capitalize (h : IsWord w) : (capitalize w).toLower = w := by
  obtain ⟨c, t, rfl, hc, ht⟩ := h.exists_cons
  have hascii : Text.IsAscii (c.toUpper :: t) := Text.IsAscii.cons_iff.mpr
    ⟨toNat_toUpper_lt (toNat_lt_of_isLower hc), fun d hd => toNat_lt_of_isLower (ht d hd)⟩
  rw [capitalize_cons hc, hascii.toLower_eq, List.map_cons, toLower_toUpper hc, map_toLower_of_isLower ht]

theorem capitalize_append (h : IsWord w) (t : Text) : capitalize (w ++ t) = capitalize w ++ t := by
  obtain ⟨c, w, rfl, -, -⟩ := h.exists_cons
  rw [List.cons_append, capitalize, capitalize, List.append_assoc]

theorem exists_getLast? (h : IsWord w) : ∃ c ∈ w.getLast?, c.isLower = true := by
  obtain ⟨c, hc⟩ := Option.isSome_iff_exists.mp (List.getLast?_isSome.mpr h.ne_nil)
  exact ⟨c, hc, h.isLower c (List.mem_of_getLast? hc)⟩

/-- The capital of a longer word does not end it. -/
theorem exists_getLast?_capitalize (h : IsWord w) (hlong : 2 ≤ w.length) :
    ∃ c ∈ (capitalize w).getLast?, c.isLower = true := by
  obtain ⟨c, t, rfl, hc, ht⟩ := h.exists_cons
  cases t with
  | nil => exact absurd hlong (by simp)
  | cons d t =>
    rw [capitalize_cons hc, List.getLast?_cons_cons]
    exact exists_getLast? ⟨List.cons_ne_nil d t, ht⟩

end IsWord

/-! ### Boundaries between words -/

theorem wordsOf_cons (hc : c ≠ sep) (ht : ∀ d ∈ t.head?, d.isUpper = false) :
    wordsOf sep (c :: t) = (wordsOf sep t).modifyHead (c :: ·) := by
  have hcut : t.head?.any Char.isUpper = false := by
    cases t with
    | nil => rfl
    | cons d t => exact ht d rfl
  rw [wordsOf, if_neg (by simpa using hc), hcut, Bool.and_false, if_neg Bool.false_ne_true]

/-- A text with nothing to cut at: no separator, and no capital but the first letter. -/
structure IsUncut (sep : Char) (t : Text) : Prop where
  notMem : sep ∉ t
  inner : ∀ d ∈ t.tail, d.isUpper = false

theorem IsWord.isUncut (h : IsWord w) (hsep : sep.isAlpha = false) : IsUncut sep w where
  notMem := h.notMem (Bool.or_eq_false_iff.mp hsep).2
  inner d hd := isUpper_of_isLower (h.isLower d (List.mem_of_mem_tail hd))

theorem IsWord.isUncut_capitalize (h : IsWord w) (hsep : sep.isAlpha = false) : IsUncut sep (capitalize w) := by
  obtain ⟨hupper, hlower⟩ := Bool.or_eq_false_iff.mp hsep
  obtain ⟨c, t, rfl, hc, ht⟩ := h.exists_cons
  rw [capitalize_cons hc]
  refine ⟨?_, fun d hd => isUpper_of_isLower (ht d hd)⟩
  rw [List.mem_cons, not_or]
  refine ⟨?_, fun hm => ?_⟩
  · rintro rfl
    rw [isUpper_toUpper hc] at hupper
    exact Bool.noConfusion hupper
  · rw [ht sep hm] at hlower
    exact Bool.noConfusion hlower

theorem wordsOf_of_isUncut (h : IsUncut sep t) : wordsOf sep t = [t] := by
  obtain ⟨hsep, hinner⟩ := h
  induction t with
  | nil => rfl
  | cons c t ih =>
    rw [List.mem_cons, not_or] at hsep
    have ht : ∀ d ∈ t, d.isUpper = false := hinner
    rw [wordsOf_cons (Ne.symm hsep.1) fun d hd => ht d (List.mem_of_mem_head? hd),
      ih hsep.2 fun d hd => ht d (List.mem_of_mem_tail hd), List.modifyHead_cons]

/-- A lowercase letter ahead of a capital ends the first word. -/
theorem wordsOf_append {r : Text} (h : IsUncut sep t) (hlast : ∃ c ∈ t.getLast?, c.isLower = true)
    (hhead : ∃ d ∈ r.head?, d.isUpper = true) : wordsOf sep (t ++ r) = t :: wordsOf sep r := by
  obtain ⟨hsep, hinner⟩ := h
  induction t with
  | nil =>
    obtain ⟨c, hc, -⟩ := hlast
    exact absurd hc nofun
  | cons c t ih =>
    rw [List.mem_cons, not_or] at hsep
    rw [List.cons_append]
    cases t with
    | nil =>
      obtain ⟨e, he, hlower⟩ := hlast
      obtain rfl : c = e := Option.some.inj he
      obtain ⟨d, hd, hupper⟩ := hhead
      have hcut : r.head?.any Char.isUpper = true := by rw [Option.mem_def.mp hd, Option.any_some, hupper]
      rw [List.nil_append, wordsOf, if_neg (by simpa using Ne.symm hsep.1), hlower, hcut, Bool.and_self, if_pos rfl]
    | cons d t =>
      have hd : d.isUpper = false := hinner d List.mem_cons_self
      rw [List.getLast?_cons_cons] at hlast
      rw [wordsOf_cons (Ne.symm hsep.1) (by simpa using hd), ih hlast hsep.2 fun e he =>
        hinner e (List.mem_cons_of_mem d he), List.modifyHead_cons]

/-- By induction on the words behind the first, each of which starts with its capital. -/
theorem wordsOf_capitals (hsep : sep.isAlpha = false) (hws : AreWords (w :: ws)) (ht : IsUncut sep t)
    (hlower : t.toLower = w) (hlast : 2 ≤ w.length → ∃ c ∈ t.getLast?, c.isLower = true) :
    (wordsOf sep (t ++ ws.flatMap capitalize)).map Text.toLower = w :: ws := by
  induction ws generalizing t w with
  | nil => rw [List.flatMap_nil, List.append_nil, wordsOf_of_isUncut ht, List.map_singleton, hlower]
  | cons v vs ih =>
    have hv : IsWord v := hws.isWord v (List.mem_cons_of_mem w List.mem_cons_self)
    have hhead : ∃ d ∈ ((v :: vs).flatMap capitalize).head?, d.isUpper = true := by
      obtain ⟨c, v, rfl, hc, -⟩ := hv.exists_cons
      rw [List.flatMap_cons, capitalize_cons hc]
      exact ⟨c.toUpper, rfl, isUpper_toUpper hc⟩
    rw [wordsOf_append ht (hlast hws.two_le) hhead, List.map_cons, hlower, List.flatMap_cons,
      ih hws.tail (hv.isUncut_capitalize hsep) hv.toLower_capitalize hv.exists_getLast?_capitalize]

/-! ### From camel and Pascal case -/

theorem toLower_splitWords_camel (hsep : sep.isAlpha = false) (hb : Text.IsBarrier sep) (hws : AreWords ws) :
    (splitWords sep (camel.render ws)).toLower = Text.joinWith [sep] ws := by
  obtain ⟨w, ws, rfl⟩ := List.exists_cons_of_ne_nil hws.ne_nil
  have hw := hws.isWord w List.mem_cons_self
  rw [toLower_splitWords (Bool.or_eq_false_iff.mp hsep).2 hb]
  exact congrArg _ (wordsOf_capitals hsep hws (hw.isUncut hsep) hw.toLower_eq fun _ => hw.exists_getLast?)

theorem toLower_splitWords_pascal (hsep : sep.isAlpha = false) (hb : Text.IsBarrier sep) (hws : AreWords ws) :
    (splitWords sep (pascal.render ws)).toLower = Text.joinWith [sep] ws := by
  obtain ⟨w, ws, rfl⟩ := List.exists_cons_of_ne_nil hws.ne_nil
  have hw := hws.isWord w List.mem_cons_self
  rw [toLower_splitWords (Bool.or_eq_false_iff.mp hsep).2 hb]
  exact congrArg _ (wordsOf_capitals hsep hws (hw.isUncut_capitalize hsep) hw.toLower_capitalize
    hw.exists_getLast?_capitalize)

theorem underscore_notMem_camel (hws : AreWords ws) : '_' ∉ camel.render ws := by
  obtain ⟨w, ws, rfl⟩ := List.exists_cons_of_ne_nil hws.ne_nil
  refine List.not_mem_append ((hws.isWord w List.mem_cons_self).notMem (by decide)) fun hm => ?_
  obtain ⟨v, hv, hm⟩ := List.mem_flatMap.mp hm
  exact ((hws.isWord v (List.mem_cons_of_mem w hv)).isUncut_capitalize (by decide)).notMem hm

theorem pascal_convert_camel (hws : AreWords ws) : pascal.convert (camel.render ws) = pascal.render ws := by
  have hparts : Text.splitOn '_' (Text.joinWith ['_'] [camel.render ws]) = [camel.render ws] :=
    Text.splitOn_joinWith (List.cons_ne_nil _ _) fun l hl => List.mem_singleton.mp hl ▸ underscore_notMem_camel hws
  rw [Text.joinWith_singleton] at hparts
  rw [convert, (capitalizeWords_eq _).1, hparts, List.flatMap_singleton]
  obtain ⟨w, ws, rfl⟩ := List.exists_cons_of_ne_nil hws.ne_nil
  exact (hws.isWord w List.mem_cons_self).capitalize_append _

/-! ### From snake case -/

theorem pascal_convert_snake (hws : AreWords ws) : pascal.convert (snake.render ws) = pascal.render ws := by
  have hparts : Text.splitOn '_' (Text.joinWith ['_'] ws) = ws :=
    Text.splitOn_joinWith hws.ne_nil fun w hw => (hws.isWord w hw).notMem (by decide)
  rw [convert, render, (capitalizeWords_eq _).1, hparts]
  rfl

theorem joinWords_append (h : '_' ∉ w) (t : Text) : joinWords (w ++ t) = w ++ joinWords t := by
  induction w with
  | nil => rfl
  | cons c w ih =>
    rw [List.mem_cons, not_or] at h
    rw [List.cons_append, joinWords_of_ne (Ne.symm h.1), ih h.2, List.cons_append]

theorem joinStep_underscore (h : IsWord w) (t : Text) : joinStep '_' (w ++ t) = capitalize w ++ t := by
  obtain ⟨c, w, rfl, hc, -⟩ := h.exists_cons
  rw [List.cons_append, joinStep, if_pos (by simp [hc]), capitalize_cons hc, List.cons_append]

theorem camel_convert_snake (hws : AreWords ws) : camel.convert (snake.render ws) = camel.render ws := by
  obtain ⟨w, ws, rfl⟩ := List.exists_cons_of_ne_nil hws.ne_nil
  show joinWords (Text.joinWith ['_'] (w :: ws)) = w ++ ws.flatMap capitalize
  induction ws generalizing w with
  | nil =>
    have hw : '_' ∉ w := (hws.isWord w List.mem_cons_self).notMem (by decide)
    simpa [joinWords] using joinWords_append hw []
  | cons v vs ih =>
    have hw : '_' ∉ w := (hws.isWord w List.mem_cons_self).notMem (by decide)
    have hv := hws.isWord v (List.mem_cons_of_mem w List.mem_cons_self)
    rw [Text.joinWith_cons _ _ (List.cons_ne_nil v vs), List.append_assoc, joinWords_append hw,
      List.singleton_append, joinWords_cons, ih v hws.tail, joinStep_underscore hv, List.flatMap_cons]

/-! ### Which styles a conversion knows -/

/-- The styles of which a conversion to the style knows the boundaries between words. -/
def sources : KeyStyle → List KeyStyle
  | camel => [camel, snake, asDeclared]
  | snake => [camel, snake, pascal, asDeclared]
  | pascal => [camel, snake, pascal, asDeclared]
  | kebab => [camel, pascal, kebab, asDeclared]
  | asDeclared => [camel, asDeclared]

/-- Each rendering is a key, made of the camel case name or, for that itself, of the snake case name. -/
theorem exists_convert_eq_render (s : KeyStyle) (hws : AreWords ws) : ∃ name, s.convert name = s.render ws := by
  cases s with
  | camel => exact ⟨_, camel_convert_snake hws⟩
  | snake => exact ⟨_, toLower_splitWords_camel (by decide) Text.isBarrier_underscore hws⟩
  | pascal => exact ⟨_, pascal_convert_camel hws⟩
  | kebab => exact ⟨_, toLower_splitWords_camel (by decide) Text.isBarrier_hyphen hws⟩
  | asDeclared => exact ⟨_, rfl⟩

theorem convert_render_self (s : KeyStyle) (hws : AreWords ws) : s.convert (s.render ws) = s.render ws := by
  obtain ⟨name, hname⟩ := s.exists_convert_eq_render hws
  rw [← hname]
  exact convert_of_settled (s.settled_convert name)

theorem convert_render {source : KeyStyle} (h : source ∈ s.sources) (hws : AreWords ws) :
    s.convert (source.render ws) = s.render ws := by
  have hsnake : snake.convert (camel.render ws) = snake.render ws :=
    toLower_splitWords_camel (by decide) Text.isBarrier_underscore hws
  have hkebab : kebab.convert (camel.render ws) = kebab.render ws :=
    toLower_splitWords_camel (by decide) Text.isBarrier_hyphen hws
  cases s with
  | camel =>
    simp only [sources, List.mem_cons, List.not_mem_nil, or_false] at h
    rcases h with rfl | rfl | rfl
    · exact convert_render_self camel hws
    · exact camel_convert_snake hws
    · exact convert_render_self camel hws
  | snake =>
    simp only [sources, List.mem_cons, List.not_mem_nil, or_false] at h
    rcases h with rfl | rfl | rfl | rfl
    · exact hsnake
    · exact convert_render_self snake hws
    · exact toLower_splitWords_pascal (by decide) Text.isBarrier_underscore hws
    · exact hsnake
  | pascal =>
    simp only [sources, List.mem_cons, List.not_mem_nil, or_false] at h
    rcases h with rfl | rfl | rfl | rfl
    · exact pascal_convert_camel hws
    · exact pascal_convert_snake hws
    · exact convert_render_self pascal hws
    · exact pascal_convert_camel hws
  | kebab =>
    simp only [sources, List.mem_cons, List.not_mem_nil, or_false] at h
    rcases h with rfl | rfl | rfl | rfl
    · exact hkebab
    · exact toLower_splitWords_pascal (by decide) Text.isBarrier_hyphen hws
    · exact convert_render_self kebab hws
    · exact hkebab
  | asDeclared =>
    simp only [sources, List.mem_cons, List.not_mem_nil, or_false] at h
    rcases h with rfl | rfl <;> rfl

/-- Two words of two letters tell the styles apart. -/
theorem areWords_pair : AreWords ["ab", "cd"] where
  ne_nil := List.cons_ne_nil _ _
  isWord w hw := by
    rcases List.mem_pair.mp hw with rfl | rfl
    · exact ⟨by decide, List.all_eq_true.mp rfl⟩
    · exact ⟨by decide, List.all_eq_true.mp rfl⟩
  long := by decide

theorem mem_sources_iff (s source : KeyStyle) :
    source ∈ s.sources ↔ ∀ ws, AreWords ws → s.convert (source.render ws) = s.render ws := by
  refine ⟨fun h ws hws => convert_render h hws, fun hall => ?_⟩
  have hpair := hall _ areWords_pair
  revert hpair
  cases s <;> cases source <;> decide +kernel

/-! ### Chains of conversions -/

/-- By induction on the chain: after each step the name is in the style of that step. -/
theorem chain_render (hws : AreWords ws) (h : (s :: ss).IsChain fun source target => source ∈ target.sources) :
    chain (s.render ws) ss = ss.map (·.render ws) := by
  induction ss generalizing s with
  | nil => rfl
  | cons s' ss ih =>
    obtain ⟨hsource, hrest⟩ := List.isChain_cons_cons.mp h
    rw [chain, convert_render hsource hws, ih hrest, List.map_cons]

/-- Snake and Pascal case know each other's names and the name that a chain starts from. -/
theorem isChain_append_sources {target : KeyStyle} {rest : List KeyStyle} (hs : s ∈ [camel, snake, pascal])
    (hss : ∀ s ∈ ss, s ∈ [snake, pascal]) (htarget : target ∈ [snake, pascal])
    (hrest : (target :: rest).IsChain fun source target => source ∈ target.sources) :
    (s :: (ss ++ target :: rest)).IsChain fun source target => source ∈ target.sources := by
  have hknown : ∀ s ∈ [camel, snake, pascal], ∀ t ∈ [snake, pascal], s ∈ t.sources := by decide
  induction ss generalizing s with
  | nil => exact List.isChain_cons_cons.mpr ⟨hknown s hs target htarget, hrest⟩
  | cons s' ss ih =>
    obtain ⟨hs', hss⟩ := List.forall_mem_cons.mp hss
    exact List.isChain_cons_cons.mpr ⟨hknown s hs s' hs', ih (List.mem_cons_of_mem camel hs') hss⟩

/-- A chain of snake and Pascal case conversions of a camel case name gives after each step that style's name of the
same words. Camel case behind a snake case step gives the name of the start again; kebab case at the start or behind
a Pascal case step joins the words by hyphens. -/
theorem words_outlast_chain (hws : AreWords ws) (hss : ∀ s ∈ ss, s ∈ [snake, pascal]) :
    chain (camel.render ws) ss = ss.map (·.render ws) ∧
      chain (camel.render ws) (ss ++ [snake, camel]) = (ss ++ [snake, camel]).map (·.render ws) ∧
      chain (camel.render ws) (ss ++ [pascal, kebab]) = (ss ++ [pascal, kebab]).map (·.render ws) ∧
      chain (camel.render ws) [kebab] = [Text.joinWith ['-'] ws] := by
  have hback : (camel :: (ss ++ [snake, camel])).IsChain fun source target => source ∈ target.sources :=
    isChain_append_sources (by decide) hss (by decide) (by decide)
  have hkebab : (camel :: (ss ++ [pascal, kebab])).IsChain fun source target => source ∈ target.sources :=
    isChain_append_sources (by decide) hss (by decide) (by decide)
  have hfront : (camel :: ss).IsChain fun source target => source ∈ target.sources := by
    rw [← List.cons_append] at hback
    exact hback.left_of_append
  refine ⟨chain_render hws hfront, chain_render hws hback, chain_render hws hkebab, ?_⟩
  have honce : chain (camel.render ws) [kebab] = [kebab].map (·.render ws) := chain_render hws (by decide)
  exact honce

/-- Words of which the last has one letter. -/
theorem words_outlast_chain_point :
    chain "pointLabelX" [snake, pascal, pascal, snake, camel] =
      (["point_label_x", "PointLabelX", "PointLabelX", "point_label_x", "pointLabelX"] : List Text) := by
  have hws : AreWords ["point", "label", "x"] := by
    refine ⟨List.cons_ne_nil _ _, fun w hw => ?_, by decide⟩
    simp only [List.mem_cons, List.not_mem_nil, or_false] at hw
    rcases hw with rfl | rfl | rfl <;> exact ⟨by decide, List.all_eq_true.mp rfl⟩
  have hname : camel.render ["point", "label", "x"] = "pointLabelX".toList := by decide +kernel
  have hsteps : ∀ s ∈ [snake, pascal, pascal], s ∈ [snake, pascal] := by decide
  rw [← hname]
  refine (words_outlast_chain hws hsteps).2.1.trans ?_
  decide +kernel

example : snake.convert (camel.render ["ab", "c", "de"]) = "ab_cde".toList := by decide +kernel

end KeyStyle

end DartTransfer

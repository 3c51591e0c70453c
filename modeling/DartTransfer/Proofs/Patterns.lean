import DartTransfer.Proofs.Headings

/-!
# Patterns and the preferred way to match

A pattern can stand at the head of a text in several ways. `Pattern.ways` lists them in the order of
preference of a backtracking matcher: what is tried first is the longest run, and a shorter one only
where the rest of the pattern has no way behind it. A search takes the first place at which there is
a way at all, and there the preferred one (`Pattern.search?`), and it is repeated behind what was
taken (`Pattern.Hits`).
-/

namespace DartTransfer

inductive Pattern
  /-- One of the two neighbouring characters is part of a word. -/
  | boundary
  | text (w : Text)
  | one (p : Char → Bool)
  /-- Any number of characters, the more the better. -/
  | many (p : Char → Bool)
  | seq (a b : Pattern)
  /-- What `a` takes is reported. -/
  | group (a : Pattern)

namespace Pattern

/-- One way in which a pattern stands at the head of a text. -/
structure Way where
  groups : List Text
  taken : Text
  rest : Text
  deriving DecidableEq, Repr

/-- The splits of the text behind `p`-characters, the longest first. -/
def runs (p : Char → Bool) : Text → List (Text × Text)
  | [] => [([], [])]
  | c :: t => if p c then (runs p t).map (fun (s, r) => (c :: s, r)) ++ [([], c :: t)] else [([], c :: t)]

/-- All ways, the preferred one first; `before` is the character ahead of the text. -/
def ways : Pattern → Option Char → Text → List Way
  | boundary, before, t => if before.any isWord != t.head?.any isWord then [⟨[], [], t⟩] else []
  | text w, _, t => (Text.stripPrefix? w t).toList.map fun r => ⟨[], w, r⟩
  | one _, _, [] => []
  | one p, _, c :: t => if p c then [⟨[], [c], t⟩] else []
  | many p, _, t => (runs p t).map fun (s, r) => ⟨[], s, r⟩
  | seq a b, before, t =>
    (ways a before t).flatMap fun w =>
      (ways b (Text.lastOr before w.taken) w.rest).map fun v =>
        ⟨w.groups ++ v.groups, w.taken ++ v.taken, v.rest⟩
  | group a, before, t => (ways a before t).map fun w => { w with groups := w.taken :: w.groups }

/-- The first place at which the pattern stands, and the preferred way there. -/
def search? (p : Pattern) (before : Option Char) : Text → Option (Text × Way)
  | [] => (p.ways before []).head?.map fun w => ([], w)
  | c :: t =>
    match (p.ways before (c :: t)).head? with
    | some w => some ([], w)
    | none => (search? p (some c) t).map fun (s, w) => (c :: s, w)

/-- What a search reports. -/
structure Hit where
  groups : List Text
  span : Span
  deriving DecidableEq, Repr

/-- The searches in `t`, a text that starts at `position` after the character `before`, each behind
what the one before it has taken, until one fails. -/
def Hits (p : Pattern) (position : Nat) (before : Option Char) (t : Text) : List Hit → Prop
  | [] => p.search? before t = none
  | h :: hs => ∃ s w, p.search? before t = some (s, w) ∧ h.groups = w.groups ∧
      h.span.start = position + s.byteLength ∧ h.span.stop = h.span.start + w.taken.byteLength ∧
      Hits p h.span.stop (Text.lastOr before (s ++ w.taken)) w.rest hs

/-! ### The ways of each kind of pattern -/

variable {p : Char → Bool} {a b : Pattern} {before : Option Char} {t : Text} {w : Way}

theorem mem_runs {s r : Text} (h : (s, r) ∈ runs p t) : t = s ++ r ∧ ∀ c ∈ s, p c = true := by
  induction t generalizing s with
  | nil =>
    obtain ⟨rfl, rfl⟩ := Prod.mk.inj (List.mem_singleton.mp h)
    simp
  | cons c t ih =>
    rw [runs] at h
    split at h
    · next hc =>
      rcases List.mem_append.mp h with h | h
      · obtain ⟨⟨s', r'⟩, hm, e⟩ := List.mem_map.mp h
        cases e
        obtain ⟨rfl, hs⟩ := ih hm
        refine ⟨rfl, ?_⟩
        intro d hd
        rcases List.mem_cons.mp hd with rfl | hd
        · exact hc
        · exact hs d hd
      · obtain ⟨rfl, rfl⟩ := Prod.mk.inj (List.mem_singleton.mp h)
        simp
    · obtain ⟨rfl, rfl⟩ := Prod.mk.inj (List.mem_singleton.mp h)
      simp

theorem head?_runs (p : Char → Bool) (t : Text) :
    (runs p t).head? = some (t.takeWhile p, t.dropWhile p) := by
  induction t with
  | nil => rfl
  | cons c t ih =>
    rw [runs, List.takeWhile_cons, List.dropWhile_cons]
    split
    · rw [List.head?_append, List.head?_map, ih]
      rfl
    · rfl

theorem of_mem_boundary (h : w ∈ ways boundary before t) :
    before.any isWord ≠ t.head?.any isWord ∧ w.rest = t := by
  rw [ways] at h
  split at h
  · next hne =>
    rw [List.mem_singleton.mp h]
    exact ⟨by simpa using hne, rfl⟩
  · exact absurd h List.not_mem_nil

theorem of_mem_text {s : Text} (h : w ∈ ways (text s) before t) : t = s ++ w.rest := by
  obtain ⟨r, hr, rfl⟩ := List.mem_map.mp h
  exact Text.stripPrefix?_eq_some_iff.mp (Option.mem_toList.mp hr)

theorem of_mem_one (h : w ∈ ways (one p) before t) : ∃ c, t = c :: w.rest ∧ p c = true := by
  cases t with
  | nil => exact absurd h List.not_mem_nil
  | cons c t =>
    rw [ways] at h
    split at h
    · next hc =>
      rw [List.mem_singleton.mp h]
      exact ⟨c, rfl, hc⟩
    · exact absurd h List.not_mem_nil

theorem of_mem_many (h : w ∈ ways (many p) before t) :
    ∃ s, t = s ++ w.rest ∧ ∀ c ∈ s, p c = true := by
  obtain ⟨⟨s, r⟩, hm, rfl⟩ := List.mem_map.mp h
  exact ⟨s, mem_runs hm⟩

theorem of_mem_seq (h : w ∈ ways (seq a b) before t) : ∃ u ∈ ways a before t,
    ∃ v ∈ ways b (Text.lastOr before u.taken) u.rest, w.rest = v.rest := by
  obtain ⟨u, hu, h⟩ := List.mem_flatMap.mp h
  obtain ⟨v, hv, rfl⟩ := List.mem_map.mp h
  exact ⟨u, hu, v, hv, rfl⟩

theorem of_mem_group (h : w ∈ ways (group a) before t) : ∃ u ∈ ways a before t, w.rest = u.rest := by
  obtain ⟨u, hu, rfl⟩ := List.mem_map.mp h
  exact ⟨u, hu, rfl⟩

/-- A way leaves an end of the text. -/
theorem exists_append_of_mem {p : Pattern} (h : w ∈ p.ways before t) : ∃ s, t = s ++ w.rest := by
  induction p generalizing before t w with
  | boundary => exact ⟨[], (of_mem_boundary h).2.symm⟩
  | text s => exact ⟨s, of_mem_text h⟩
  | one p =>
    obtain ⟨c, hc, -⟩ := of_mem_one h
    exact ⟨[c], hc⟩
  | many p =>
    obtain ⟨s, hs, -⟩ := of_mem_many h
    exact ⟨s, hs⟩
  | seq a b iha ihb =>
    obtain ⟨u, hu, v, hv, hrest⟩ := of_mem_seq h
    obtain ⟨s, hs⟩ := iha hu
    obtain ⟨s', hs'⟩ := ihb hv
    exact ⟨s ++ s', by rw [hrest, List.append_assoc, ← hs', hs]⟩
  | group a ih =>
    obtain ⟨u, hu, hrest⟩ := of_mem_group h
    obtain ⟨s, hs⟩ := ih hu
    exact ⟨s, by rw [hrest, hs]⟩

/-! ### The preferred way -/

theorem head?_ways_boundary (h : before.any isWord ≠ t.head?.any isWord) :
    (ways boundary before t).head? = some ⟨[], [], t⟩ := by
  rw [ways, if_pos (by simpa using h)]
  rfl

theorem head?_ways_text (s r : Text) : (ways (text s) before (s ++ r)).head? = some ⟨[], s, r⟩ := by
  rw [ways, Text.stripPrefix?_eq_some_iff.mpr rfl]
  rfl

theorem head?_ways_one {c : Char} (hc : p c = true) :
    (ways (one p) before (c :: t)).head? = some ⟨[], [c], t⟩ := by
  rw [ways, if_pos hc]
  rfl

/-- The longest run is preferred. -/
theorem head?_ways_many {s r : Text} (hs : ∀ c ∈ s, p c = true) (hr : ∀ c ∈ r.head?, p c = false) :
    (ways (many p) before (s ++ r)).head? = some ⟨[], s, r⟩ := by
  rw [ways, List.head?_map, head?_runs, Text.takeWhile_run hs hr, Text.dropWhile_run hs hr]
  rfl

/-- The preferred way of the first part is kept if the second part has a way behind it. -/
theorem head?_ways_seq {gs gs' : List Text} {s s' r r' : Text}
    (ha : (ways a before t).head? = some ⟨gs, s, r⟩)
    (hb : (ways b (Text.lastOr before s) r).head? = some ⟨gs', s', r'⟩) :
    (ways (seq a b) before t).head? = some ⟨gs ++ gs', s ++ s', r'⟩ := by
  obtain ⟨us, hus⟩ := List.head?_eq_some_iff.mp ha
  obtain ⟨vs, hvs⟩ := List.head?_eq_some_iff.mp hb
  rw [ways, hus, List.flatMap_cons, hvs]
  rfl

theorem head?_ways_group {gs : List Text} {s r : Text} (ha : (ways a before t).head? = some ⟨gs, s, r⟩) :
    (ways (group a) before t).head? = some ⟨s :: gs, s, r⟩ := by
  rw [ways, List.head?_map, ha]
  rfl

/-! ### Searches -/

section
variable {p : Pattern} {s : Text}

theorem search?_of_head? (h : (p.ways before t).head? = some w) : p.search? before t = some ([], w) := by
  cases t with
  | nil => rw [search?, h]; rfl
  | cons c t => rw [search?, h]

/-- A search that no way ahead of `t` stops goes on to `t`. -/
theorem search?_append
    (hs : ∀ u v, s = u ++ v → v ≠ [] → p.ways (Text.lastOr before u) (v ++ t) = []) :
    p.search? before (s ++ t) =
      (p.search? (Text.lastOr before s) t).map fun (r, w) => (s ++ r, w) := by
  induction s generalizing before with
  | nil => simp
  | cons c s ih =>
    have hc : p.ways before (c :: (s ++ t)) = [] := hs [] (c :: s) rfl (List.cons_ne_nil c s)
    rw [List.cons_append, search?, hc, Text.lastOr_cons, ih, List.head?_nil]
    · simp [Function.comp_def]
    · intro u v huv hv
      have := hs (c :: u) v (by rw [huv, List.cons_append]) hv
      rwa [Text.lastOr_cons] at this

theorem search?_eq_none (hs : ∀ u v, t = u ++ v → p.ways (Text.lastOr before u) v = []) :
    p.search? before t = none := by
  have happ : p.search? before (t ++ []) = _ :=
    search?_append fun u v huv _ => by rw [List.append_nil]; exact hs u v huv
  have hnil : p.ways (Text.lastOr before t) [] = [] := hs t [] (List.append_nil t).symm
  rw [List.append_nil] at happ
  rw [happ, search?, hnil]
  rfl

/-- There is only one list of hits. -/
theorem Hits.unique {position : Nat} {hs hs' : List Hit} (h : p.Hits position before t hs)
    (h' : p.Hits position before t hs') : hs = hs' := by
  induction hs generalizing position before t hs' with
  | nil =>
    cases hs' with
    | nil => rfl
    | cons k ks =>
      obtain ⟨s, w, hk, -⟩ := h'
      have hnone : p.search? before t = none := h
      rw [hnone] at hk
      exact absurd hk nofun
  | cons k ks ih =>
    obtain ⟨s, w, hk, hgroups, hstart, hstop, hks⟩ := h
    cases hs' with
    | nil =>
      have hnone : p.search? before t = none := h'
      rw [hnone] at hk
      exact absurd hk nofun
    | cons k' ks' =>
      obtain ⟨s', w', hk', hgroups', hstart', hstop', hks'⟩ := h'
      rw [hk] at hk'
      cases hk'
      obtain ⟨groups, start, stop⟩ := k
      obtain ⟨groups', start', stop'⟩ := k'
      simp only at hgroups hstart hstop hgroups' hstart' hstop' hks hks'
      subst hgroups hstart hstop hgroups' hstart' hstop'
      rw [ih hks hks']

end

end Pattern

end DartTransfer

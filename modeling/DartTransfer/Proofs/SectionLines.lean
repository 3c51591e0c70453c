import DartTransfer.Proofs.Conversions
import DartTransfer.Proofs.LineHeads
import DartTransfer.Proofs.Sections
import DartTransfer.Proofs.SharedKeys

/-!
# What the lines of a section hold

The lines that are written for a field are read as its own (`Field.argument?_decodeLine` and the lemmas beside
it). Where no type and no suffix has a quote, quotes come from the keys alone, and an argument reads its key and
no other (`Field.keysRead_decodeExpr`). What is read of the fields, in order, is read of their lines
(`Section.mapM_map_of_some`) and of a text that lists them (`Section.listed_joinWith`).
-/

namespace DartTransfer

open Section

/-! ### Keys -/

/-- A key that can stand between quotes, and that no `map[` ends in. -/
structure Field.HasPlainKey (f : Field) : Prop where
  quoteless : Quoteless f.key
  bracket : '[' ∉ f.key

namespace Text.IsIdentifier
variable {n : Text}

theorem quoteless (h : n.IsIdentifier) : Quoteless n :=
  ⟨h.notMem (isIdentifierPart_of_mem_marks (by decide)), h.notMem (isIdentifierPart_of_mem_marks (by decide))⟩

theorem comma_notMem (h : n.IsIdentifier) : ',' ∉ n := h.notMem (isIdentifierPart_of_mem_marks (by decide))

theorem trimStart_append (h : n.IsIdentifier) (r : Text) : Text.trimStart (n ++ r) = n ++ r := by
  obtain ⟨c, n, rfl⟩ := List.exists_cons_of_ne_nil h.ne_nil
  have hblank : isBlank c = false := isBlank_of_isIdentifierPart (h.2 c List.mem_cons_self)
  exact List.dropWhile_cons_of_neg (by simp [hblank])

theorem trimStart_eq (h : n.IsIdentifier) : n.trimStart = n := by
  simpa using h.trimStart_append []

end Text.IsIdentifier

theorem KeyStyle.mark_notMem_convert (s : KeyStyle) {n : Text} (hn : n.IsIdentifier) {d : Char} (hd : NoImage d)
    (hmark : d ∈ marks) (hkebab : d ≠ '-') : d ∉ s.convert n := by
  refine s.notMem_convert hd ?_ hkebab (hn.notMem (isIdentifierPart_of_mem_marks hmark))
  rintro rfl
  exact absurd hmark (by decide)

theorem Generation.hasPlainKey {t : Text} {o : Options} {g : Generation} (h : generate t o = .ok g)
    {c : DataClass} (hc : c ∈ g.classes) {f : Field} (hf : f ∈ c.fields) : f.HasPlainKey := by
  have hn := ((classes_wellFormed h c hc).fields f hf).name
  have hkey {d : Char} (hd : NoImage d) (hmark : d ∈ marks) (hkebab : d ≠ '-') : d ∉ f.key := by
    rw [key_eq h hc hf]
    exact o.style.mark_notMem_convert hn hd hmark hkebab
  exact ⟨⟨hkey (by decide) (by decide) (by decide), hkey (by decide) (by decide) (by decide)⟩,
    hkey (by decide) (by decide) (by decide)⟩

namespace Field
variable {f : Field} {suffix : Text}

theorem keysRead_key (h : f.HasPlainKey) (r : Text) : keysRead (f.key ++ '\'' :: r) = keysRead r := by
  have hmap : ¬ "map[".toList <:+ f.key := fun hs => h.bracket (hs.subset (by decide))
  rw [keysRead_quote h.quoteless, if_neg hmap, List.nil_append]

/-- The access to a field's value reads its key. -/
theorem keysRead_mapAccess (h : f.HasPlainKey) {x : Text} (hx : Quoteless x) (r : Text) :
    keysRead (x ++ (f.mapAccess ++ r)) = f.key :: keysRead r := by
  have haccess : x ++ (f.mapAccess ++ r) = (x ++ "map[".toList) ++ '\'' :: (f.key ++ '\'' :: ']' :: r) := by
    show x ++ ("map['".toList ++ f.key ++ "']".toList ++ r) = _
    simp only [List.append_assoc]
    rfl
  have hkey : (f.key ++ '\'' :: ']' :: r).takeWhile (· != '\'') = f.key :=
    Text.takeWhile_run (fun d hd => bne_iff_ne.mpr fun e => h.quoteless.1 (e ▸ hd)) (by simp)
  rw [haccess, keysRead_quote (hx.append (by decide)), if_pos (List.suffix_append _ _), hkey, keysRead_key h,
    keysRead_cons (fun q r e => absurd (List.cons.inj e).1 (by decide))]
  rfl

theorem keysRead_nullFallback (h : f.HasPlainKey) : keysRead (") : ".toList ++ f.nullFallback) = [] := by
  rw [nullFallback]
  split
  · exact keysRead_of_quoteless (by decide)
  · have hthrow : ") : ".toList ++ ("throw ArgumentError.notNull('".toList ++ f.key ++ "')".toList) =
        ") : throw ArgumentError.notNull(".toList ++ '\'' :: (f.key ++ '\'' :: ")".toList) := by
      simp only [List.append_assoc]
      rfl
    rw [hthrow, keysRead_quote (by decide), if_neg (by decide), keysRead_key h]
    exact keysRead_of_quoteless (by decide)

theorem templates_decodeOf (h : f.templates.isEmpty = true) (source : Text) :
    f.templates.decodeOf source = none := by
  rw [Templates.isEmpty_iff.mp h]
  rfl

/-- An argument reads its own key and no other; for a nested value it does so twice. -/
theorem keysRead_decodeExpr (h : f.HasPlainKey) (hn : f.name.IsIdentifier)
    (htemplates : f.templates.isEmpty = true) (htype : Quoteless f.type) (hs : Quoteless suffix) :
    keysRead (f.decodeExpr suffix) = if f.isNested then [f.key, f.key] else [f.key] := by
  rw [decodeExpr, templates_decodeOf htemplates, isNested]
  cases f.kind with
  | plain =>
    have hread := keysRead_mapAccess h (x := []) (by decide) []
    rw [List.nil_append, List.append_nil] at hread
    exact hread
  | enumerated =>
    have hread := keysRead_mapAccess h (hn.quoteless.append (t := "FromString(") (by decide)) ")"
    rw [keysRead_of_quoteless (t := ")") (by decide), ← List.append_assoc] at hread
    exact hread
  | nested =>
    have hcompanion : Quoteless (companionType f.type suffix) :=
      ⟨notMem_companionType hs.1 htype.1, notMem_companionType hs.2 htype.2⟩
    have hsecond := keysRead_mapAccess h
      ((Quoteless.append (s := " != null ? ") (by decide) hcompanion).append (t := ".fromMap(") (by decide))
      (") : ".toList ++ f.nullFallback)
    rw [keysRead_nullFallback h] at hsecond
    have hread := keysRead_mapAccess h (x := []) (by decide)
      (" != null ? ".toList ++ companionType f.type suffix ++ ".fromMap(".toList ++
        (f.mapAccess ++ (") : ".toList ++ f.nullFallback)))
    rw [hsecond, List.nil_append] at hread
    simp only [← List.append_assoc] at hread
    exact hread

/-! ### Lines that are read -/

/-- What starts with a mark ends an identifier. -/
theorem identifier?_append (hn : f.name.IsIdentifier) {d : Char} (hd : isIdentifierPart d = false) (r : Text) :
    Text.identifier? (f.name ++ d :: r) = some (f.name, d :: r) := by
  refine Text.identifier?_eq_some_iff.mpr ⟨rfl, hn, fun e he => ?_⟩
  obtain rfl : d = e := Option.some.inj he
  exact hd

theorem argument?_decodeLine (hn : f.name.IsIdentifier) :
    argument? (f.decodeLine suffix) = some (f.name, f.decodeExpr suffix) := by
  have hexpr : framed? ": " "," (':' :: (" ".toList ++ f.decodeExpr suffix ++ ",".toList)) =
      some (f.decodeExpr suffix) := framed?_append ": " (f.decodeExpr suffix) ","
  have hline : f.decodeLine suffix =
      "      ".toList ++ (f.name ++ ':' :: (" ".toList ++ f.decodeExpr suffix ++ ",".toList)) := by
    show "      ".toList ++ f.name ++ ": ".toList ++ f.decodeExpr suffix ++ ",".toList = _
    simp only [List.append_assoc]
    rfl
  have hcolon : isIdentifierPart ':' = false := isIdentifierPart_of_mem_marks (by decide)
  rw [argument?, hline, Text.stripPrefix?_append]
  simp only [Option.bind_eq_bind, Option.bind_some, identifier?_append hn hcolon,
    hexpr, Option.pure_def]

theorem written?_entryLine (hkey : '\'' ∉ f.key) : written? f.entryLine = some (f.key, f.encodeExpr) := by
  have hrun : ∀ d ∈ f.key, (d != '\'') = true := fun d hd => bne_iff_ne.mpr fun e => hkey (e ▸ hd)
  have hvalue : framed? "': " "," ('\'' :: (": ".toList ++ f.encodeExpr ++ ",".toList)) = some f.encodeExpr :=
    framed?_append "': " f.encodeExpr ","
  have hline : f.entryLine =
      "      '".toList ++ (f.key ++ '\'' :: (": ".toList ++ f.encodeExpr ++ ",".toList)) := by
    show "      '".toList ++ f.key ++ "': ".toList ++ f.encodeExpr ++ ",".toList = _
    simp only [List.append_assoc]
    rfl
  rw [written?, hline, Text.stripPrefix?_append]
  simp only [Option.bind_eq_bind, Option.bind_some, Text.takeWhile_run hrun (b := '\'' :: _) (by simp),
    Text.dropWhile_run hrun (b := '\'' :: _) (by simp), hvalue, Option.pure_def]

theorem compared?_comparison (hn : f.name.IsIdentifier) :
    compared? (f.comparison ++ " &&".toList) = some f.name ∧
      compared? (f.comparison ++ ";".toList) = some f.name := by
  have hline (stop : Text) : f.comparison ++ stop =
      "        other.".toList ++ (f.name ++ ' ' :: ("== ".toList ++ f.name ++ stop)) := by
    show "        other.".toList ++ f.name ++ " == ".toList ++ f.name ++ stop = _
    simp only [List.append_assoc]
    rfl
  have hblank : isIdentifierPart ' ' = false := isIdentifierPart_of_isBlank (by decide)
  constructor
  · rw [compared?, hline, Text.stripPrefix?_append]
    simp only [Option.bind_eq_bind, Option.bind_some, identifier?_append hn hblank]
    exact if_pos (Bool.or_eq_true_iff.mpr (.inl (beq_iff_eq.mpr rfl)))
  · rw [compared?, hline, Text.stripPrefix?_append]
    simp only [Option.bind_eq_bind, Option.bind_some, identifier?_append hn hblank]
    exact if_pos (Bool.or_eq_true_iff.mpr (.inr (beq_iff_eq.mpr rfl)))

theorem hashed?_hashLine (hn : f.name.IsIdentifier) : hashed? f.hashLine = some f.name := by
  have hline : f.hashLine = "      ".toList ++ (f.name ++ '.' :: "hashCode ^".toList) := by
    show "      ".toList ++ f.name ++ ".hashCode ^".toList = _
    rw [List.append_assoc]
    rfl
  have hdot : isIdentifierPart '.' = false := by decide +kernel
  rw [hashed?, hline, Text.stripPrefix?_append]
  simp only [Option.bind_eq_bind, Option.bind_some, identifier?_append hn hdot]
  exact if_pos (by decide)

theorem shown?_interpolation (hn : f.name.IsIdentifier) : shown? f.interpolation = some f.name := by
  have hshown : f.interpolation = f.name ++ ':' :: (" $\x7b".toList ++ f.name ++ "\x7d".toList) := by
    show f.name ++ ": $\x7b".toList ++ f.name ++ "\x7d".toList = _
    simp only [List.append_assoc]
    rfl
  have hcolon : isIdentifierPart ':' = false := isIdentifierPart_of_mem_marks (by decide)
  rw [shown?, hshown]
  simp only [Option.bind_eq_bind, Option.bind_some, identifier?_append hn hcolon]
  exact if_pos (beq_iff_eq.mpr rfl)

theorem trimStart_interpolation (hn : f.name.IsIdentifier) : f.interpolation.trimStart = f.interpolation := by
  rw [interpolation, List.append_assoc, List.append_assoc, hn.trimStart_append]

end Field

/-! ### Lists that are read -/

namespace Section

theorem mapM_map_of_some {p : Text → Option α} {line : Field → Text} {q : Field → α} {fs : List Field}
    (h : ∀ f ∈ fs, p (line f) = some (q f)) : (fs.map line).mapM p = some (fs.map q) := by
  induction fs with
  | nil => rfl
  | cons f fs ih =>
    rw [List.map_cons, List.mapM_cons, h f List.mem_cons_self, ih fun g hg => h g (List.mem_cons_of_mem _ hg)]
    rfl

theorem mapM_endLines {p : Text → Option α} {line : Field → Text} {q : Field → α} {sep last : Text}
    {fs : List Field} (h : ∀ f ∈ fs, p (line f ++ sep) = some (q f) ∧ p (line f ++ last) = some (q f)) :
    (TransferClass.endLines sep last (fs.map line)).mapM p = some (fs.map q) := by
  induction fs with
  | nil => rfl
  | cons f fs ih =>
    have hf := h f List.mem_cons_self
    have hfs := ih fun g hg => h g (List.mem_cons_of_mem _ hg)
    cases fs with
    | nil =>
      show [line f ++ last].mapM p = _
      rw [List.mapM_cons, hf.2]
      rfl
    | cons g gs =>
      show ((line f ++ sep) :: TransferClass.endLines sep last ((g :: gs).map line)).mapM p = _
      rw [List.mapM_cons, hf.1, hfs]
      rfl

/-- A line that is read is not the last one, which is not. -/
theorem ne_of_read {p : Text → Option α} {closing l : Text} {a : α} (hclosing : p closing = none)
    (h : p l = some a) : l ≠ closing :=
  ne_of_apply_ne p (by simp [h, hclosing])

theorem findSome?_framed {before after : List Text} {start stop m : Text}
    (hb : ∀ l ∈ before, ∀ m, l ≠ start ++ m ++ stop) :
    (before ++ (start ++ m ++ stop) :: after).findSome? (framed? start stop) = some m := by
  have hnone : before.findSome? (framed? start stop) = none := by
    refine List.findSome?_eq_none_iff.mpr fun l hl => ?_
    exact Option.eq_none_iff_forall_ne_some.mpr fun m' hm => hb l hl m' (framed?_eq_some_iff.mp hm)
  rw [List.findSome?_append, hnone, Option.none_or, List.findSome?_cons, framed?_append]

theorem joinWith_comma (t : Text) (ts : List Text) :
    Text.joinWith ", " (t :: ts) = Text.joinWith [','] (t :: ts.map (' ' :: ·)) := by
  induction ts generalizing t with
  | nil => rfl
  | cons u us ih =>
    rw [List.map_cons, Text.joinWith_cons _ _ (List.cons_ne_nil u us), ih,
      Text.joinWith_cons _ _ (List.cons_ne_nil _ _)]
    cases us with
    | nil => simp
    | cons v vs => simp [Text.joinWith_cons]

theorem listed_joinWith {ts : List Text} (hne : ts ≠ []) (hts : ∀ t ∈ ts, ',' ∉ t ∧ t.trimStart = t) :
    listed (Text.joinWith ", " ts) = ts := by
  obtain ⟨t, ts, rfl⟩ := List.exists_cons_of_ne_nil hne
  obtain ⟨ht, hts⟩ := List.forall_mem_cons.mp hts
  have hcomma : ∀ u ∈ t :: ts.map (' ' :: ·), ',' ∉ u :=
    List.forall_mem_cons.mpr ⟨ht.1, List.forall_mem_map.mpr fun u hu => by simpa using (hts u hu).1⟩
  have htrim : ts.map (Text.trimStart ∘ (' ' :: ·)) = ts := by
    refine (List.map_congr_left fun u hu => ?_).trans (List.map_id ts)
    exact (hts u hu).2
  rw [listed, joinWith_comma, Text.splitOn_joinWith (List.cons_ne_nil _ _) hcomma, List.map_cons, List.map_map,
    htrim, ht.2]

end Section

end DartTransfer

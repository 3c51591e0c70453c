import DartTransfer.Proofs.Generated
import DartTransfer.Proofs.NameWords

/-!
# Which fields share a key

Two names have one key under a style when they are alike under it (`KeyStyle.convert_eq_iff`). So the
keys of a generated class are distinct exactly when no two of its field names are alike
(`Generation.keys_distinct_iff`), which distinct names are only where a name is its own key.
-/

namespace DartTransfer

namespace KeyStyle

/-- What the style does not tell apart. -/
def Alike (s : KeyStyle) (a b : Text) : Prop :=
  match s with
  | camel => CamelAlike a b
  | snake => (wordsOf '_' a).map Text.toLower = (wordsOf '_' b).map Text.toLower
  | pascal => (Text.splitOn '_' a).flatMap capitalize = (Text.splitOn '_' b).flatMap capitalize
  | kebab => (wordsOf '-' a).map Text.toLower = (wordsOf '-' b).map Text.toLower
  | asDeclared => a = b

theorem convert_eq_iff (s : KeyStyle) (a b : Text) : s.convert a = s.convert b ↔ s.Alike a b := by
  cases s with
  | camel => exact joinWords_eq_iff
  | snake => exact toLower_splitWords_inj (by decide) Text.isBarrier_underscore (by decide) (by decide)
  | pascal =>
    rw [convert, convert, (capitalizeWords_eq a).1, (capitalizeWords_eq b).1]
    exact Iff.rfl
  | kebab => exact toLower_splitWords_inj (by decide) Text.isBarrier_hyphen (by decide) (by decide)
  | asDeclared => exact Iff.rfl

end KeyStyle

theorem Field.mapAccess_inj {f f' : Field} : f.mapAccess = f'.mapAccess ↔ f.key = f'.key := by
  have happ (g : Field) : g.mapAccess = "map['".toList ++ g.key ++ "']".toList := rfl
  rw [happ, happ, List.append_left_inj, List.append_right_inj]

namespace Generation
variable {t : Text} {o : Options} {g : Generation}

theorem key_eq (h : generate t o = .ok g) {c : DataClass} (hc : c ∈ g.classes) {f : Field}
    (hf : f ∈ c.fields) : f.key = o.style.convert f.name := by
  obtain ⟨d, k, rfl⟩ := exists_resolve h hc hf
  rfl

/-- Two fields of a class have one key exactly when their names are alike; so the map that is written
has an entry for each field, and no entry is read twice, exactly when no two names are alike. -/
theorem keys_distinct_iff (h : generate t o = .ok g) {c : DataClass} (hc : c ∈ g.classes) :
    (∀ f ∈ c.fields, ∀ f' ∈ c.fields, f.key = f'.key ↔ o.style.Alike f.name f'.name) ∧
      ((c.fields.map (·.key)).Nodup ↔
        (c.fields.map (·.name)).Pairwise fun a b => ¬ o.style.Alike a b) ∧
      ((c.fields.map (·.mapAccess)).Nodup ↔
        (c.fields.map (·.name)).Pairwise fun a b => ¬ o.style.Alike a b) ∧
      (o.style = .asDeclared → (c.fields.map (·.name)).Nodup → (c.fields.map (·.key)).Nodup) := by
  have halike : ∀ f ∈ c.fields, ∀ f' ∈ c.fields, f.key = f'.key ↔ o.style.Alike f.name f'.name := by
    intro f hf f' hf'
    rw [key_eq h hc hf, key_eq h hc hf', KeyStyle.convert_eq_iff]
  have hkeys : (c.fields.map (·.key)).Nodup ↔
      (c.fields.map (·.name)).Pairwise fun a b => ¬ o.style.Alike a b := by
    rw [List.nodup_iff_pairwise_ne, List.pairwise_map, List.pairwise_map]
    exact List.Pairwise.iff_of_mem fun hf hf' => not_congr (halike _ hf _ hf')
  have haccess : (c.fields.map (·.mapAccess)).Nodup ↔ (c.fields.map (·.key)).Nodup := by
    rw [List.nodup_iff_pairwise_ne, List.nodup_iff_pairwise_ne, List.pairwise_map, List.pairwise_map]
    exact List.Pairwise.iff fun _ _ => not_congr Field.mapAccess_inj
  refine ⟨halike, hkeys, haccess.trans hkeys, fun hstyle hnames => hkeys.mpr ?_⟩
  rw [hstyle]
  exact List.nodup_iff_pairwise_ne.mp hnames

/-- A class with one name in two spellings. -/
def twoSpellings : Text := "class A \x7b\n  final int userId;\n  final int user_id;\n\x7d\n"

theorem keys_distinct_iff_twoSpellings :
    ∃ g, generate twoSpellings { style := .kebab } = .ok g ∧ ∃ c ∈ g.classes,
      ((c.fields.map (·.key)).Nodup ↔
        (c.fields.map (·.name)).Pairwise fun a b => ¬ KeyStyle.kebab.Alike a b) := by
  obtain ⟨g, hg, hne⟩ := exists_generation_of_any (t := twoSpellings) (o := { style := .kebab })
    (p := (!·.classes.isEmpty)) (by decide +kernel)
  obtain ⟨c, hc⟩ := List.exists_mem_of_ne_nil g.classes (by simpa using hne)
  exact ⟨g, hg, c, hc, (keys_distinct_iff hg hc).2.1⟩

/-- Two distinct names with one key. -/
theorem shared_key_twoSpellings :
    ∃ g ∈ (generate twoSpellings { style := .snake }).toOption, ∃ c ∈ g.classes,
      (c.fields.map (·.name)).Nodup ∧ ¬ (c.fields.map (·.key)).Nodup := by
  decide +kernel

end Generation

end DartTransfer

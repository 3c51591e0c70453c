import DartTransfer.CommandLine.Arguments
import Mathlib.Data.List.Basic

/-!
# One more switch

What `generate` is asked for is read off all its items at once (`Grammar.read_of_request?`), and an item that
no later one repeats changes nothing but what it says itself. So the switch that lists the edits can be put
right behind the name of the command, where nothing waits for a value (`exists_withListing`).
-/

namespace DartTransfer.CommandLine

/-- The switch that asks for the edits themselves. -/
def listing : Item := .given "edits-json" none

namespace Grammar
variable {g : Grammar} {v v' : Bool} {before is : List Item} {c : Command}

/-- By induction on the items, none of which may be refused or ask for help. -/
theorem read_of_request? (h : g.request? v before is = some (.run v' c)) : g.read (before ++ is) = some c := by
  induction is generalizing before with
  | nil =>
    obtain ⟨c', hc', hrun⟩ := Option.map_eq_some_iff.mp h
    rw [List.append_nil, hc', (Request.run.inj hrun).2]
  | cons i is ih =>
    rw [request?] at h
    split at h
    · exact absurd h nofun
    · split at h
      · exact absurd h nofun
      · rw [← List.singleton_append, ← List.append_assoc]
        exact ih h

theorem allows_listing {i : Item} (hi : i.names "edits-json" = false) :
    g.allows (listing :: before) i = g.allows before i := by
  cases i with
  | misfit => rfl
  | operand t => rfl
  | given l v =>
    have hne : (("edits-json" : Text) == l) = false := by
      rw [beq_eq_false_iff_ne]
      rintro rfl
      exact absurd hi (by simp [Item.names])
    have hhas : has (listing :: before) l = has before l := by
      show ((("edits-json" : Text) == l) || has before l) = _
      rw [hne, Bool.false_or]
    show (!has (listing :: before) l && _) = (!has before l && _)
    rw [hhas]

end Grammar

theorem read_generate {is : List Item} {a : GenerateArguments}
    (h : generateGrammar.read is = some (.generate a)) : a = generateArguments is ∧ a.areCompatible = true := by
  change (if (generateArguments is).areCompatible then some (Command.generate (generateArguments is))
    else none) = _ at h
  split at h
  · next hcompatible =>
    cases h
    exact ⟨rfl, hcompatible⟩
  · exact absurd h nofun

theorem request?_listing {v v' : Bool} {before is : List Item} {a : GenerateArguments}
    (h : generateGrammar.request? v before is = some (.run v' (.generate a))) (ha : a.editsJson = false) :
    generateGrammar.request? v (listing :: before) is =
      some (.run v' (.generate { a with editsJson := true })) := by
  induction is generalizing before with
  | nil =>
    obtain ⟨c, hc, hrun⟩ := Option.map_eq_some_iff.mp h
    obtain ⟨rfl, rfl⟩ := Request.run.inj hrun
    obtain ⟨rfl, hcompatible⟩ := read_generate hc
    have hread : generateGrammar.read (listing :: before) =
        some (.generate { generateArguments before with editsJson := true }) := if_pos hcompatible
    rw [Grammar.request?, hread]
    rfl
  | cons i is ih =>
    have hnames : i.names "edits-json" = false := by
      have hread := (read_generate (Grammar.read_of_request? h)).1
      rw [hread] at ha
      have hhas : has (before ++ i :: is) "edits-json" = false := ha
      rw [has, List.any_append, List.any_cons, Bool.or_eq_false_iff, Bool.or_eq_false_iff] at hhas
      exact hhas.2.1
    rw [Grammar.request?, Grammar.allows_listing hnames]
    rw [Grammar.request?] at h
    split at h
    · exact absurd h nofun
    · next hallows =>
      rw [if_neg hallows]
      split at h
      · exact absurd h nofun
      · next hhelp =>
        rw [if_neg hhelp]
        exact ih h

theorem scan_listing (args : List Text) :
    scan generateGrammar.allSwitches ("--edits-json" :: args) =
      listing :: scan generateGrammar.allSwitches args := by
  have hitems : itemsOf generateGrammar.allSwitches "--edits-json" = ([listing], none) := rfl
  rw [scan.eq_def]
  simp only [hitems]
  rfl

/-! ### The name of the command -/

theorem grammar?_eq_some {name : Text} {g : Grammar} (h : grammar? name = some g) :
    (name = "generate".toList ∧ g = generateGrammar) ∨ (name = "convert".toList ∧ g = convertGrammar) ∨
      (name = "check".toList ∧ g = checkGrammar) := by
  rw [grammar?] at h
  split at h
  · next hname => exact .inl ⟨eq_of_beq hname, (Option.some.inj h).symm⟩
  · split at h
    · next hname => exact .inr (.inl ⟨eq_of_beq hname, (Option.some.inj h).symm⟩)
    · split at h
      · next hname => exact .inr (.inr ⟨eq_of_beq hname, (Option.some.inj h).symm⟩)
      · exact absurd h nofun

theorem request?_command {name : Text} {g : Grammar} (h : grammar? name = some g) (v : Bool) (rest : List Text) :
    request? v (name :: rest) = g.request? v [] (scan g.allSwitches rest) := by
  rcases grammar?_eq_some h with ⟨rfl, rfl⟩ | ⟨rfl, rfl⟩ | ⟨rfl, rfl⟩ <;> rfl

theorem leadingLetters?_not_run {v v' v'' : Bool} {c : Command} {t : Text} :
    leadingLetters? v t ≠ some (some (.run v' c), v'') := by
  fun_induction leadingLetters? v t with
  | case1 => exact nofun
  | case2 => exact nofun
  | case3 => exact nofun
  | case4 => exact nofun
  | case5 => assumption
  | case6 => exact nofun

theorem help?_not_run {v : Bool} {c : Command} {args : List Text} : help? args ≠ some (.run v c) := by
  rw [help?.eq_def]
  split
  · exact nofun
  · split <;> exact nofun
  · exact nofun

/-- A request to run something names a command, and what stands ahead of the name leads to it whatever comes
after it. -/
theorem exists_command {v v' : Bool} {args : List Text} {c : Command}
    (h : request? v args = some (.run v' c)) : ∃ before name after v₁ g, args = before ++ name :: after ∧
      grammar? name = some g ∧
      ∀ rest, request? v (before ++ name :: rest) = g.request? v₁ [] (scan g.allSwitches rest) := by
  fun_induction request? v args with
  | case1 => exact absurd h nofun
  | case2 => exact absurd h nofun
  | case3 => exact absurd h nofun
  | case4 => exact absurd h nofun
  | case5 v a rest _ _ hverbose hv ih =>
    obtain rfl : a = "--verbose".toList := eq_of_beq hverbose
    obtain rfl : v = false := Bool.not_eq_true v ▸ hv
    obtain ⟨before, name, after, v₁, g, rfl, hg, hrequest⟩ := ih h
    exact ⟨"--verbose".toList :: before, name, after, v₁, g, rfl, hg, hrequest⟩
  | case6 => exact absurd h help?_not_run
  | case7 v a rest _ _ _ _ g hg => exact ⟨[], a, rest, v, g, rfl, hg, request?_command hg v⟩
  | case8 v rest l t v₁ hletters hversion hhelp hverbose hname hg ih =>
    obtain ⟨before, name, after, v₂, g, rfl, hg', hrequest⟩ := ih h
    refine ⟨('-' :: l :: t) :: before, name, after, v₂, g, rfl, hg', fun rest => ?_⟩
    rw [List.cons_append, request?.eq_def]
    simp only [if_neg hversion, if_neg hhelp, if_neg hverbose, if_neg hname]
    rw [hg]
    simp only [hletters]
    exact hrequest rest
  | case9 v rest l t r v₁ hletters =>
    rw [Option.some.inj h] at hletters
    exact absurd hletters leadingLetters?_not_run
  | case10 => exact absurd h nofun
  | case11 v a rest _ _ _ _ hg hletters =>
    split at h
    · next hg' => exact absurd (hg.symm.trans hg') nofun
    · exact (hletters _ _ rfl).elim
    · exact absurd h nofun

theorem convert_not_generate {is : List Item} {a : GenerateArguments} :
    convertGrammar.read is ≠ some (.generate a) := by
  intro h
  simp only [convertGrammar] at h
  split at h
  · obtain ⟨k, -, hconvert⟩ := Option.map_eq_some_iff.mp h
    cases hconvert
  · cases h

/-- A run of `generate` that does not list its edits is one that does once the switch is put behind the name. -/
theorem exists_withListing {v : Bool} {args : List Text} {a : GenerateArguments}
    (h : Request.parse? args = some (.run v (.generate a))) (ha : a.editsJson = false) :
    ∃ before after, args = before ++ "generate".toList :: after ∧
      Request.parse? (before ++ "generate".toList :: "--edits-json".toList :: after) =
        some (.run v (.generate { a with editsJson := true })) := by
  obtain ⟨before, name, after, v₁, g, rfl, hg, hrequest⟩ := exists_command h
  rw [Request.parse?, hrequest] at h
  have hread := Grammar.read_of_request? h
  rcases grammar?_eq_some hg with ⟨rfl, rfl⟩ | ⟨rfl, rfl⟩ | ⟨rfl, rfl⟩
  · refine ⟨before, after, rfl, ?_⟩
    rw [Request.parse?, hrequest, scan_listing, Grammar.request?, if_neg (by decide), if_neg (by decide)]
    exact request?_listing h ha
  · exact absurd hread convert_not_generate
  · exact absurd hread nofun

end DartTransfer.CommandLine

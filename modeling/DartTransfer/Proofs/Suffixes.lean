import DartTransfer.Proofs.Questions
import DartTransfer.Proofs.ReadBack

/-!
# Where a suffix comes from

A suffix is set in advance, offered, or typed. Validation looks at the first two, and a question gives no
answer but one that it has accepted, however many it has refused before and whatever becomes of the screen
(`Session.answer_of_ask`). So the suffix of a run with validated settings follows an identifier, and the
classes that the run generates are named by identifiers (`Settings.suffix_isIdentifierTail`).
-/

namespace DartTransfer

/-! ### Answers -/

namespace Prompter
variable {σ : Type}

/-- An offer that can follow an identifier is answered by a suffix that can. -/
def KeepsTails (p : Prompter (StateM σ)) : Prop :=
  ∀ offer, isIdentifierTail offer = true → ∀ w t, (p.suffix offer w).1 = some t → isIdentifierTail t = true

theorem terminal_keepsTails : terminal.KeepsTails := by
  intro offer hoffer w t h
  obtain ⟨-, -, answer, -, hanswer⟩ := Session.answer_of_ask h
  rcases Question.judge_suffix_eq_ok_iff.mp hanswer with ⟨-, rfl⟩ | ⟨-, htail, rfl⟩
  · exact hoffer
  · exact htail

theorem offered_keepsTails : (offered : Prompter (StateM σ)).KeepsTails := by
  intro offer hoffer w t h
  exact Option.some.inj h ▸ hoffer

end Prompter

/-! ### Collected options -/

namespace Settings
variable {σ : Type} {p : Prompter (StateM σ)} {s : Settings} {w : σ} {o : Options}

theorem isIdentifierTail_of_validate (h : s.validate = .ok s) :
    (∀ t ∈ s.suffix, isIdentifierTail t = true) ∧ isIdentifierTail s.defaultSuffix = true := by
  rw [validate] at h
  split at h
  · cases h
  · next hbad =>
    rw [badSuffix?, List.find?_eq_none] at hbad
    have hgood : ∀ t ∈ s.suffix.toList ++ [s.defaultSuffix], isIdentifierTail t = true := by
      intro t ht
      simpa using hbad t ht
    obtain ⟨hset, hoffer⟩ := List.forall_mem_append.mp hgood
    exact ⟨fun t ht => hset t (Option.mem_toList.mpr ht), hoffer _ (List.mem_singleton.mpr rfl)⟩

theorem collect_eq (p : Prompter (StateM σ)) (s : Settings) (w : σ) : s.collect p w =
    match s.suffixFrom p w with
    | (none, w) => (.error .suffixCancelled, w)
    | (some suffix, w) =>
      match s.styleFrom p w with
      | (none, w) => (.error .styleCancelled, w)
      | (some style, w) => (.ok (s.options suffix style), w) := by
  simp only [collect, bind, StateT.bind]
  rcases s.suffixFrom p w with ⟨_ | suffix, w⟩
  · rfl
  · dsimp only
    simp only [bind, StateT.bind]
    rcases s.styleFrom p w with ⟨_ | style, w⟩ <;> rfl

theorem suffixFrom_of_collect (h : (s.collect p w).1 = .ok o) : (s.suffixFrom p w).1 = some o.suffix := by
  rw [collect_eq] at h
  generalize s.suffixFrom p w = asked at h ⊢
  rcases asked with ⟨_ | suffix, w'⟩
  · exact absurd h nofun
  · dsimp only at h
    generalize s.styleFrom p w' = asked at h
    rcases asked with ⟨_ | style, w''⟩
    · exact absurd h nofun
    · exact congrArg some (congrArg Options.suffix (Except.ok.inj h))

theorem isIdentifierTail_of_collect (hs : s.validate = .ok s) (hp : p.KeepsTails)
    (h : (s.collect p w).1 = .ok o) : isIdentifierTail o.suffix = true := by
  obtain ⟨hset, hoffer⟩ := isIdentifierTail_of_validate hs
  have hsuffix := suffixFrom_of_collect h
  rw [suffixFrom] at hsuffix
  cases hset' : s.suffix with
  | some t =>
    rw [hset'] at hsuffix
    exact hset _ (hset'.trans hsuffix)
  | none =>
    rw [hset'] at hsuffix
    exact hp _ hoffer _ _ hsuffix

end Settings

/-- A run generates from the text that it is given, with the options that it collects. -/
theorem run_eq_ok {σ : Type} {p : Prompter (StateM σ)} {s : Settings} {w : σ} {target : Option Text}
    {g : Generation} (h : (run p s target w).1 = .ok g) :
    ∃ t o, target = some t ∧ (s.collect p w).1 = .ok o ∧ generate t o = .ok g := by
  cases target with
  | none => exact absurd h nofun
  | some t =>
    have hrun : (run p s (some t) w).1 = (s.collect p w).1.bind (generate t) := rfl
    rw [hrun] at h
    cases ho : (s.collect p w).1 with
    | error fault =>
      rw [ho] at h
      exact absurd h nofun
    | ok o =>
      rw [ho] at h
      exact ⟨t, o, rfl, rfl, h⟩

namespace TransferClass

/-- The text of a class starts with its whole name. -/
theorem identifier?_render {c : DataClass} {o : Options} (hn : (nameFor c.name o).IsIdentifier) :
    ∃ rest, render c o = "class ".toList ++ nameFor c.name o ++ rest ∧
      Text.identifier? (nameFor c.name o ++ rest) = some (nameFor c.name o, rest) := by
  obtain ⟨header, hhead, -, hblank⟩ := exists_header c o
  refine ⟨header ++ '\x7b' :: '\n' :: (bodyLines c o).flatMap (· ++ ['\n']), ?_, ?_⟩
  · rw [render_eq, hhead, List.append_assoc _ (header ++ ['\x7b']), List.append_assoc header,
      List.singleton_append]
  · refine Text.identifier?_eq_some_iff.mpr ⟨rfl, hn, ?_⟩
    intro d hd
    rw [List.head?_append, hblank] at hd
    obtain rfl : ' ' = d := Option.some.inj hd
    exact isIdentifierPart_of_isBlank (by decide)

end TransferClass

namespace Settings

/-- No suffix breaks a name. With validated settings, a terminal and the defaults lead to nothing but suffixes
that can follow an identifier, whatever is typed and whenever the screen fails; and each class that a run
generates is named by one whole identifier. -/
theorem suffix_isIdentifierTail {s : Settings} (hs : s.validate = .ok s) {p : Prompter (StateM Session)}
    (hp : p = .terminal ∨ p = .offered) (session : Session) :
    (∀ o, (s.collect p session).1 = .ok o → isIdentifierTail o.suffix = true) ∧
    ∀ target g, (run p s target session).1 = .ok g → ∃ t o, target = some t ∧
      (s.collect p session).1 = .ok o ∧ generate t o = .ok g ∧ ∀ c ∈ g.classes,
        (TransferClass.nameFor c.name o).IsIdentifier ∧
        ∃ rest, TransferClass.render c o = "class ".toList ++ TransferClass.nameFor c.name o ++ rest ∧
          Text.identifier? (TransferClass.nameFor c.name o ++ rest) =
            some (TransferClass.nameFor c.name o, rest) := by
  have hkeeps : p.KeepsTails := by
    rcases hp with rfl | rfl
    · exact Prompter.terminal_keepsTails
    · exact Prompter.offered_keepsTails
  have htail (o : Options) (ho : (s.collect p session).1 = .ok o) : isIdentifierTail o.suffix = true :=
    isIdentifierTail_of_collect hs hkeeps ho
  refine ⟨htail, fun target g hg => ?_⟩
  obtain ⟨t, o, ht, ho, hgen⟩ := run_eq_ok hg
  refine ⟨t, o, ht, ho, hgen, fun c hc => ?_⟩
  have hn : (TransferClass.nameFor c.name o).IsIdentifier :=
    TransferClass.nameFor_isIdentifier (Generation.classes_wellFormed hgen c hc)
      (isIdentifierPart_of_isIdentifierTail (htail o ho))
  exact ⟨hn, TransferClass.identifier?_render hn⟩

/-- A suffix with a blank in it, then one without, and the default style. -/
def secondTry : Session where
  input := "a b\nVm\n\n".toUTF8.toList

theorem suffix_isIdentifierTail_secondTry : ∃ t g,
    (run Prompter.terminal {} (some t) secondTry).1 = .ok g ∧ g.classes ≠ [] ∧
    ∃ o, (collect Prompter.terminal {} secondTry).1 = .ok o ∧ o.suffix = "Vm" ∧
      isIdentifierTail o.suffix = true ∧ ∀ c ∈ g.classes, (TransferClass.nameFor c.name o).IsIdentifier := by
  have hrun : (run Prompter.terminal {} (some "class A\x7bfinal B b;\x7d") secondTry).1 =
      generate "class A\x7bfinal B b;\x7d" { suffix := "Vm" } := by
    decide +kernel
  obtain ⟨g, hg, hne⟩ := exists_generation_of_any (t := "class A\x7bfinal B b;\x7d") (o := { suffix := "Vm" })
    (p := (!·.classes.isEmpty)) (by decide +kernel)
  obtain ⟨htails, hnames⟩ := suffix_isIdentifierTail (s := {}) rfl (.inl rfl) secondTry
  obtain ⟨-, o, -, ho, -, hclasses⟩ := hnames _ g (hrun.trans hg)
  have hcollect : (collect Prompter.terminal {} secondTry).1 = .ok { suffix := "Vm" } := by decide +kernel
  refine ⟨_, g, hrun.trans hg, by simpa using hne, o, ho, ?_, htails o ho, fun c hc => (hclasses c hc).1⟩
  exact congrArg Options.suffix (Except.ok.inj (ho.symm.trans hcollect))

end Settings

end DartTransfer

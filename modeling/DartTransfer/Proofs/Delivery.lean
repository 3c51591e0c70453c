import DartTransfer.CommandLine.Disk
import DartTransfer.Proofs.InTurn
import DartTransfer.Proofs.JsonText
import DartTransfer.Proofs.Switches

/-!
# Where a result goes

A run of `generate` reads, asks and generates without a thought of where its result goes
(`runGenerate_cases`), and what fails on the way prints nothing. So the edits that a run lists are those that
it would apply (`edits_listed`), and a file is written last, whole, and with what would have been printed
(`Disk.delivers`).
-/

namespace DartTransfer.CommandLine

variable {σ : Type} {p : Prompter (StateM σ)} {w : σ} {h : Host} {v : Bool} {a : GenerateArguments} {t : Text}
  {log : List Note} {passes : Event → Bool} {r : Except Fault Generation}

/-- The same run with the output stream as its one destination. -/
def GenerateArguments.plain (a : GenerateArguments) : GenerateArguments :=
  { a with output := none, inPlace := false, editsJson := false }

theorem exists_of_bind_eq_ok {ε α β : Type} {x : Except ε α} {f : α → Except ε β} {b : β}
    (h : x >>= f = .ok b) : ∃ a, x = .ok a ∧ f a = .ok b := by
  cases x with
  | error e => exact absurd h nofun
  | ok a => exact ⟨a, rfl, h⟩

theorem readSource_of_prepare {s : Settings} (hp : prepare passes h a = (log, .ok (s, t))) :
    readSource h a.input = .ok t := by
  obtain ⟨loaded, -, hp⟩ := exists_of_bind_eq_ok (congrArg Prod.snd hp)
  obtain ⟨settings, -, hp⟩ := exists_of_bind_eq_ok hp
  obtain ⟨source, hsource, hp⟩ := exists_of_bind_eq_ok hp
  rw [hsource, (Prod.mk.inj (Except.ok.inj hp)).2]

/-- Runs that differ in their destinations alone fail alike or generate alike. -/
theorem runGenerate_cases (p : Prompter (StateM σ)) (v : Bool) (h : Host) (a : GenerateArguments) (w : σ) :
    (∃ log failure, ∀ b : GenerateArguments, b.plain = a.plain →
      runGenerate p v h b w = (.failed [] log failure, w)) ∨
    ∃ log t r w', readSource h a.input = .ok t ∧ ∀ b : GenerateArguments, b.plain = a.plain →
      runGenerate p v h b w = (generated (h.passes v) b t log r, w') := by
  have hprepare (b : GenerateArguments) (hb : b.plain = a.plain) :
      prepare (h.passes v) h b = prepare (h.passes v) h a := calc
    prepare (h.passes v) h b = prepare (h.passes v) h b.plain := rfl
    _ = prepare (h.passes v) h a.plain := by rw [hb]
    _ = prepare (h.passes v) h a := rfl
  rcases hp : prepare (h.passes v) h a with ⟨log, failure | ⟨s, t⟩⟩
  · refine .inl ⟨log, failure, fun b hb => ?_⟩
    rw [runGenerate, hprepare b hb, hp]
    rfl
  · refine .inr ⟨log, t, (run p s (if (Text.trim t).isEmpty then none else some t) w).1,
      (run p s (if (Text.trim t).isEmpty then none else some t) w).2, readSource_of_prepare hp, fun b hb => ?_⟩
    rw [runGenerate, hprepare b hb, hp]
    rfl

/-! ### Listed edits -/

section
variable {g : Generation} {result : Text}

theorem generated_listing (passes : Event → Bool) (t : Text) (log : List Note) (g : Generation)
    (hlisting : a.editsJson = true) :
    generated passes a t log (.ok g) =
      { stdout := Edit.jsonArray g.edits ++ "\n", notes := log ++ generationLog passes g } := by
  rw [generated]
  exact if_pos hlisting

theorem generated_applied (passes : Event → Bool) (log : List Note) (hlisting : a.editsJson = false)
    (happly : g.apply t = .ok result) :
    generated passes a t log (.ok g) =
      match a.destination with
      | none => { stdout := result, notes := log ++ generationLog passes g }
      | some path =>
        { notes := log ++ generationLog passes g, write := some ⟨path, result, writtenNotice passes path g⟩ } := by
  simp only [generated, hlisting, happly, Bool.false_eq_true, if_false]
  cases a.destination <;> rfl

theorem generated_unapplied (passes : Event → Bool) (log : List Note) (hlisting : a.editsJson = false)
    {fault : EditFault} (happly : g.apply t = .error fault) :
    generated passes a t log (.ok g) = .failed [] (log ++ generationLog passes g)
      ⟨some "Failed to apply edits", (Fault.invalidEdit fault).message⟩ := by
  simp only [generated, hlisting, happly, Bool.false_eq_true, if_false]

/-- A run that goes well has generated, and either lists its edits or has applied them. -/
theorem exists_of_code_eq_zero (hcode : (generated passes a t log r).code = 0) :
    ∃ g, r = .ok g ∧ (a.editsJson = true ∨ ∃ result, a.editsJson = false ∧ g.apply t = .ok result) := by
  cases r with
  | error fault => exact absurd hcode nofun
  | ok g =>
    refine ⟨g, rfl, ?_⟩
    cases hlisting : a.editsJson with
    | true => exact .inl rfl
    | false =>
      cases happly : g.apply t with
      | error fault =>
        rw [generated_unapplied _ _ hlisting happly] at hcode
        exact absurd hcode nofun
      | ok result => exact .inr ⟨result, rfl, rfl⟩

end

theorem outcomeWith_generate {args : List Text} (hargs : Request.parse? args = some (.run v (.generate a))) :
    outcomeWith p h args w = runGenerate p v h a w := by
  rw [outcomeWith, hargs]
  rfl

/-- What a run lists is what it would do. Where `generate` succeeds and prints its result, the switch that lists
the edits can be put behind the name of the command, and every command line that asks for the same run with a list
succeeds too: the list is read back as edits that lie within the source and turn it into what was printed. It has the
same notes for the error stream, so the two texts there differ at most in the times that the log gives its events,
and are the same where these are. -/
theorem edits_listed {args : List Text} (hargs : Request.parse? args = some (.run v (.generate a)))
    (hlisting : a.editsJson = false) (houtput : a.output = none) (hplace : a.inPlace = false)
    (hcode : (outcomeWith p h args w).1.code = 0) :
    (∃ before after, args = before ++ "generate".toList :: after ∧
      Request.parse? (before ++ "generate".toList :: "--edits-json".toList :: after) =
        some (.run v (.generate { a with editsJson := true }))) ∧
    ∀ args', Request.parse? args' = some (.run v (.generate { a with editsJson := true })) →
      (outcomeWith p h args' w).1.code = 0 ∧
      (outcomeWith p h args' w).1.notes = (outcomeWith p h args w).1.notes ∧
      (∀ line, (outcomeWith p h args' w).1.stderrWith line = (outcomeWith p h args w).1.stderrWith line) ∧
      (outcomeWith p h args' w).1.write = none ∧ (outcomeWith p h args w).1.write = none ∧
      (outcomeWith p h args' w).2 = (outcomeWith p h args w).2 ∧
      ∃ t es, readSource h a.input = .ok t ∧
        Edit.batch? (outcomeWith p h args' w).1.stdout = some es ∧
        Edit.applyAll t es = .ok (outcomeWith p h args w).1.stdout ∧
        ∀ e ∈ es, e.span.start ≤ e.span.stop ∧ e.span.stop ≤ t.byteLength := by
  refine ⟨exists_withListing hargs hlisting, fun args' hargs' => ?_⟩
  rw [outcomeWith_generate hargs] at hcode ⊢
  rw [outcomeWith_generate hargs']
  rcases runGenerate_cases p v h a w with ⟨log, failure, hfailed⟩ | ⟨log, t, r, w', hsource, hgenerated⟩
  · rw [hfailed a rfl] at hcode
    exact absurd hcode nofun
  · rw [hgenerated a rfl] at hcode
    obtain ⟨g, rfl, hlisting' | ⟨result, -, happly⟩⟩ := exists_of_code_eq_zero hcode
    · exact absurd (hlisting.symm.trans hlisting') nofun
    · have hdestination : a.destination = none := by
        rw [GenerateArguments.destination, hplace]
        exact houtput
      rw [hgenerated a rfl, hgenerated { a with editsJson := true } rfl, generated_listing _ t log g rfl,
        generated_applied _ log hlisting happly, hdestination]
      exact ⟨rfl, rfl, fun _ => rfl, rfl, rfl, rfl, t, g.edits, hsource, Edit.batch?_jsonArray g.edits, happly,
        (Edit.isValid_of_applyAll happly).isIn⟩

/-- A run on the input stream, with a class that is skipped. -/
def fromStdin : Host where
  stdin := Text.toUtf8 "/// A \"π\".\nclass A \x7b\n  final B b;\n\x7d\nclass Empty \x7b\n\x7d\n"
  readFile _ := .error .missing

theorem edits_listed_fromStdin : ∃ t es,
    Edit.batch? (outcomeWith (Prompter.offered : Prompter (StateM Unit)) fromStdin
      ["generate", "--edits-json", "--multi"] ()).1.stdout = some es ∧
    Edit.applyAll t es =
      .ok (outcomeWith (Prompter.offered : Prompter (StateM Unit)) fromStdin ["generate", "--multi"] ()).1.stdout ∧
    (outcomeWith (Prompter.offered : Prompter (StateM Unit)) fromStdin
      ["generate", "--edits-json", "--multi"] ()).1.notes =
        [.event ⟨.warn, "skipping class", [("class", "Empty"), ("error", "no fields found in class Empty")]⟩,
          .text "Skipped Empty: no fields found in class Empty\n"] := by
  have hparse : Request.parse? ["generate", "--multi"] = some (.run false (.generate { multi := true })) := by
    decide +kernel
  obtain ⟨-, hlisted⟩ := edits_listed (p := (Prompter.offered : Prompter (StateM Unit))) (w := ())
    (h := fromStdin) hparse rfl rfl rfl (by decide +kernel)
  obtain ⟨-, hnotes, -, -, -, -, t, es, -, hes, happly, -⟩ :=
    hlisted ["generate", "--edits-json", "--multi"] (by decide +kernel)
  exact ⟨t, es, hes, happly, hnotes.trans (by decide +kernel)⟩

/-! ### Failures -/

/-- A failure prints nothing and writes nothing, and what writes a file prints nothing. -/
structure Outcome.IsQuiet (o : Outcome) : Prop where
  failed : o.code ≠ 0 → o.stdout = [] ∧ o.write = none
  written : o.write ≠ none → o.stdout = []

theorem Outcome.failed_isQuiet (log : List Note) (failure : Failure) : (failed [] log failure).IsQuiet :=
  ⟨fun _ => ⟨rfl, rfl⟩, fun _ => rfl⟩

theorem generated_isQuiet (passes : Event → Bool) (a : GenerateArguments) (t : Text) (log : List Note)
    (r : Except Fault Generation) : (generated passes a t log r).IsQuiet := by
  cases r with
  | error fault => exact Outcome.failed_isQuiet _ _
  | ok g =>
    cases hlisting : a.editsJson with
    | true =>
      rw [generated_listing _ t log g hlisting]
      exact ⟨fun hcode => absurd rfl hcode, fun hwrite => absurd rfl hwrite⟩
    | false =>
      cases happly : g.apply t with
      | error fault =>
        rw [generated_unapplied _ _ hlisting happly]
        exact Outcome.failed_isQuiet _ _
      | ok result =>
        rw [generated_applied _ log hlisting happly]
        cases a.destination with
        | none => exact ⟨fun hcode => absurd rfl hcode, fun hwrite => absurd rfl hwrite⟩
        | some path => exact ⟨fun hcode => absurd rfl hcode, fun _ => rfl⟩

theorem runGenerate_isQuiet (p : Prompter (StateM σ)) (v : Bool) (h : Host) (a : GenerateArguments) (w : σ) :
    (runGenerate p v h a w).1.IsQuiet := by
  rcases runGenerate_cases p v h a w with ⟨log, failure, hfailed⟩ | ⟨log, t, r, w', -, hgenerated⟩
  · rw [hfailed a rfl]
    exact Outcome.failed_isQuiet _ _
  · rw [hgenerated a rfl]
    exact generated_isQuiet _ _ _ _ _

/-- Of a run that goes well, what it writes is what the plain run prints. -/
theorem runGenerate_write (hcode : (runGenerate p v h a w).1.code = 0) :
    (a.editsJson = true ∨ a.destination = none → (runGenerate p v h a w).1.write = none) ∧
    ∀ path, a.editsJson = false → a.destination = some path → ∃ notice,
      (runGenerate p v h a w).1.write = some ⟨path, (runGenerate p v h a.plain w).1.stdout, notice⟩ ∧
      (runGenerate p v h a.plain w).1.code = 0 := by
  rcases runGenerate_cases p v h a w with ⟨log, failure, hfailed⟩ | ⟨log, t, r, w', -, hgenerated⟩
  · rw [hfailed a rfl] at hcode
    exact absurd hcode nofun
  · rw [hgenerated a rfl] at hcode ⊢
    rw [hgenerated a.plain rfl]
    obtain ⟨g, rfl, hlisting | ⟨result, hlisting, happly⟩⟩ := exists_of_code_eq_zero hcode
    · rw [generated_listing _ t log g hlisting]
      exact ⟨fun _ => rfl, fun path hlisting' => absurd (hlisting'.symm.trans hlisting) nofun⟩
    · rw [generated_applied _ log hlisting happly, generated_applied (a := a.plain) _ log rfl happly]
      refine ⟨fun hnone => ?_, fun path _ hpath => ?_⟩
      · rcases hnone with hlisting' | hnone
        · exact absurd (hlisting.symm.trans hlisting') nofun
        · rw [hnone]
      · rw [hpath]
        exact ⟨_, rfl, rfl⟩

namespace Disk
variable {d : Disk} {place : Place} {parts : List Text} {bytes : Bytes} {path : Text}

/-! ### Writing a file -/

theorem lookup_overwrite (files : List (List Text × Bytes)) (q : List Text) :
    (files.map fun (k, b) => if k == parts then (k, bytes) else (k, b)).lookup q =
      if q = parts then (files.lookup q).map fun _ => bytes else files.lookup q := by
  induction files with
  | nil => simp
  | cons file files ih =>
    obtain ⟨k, b⟩ := file
    have hkey : (if k == parts then (k, bytes) else (k, b)) = (k, if k == parts then bytes else b) := by
      split <;> rfl
    rw [List.map_cons]
    show List.lookup q ((if k == parts then (k, bytes) else (k, b)) :: _) = _
    rw [hkey, List.lookup_cons, List.lookup_cons]
    cases hq : q == k with
    | false => exact ih
    | true =>
      rw [eq_of_beq hq]
      by_cases hk : k = parts <;> simp [hk]

theorem lookup_write_self : (d.write (.below parts) bytes).files.lookup parts = some bytes := by
  cases hfile : d.files.lookup parts with
  | some b =>
    rw [write, if_pos (by rw [hfile]; rfl), lookup_overwrite, if_pos rfl, hfile]
    rfl
  | none =>
    rw [write, if_neg (by rw [hfile]; exact Bool.false_ne_true), List.lookup_append, hfile]
    simp

theorem lookup_write_of_ne (hne : place ≠ .below parts) :
    (d.write place bytes).files.lookup parts = d.files.lookup parts := by
  cases place with
  | below qs =>
    have hq : parts ≠ qs := fun e => hne (e ▸ rfl)
    rw [write]
    split
    · rw [lookup_overwrite, if_neg hq]
    · have hnew : [(qs, bytes)].lookup parts = none := by
        rw [List.lookup_cons, beq_eq_false_iff_ne.mpr hq]
        rfl
      rw [List.lookup_append, hnew, Option.or_none]
  | fromRoot qs => rfl
  | above => rfl
  | elsewhere => rfl

/-! ### Reading it back -/

theorem isDirectory_write {q : Place} (hq : d.isDirectory q = true) :
    (d.write place bytes).isDirectory q = true := by
  cases q with
  | below parts =>
    cases place with
    | below qs =>
      rw [isDirectory, Bool.or_eq_true] at hq ⊢
      refine hq.imp_right fun hany => ?_
      obtain ⟨⟨k, b⟩, hmem, hk⟩ := List.any_eq_true.mp hany
      rw [write]
      split
      · refine List.any_eq_true.mpr ⟨_, List.mem_map_of_mem hmem, ?_⟩
        cases hkey : k == qs <;> simpa [hkey] using hk
      · exact List.any_eq_true.mpr ⟨_, List.mem_append_left _ hmem, hk⟩
    | fromRoot qs => exact hq
    | above => exact hq
    | elsewhere => exact hq
  | fromRoot parts => rcases parts with _ | ⟨name, _ | _⟩ <;> exact hq
  | above => exact hq
  | elsewhere => exact hq

theorem contents?_write {q : Place} (hne : q ≠ place) : (d.write place bytes).contents? q = d.contents? q := by
  cases q with
  | below parts => exact lookup_write_of_ne hne.symm
  | fromRoot parts => rfl
  | above => rfl
  | elsewhere => rfl

theorem advance_write {q q' : Place} {part : Text} (h : d.advance q part = .ok q')
    (hplace : d.isDirectory place = false) : (d.write place bytes).advance q part = .ok q' := by
  rw [advance] at h
  split at h
  · exact absurd h nofun
  · next hcontents =>
    split at h
    · exact absurd h nofun
    · next hdirectory =>
      have hq : d.isDirectory q = true := by simpa using hdirectory
      have hne : q ≠ place := by
        rintro rfl
        exact absurd (hq.symm.trans hplace) nofun
      rw [advance, contents?_write hne, if_neg hcontents, isDirectory_write hq]
      exact h

/-- A file is no part of the path to another, so writing it leaves the path as it is. -/
theorem foldlM_advance_write {q : Place} {ps : List Text} (h : ps.foldlM d.advance q = .ok place)
    (hplace : d.isDirectory place = false) : ps.foldlM (d.write place bytes).advance q = .ok place := by
  induction ps generalizing q with
  | nil => exact h
  | cons part ps ih =>
    rw [List.foldlM_cons] at h ⊢
    obtain ⟨q', hq', h⟩ := exists_of_bind_eq_ok h
    rw [advance_write hq' hplace]
    exact ih h

theorem place_write (h : d.place path = .ok place) (hplace : d.isDirectory place = false) :
    (d.write place bytes).place path = .ok place := by
  rw [Disk.place] at h ⊢
  split at h
  · exact absurd h nofun
  · next hempty =>
    rw [if_neg hempty]
    split at h
    · exact absurd h nofun
    · next hlong =>
      rw [if_neg hlong]
      exact foldlM_advance_write h hplace

theorem place_of_placeToWrite (h : d.placeToWrite path = .ok place) :
    d.place path = .ok place ∧ d.isDirectory place = false := by
  have happend := Text.splitEnd_append (· == '/') path
  rw [placeToWrite] at h
  rcases hsplit : Text.splitEnd (· == '/') path with ⟨trimmed, slashes⟩
  rw [hsplit] at h happend
  dsimp only at h
  split at h
  · exact absurd h nofun
  · obtain ⟨q, hq, h⟩ := exists_of_bind_eq_ok h
    split at h
    · exact absurd h nofun
    · next hif =>
      obtain rfl : q = place := Except.ok.inj h
      rw [Bool.or_eq_true, not_or, Bool.not_eq_true, Bool.not_eq_true, Bool.not_eq_false', List.isEmpty_iff] at hif
      obtain ⟨hdirectory, rfl⟩ := hif
      rw [← happend, List.append_nil]
      exact ⟨hq, hdirectory⟩

/-- What is written below the directory is found under its path. -/
theorem read_write (h : d.placeToWrite path = .ok (.below parts)) :
    (d.write (.below parts) bytes).read path = .ok bytes := by
  obtain ⟨hplace, hdirectory⟩ := place_of_placeToWrite h
  have hcontents : (d.write (.below parts) bytes).contents? (.below parts) = some bytes := lookup_write_self
  rw [read, place_write hplace hdirectory]
  simp only [bind, Except.bind, hcontents]

/-! ### Commands -/

section
variable {o : Outcome} {f : FileWrite}

theorem settle_of_write_eq_none (h : o.write = none) : d.settle o = (o, d) := by
  rw [Disk.settle, h]

theorem settle_of_fault {fault : FileFault} (hwrite : o.write = some f)
    (hplace : d.placeToWrite f.path = .error fault) :
    d.settle o = (.failed o.stdout o.notes ⟨some ("Failed to write " ++ f.path), fault.message⟩, d) := by
  simp only [Disk.settle, hwrite, hplace, Outcome.settle]

theorem settle_of_place (hwrite : o.write = some f) (hplace : d.placeToWrite f.path = .ok place) :
    d.settle o = ({ o with notes := o.notes ++ f.notice }, d.write place f.contents.toUtf8) := by
  simp only [Disk.settle, hwrite, hplace, Outcome.settle]

/-- A quiet outcome that fails, in itself or for want of a place for its file, leaves no trace. -/
theorem settle_of_isQuiet (h : o.IsQuiet) (hcode : (d.settle o).1.code ≠ 0) :
    (d.settle o).1.stdout = [] ∧ (d.settle o).2 = d := by
  cases hwrite : o.write with
  | none =>
    rw [settle_of_write_eq_none hwrite] at hcode ⊢
    exact ⟨(h.failed hcode).1, rfl⟩
  | some f =>
    cases hplace : d.placeToWrite f.path with
    | error fault =>
      rw [settle_of_fault hwrite hplace]
      exact ⟨h.written (by rw [hwrite]; exact nofun), rfl⟩
    | ok place =>
      rw [settle_of_place hwrite hplace] at hcode
      exact absurd (hwrite.symm.trans (h.failed hcode).2) nofun

theorem exists_place_of_code_eq_zero (hwrite : o.write = some f) (hcode : (d.settle o).1.code = 0) :
    ∃ place, d.placeToWrite f.path = .ok place ∧ o.code = 0 ∧
      d.settle o = ({ o with notes := o.notes ++ f.notice }, d.write place f.contents.toUtf8) := by
  cases hplace : d.placeToWrite f.path with
  | error fault =>
    rw [settle_of_fault hwrite hplace] at hcode
    exact absurd hcode nofun
  | ok place =>
    have hsettle := settle_of_place hwrite hplace
    rw [hsettle] at hcode
    exact ⟨place, rfl, hcode, hsettle⟩

end

theorem settle_runGenerate (hcode : (d.settle (runGenerate p v h a w).1).1.code = 0) :
    (a.editsJson = true ∨ a.destination = none →
      (runGenerate p v h a w).1.write = none ∧ (d.settle (runGenerate p v h a w).1).2 = d) ∧
    ∀ path, a.editsJson = false → a.destination = some path →
      (d.settle (runGenerate p v h a w).1).1.stdout = [] ∧ (runGenerate p v h a.plain w).1.code = 0 ∧
      (∃ notice, (runGenerate p v h a w).1.write = some ⟨path, (runGenerate p v h a.plain w).1.stdout, notice⟩) ∧
      ∃ place, d.placeToWrite path = .ok place ∧
        (∀ parts, place ≠ .below parts →
          (d.settle (runGenerate p v h a w).1).2.files.lookup parts = d.files.lookup parts) ∧
        ∀ parts, place = .below parts → (d.settle (runGenerate p v h a w).1).2.read path =
          .ok (runGenerate p v h a.plain w).1.stdout.toUtf8 := by
  have hgood : (runGenerate p v h a w).1.code = 0 := by
    cases hwrite : (runGenerate p v h a w).1.write with
    | none => rwa [settle_of_write_eq_none hwrite] at hcode
    | some f =>
      obtain ⟨-, -, hgood, -⟩ := exists_place_of_code_eq_zero hwrite hcode
      exact hgood
  obtain ⟨hnone, hdestination⟩ := runGenerate_write hgood
  refine ⟨fun h => ⟨hnone h, by rw [settle_of_write_eq_none (hnone h)]⟩, fun path hlisting hpath => ?_⟩
  obtain ⟨notice, hwrite, hplain⟩ := hdestination path hlisting hpath
  obtain ⟨place, hplace, -, hsettle⟩ := exists_place_of_code_eq_zero hwrite hcode
  have hstdout := (runGenerate_isQuiet p v h a w).written (by rw [hwrite]; exact nofun)
  rw [hsettle]
  refine ⟨hstdout, hplain, ⟨notice, hwrite⟩, place, hplace, fun parts hne => lookup_write_of_ne hne, ?_⟩
  rintro parts rfl
  exact read_write hplace

theorem outcome_isQuiet (p : Prompter (StateM σ)) (w : σ) (h : Host) {args : List Text}
    (hargs : ∀ v c, Request.parse? args = some (.run v c) → ∃ a, c = .generate a) :
    (outcomeWith p h args w).1.IsQuiet := by
  cases hrequest : Request.parse? args with
  | none =>
    rw [outcomeWith, hrequest]
    exact ⟨fun _ => ⟨rfl, rfl⟩, fun _ => rfl⟩
  | some request =>
    cases request with
    | version =>
      rw [outcomeWith, hrequest]
      exact ⟨fun hcode => absurd rfl hcode, fun hwrite => absurd rfl hwrite⟩
    | help =>
      rw [outcomeWith, hrequest]
      exact ⟨fun hcode => absurd rfl hcode, fun hwrite => absurd rfl hwrite⟩
    | run v c =>
      obtain ⟨a, rfl⟩ := hargs v c hrequest
      rw [outcomeWith_generate hrequest]
      exact runGenerate_isQuiet p v h a w

/-- All or nothing. A run of `generate` that fails prints nothing and leaves every file as it was, also where
the file cannot be written for a reason that the directory does not know. One that succeeds asks for one write
at most, that of what the same run would have printed without a destination, and only if it has one and does not
list its edits. It leaves every other file as it was, and that text is read at the destination afterwards. -/
theorem delivers (p : Prompter (StateM σ)) (w : σ) (h : Host) (d : Disk) {args : List Text}
    (hargs : ∀ v c, Request.parse? args = some (.run v c) → ∃ a, c = .generate a) {o : Outcome} {d' : Disk}
    (hrun : d.settle (outcomeWith p h args w).1 = (o, d')) :
    (o.code ≠ 0 → o.stdout = [] ∧ d' = d) ∧
    (∀ fault, ((outcomeWith p h args w).1.settle (some fault)).code ≠ 0 →
      ((outcomeWith p h args w).1.settle (some fault)).stdout = []) ∧
    (o.code = 0 →
      (Request.parse? args = some .version ∨ Request.parse? args = some .help) ∧ d' = d ∨
      ∃ v a, Request.parse? args = some (.run v (.generate a)) ∧
        (a.editsJson = true ∨ a.destination = none → (outcomeWith p h args w).1.write = none ∧ d' = d) ∧
        ∀ path, a.editsJson = false → a.destination = some path →
          o.stdout = [] ∧ (runRequest p h (.run v (.generate a.plain)) w).1.code = 0 ∧
          (∃ notice, (outcomeWith p h args w).1.write =
            some ⟨path, (runRequest p h (.run v (.generate a.plain)) w).1.stdout, notice⟩) ∧
          ∃ place, d.placeToWrite path = .ok place ∧
            (∀ parts, place ≠ .below parts → d'.files.lookup parts = d.files.lookup parts) ∧
            ∀ parts, place = .below parts →
              d'.read path = .ok (runRequest p h (.run v (.generate a.plain)) w).1.stdout.toUtf8) := by
  have hquiet := outcome_isQuiet p w h hargs
  have hsettled := settle_of_isQuiet (d := d) hquiet
  rw [hrun] at hsettled
  refine ⟨hsettled, fun fault hcode => ?_, fun hcode => ?_⟩
  · cases hwrite : (outcomeWith p h args w).1.write with
    | none =>
      simp only [Outcome.settle, hwrite] at hcode ⊢
      exact (hquiet.failed hcode).1
    | some f =>
      simp only [Outcome.settle, hwrite]
      exact hquiet.written (by rw [hwrite]; exact nofun)
  · obtain ⟨rfl, rfl⟩ : (d.settle (outcomeWith p h args w).1).1 = o ∧
        (d.settle (outcomeWith p h args w).1).2 = d' := by
      rw [hrun]
      exact ⟨rfl, rfl⟩
    cases hrequest : Request.parse? args with
    | none =>
      rw [outcomeWith, hrequest] at hcode
      exact absurd hcode nofun
    | some request =>
      cases request with
      | version =>
        rw [outcomeWith, hrequest]
        exact .inl ⟨.inl rfl, rfl⟩
      | help =>
        rw [outcomeWith, hrequest]
        exact .inl ⟨.inr rfl, rfl⟩
      | run v c =>
        obtain ⟨a, rfl⟩ := hargs v c hrequest
        rw [outcomeWith_generate hrequest] at hcode ⊢
        exact .inr ⟨v, a, rfl, settle_runGenerate hcode⟩

/-- A directory with one class in it. -/
def oneClass : Disk := .ofFiles [("a.dart", Text.toUtf8 "class A \x7b\n  final B b;\n\x7d\n")]

theorem delivers_oneClass : ∃ o d', oneClass.settle (outcomeWith (Prompter.offered : Prompter (StateM Unit))
      { stdin := [], readFile := oneClass.read } ["generate", "-i", "a.dart", "-o", "b.dart"] ()).1 = (o, d') ∧
    o.stdout = [] ∧
    d'.read "b.dart" = .ok (runRequest (Prompter.offered : Prompter (StateM Unit))
      { stdin := [], readFile := oneClass.read }
      (.run false (.generate { input := some "a.dart" })) ()).1.stdout.toUtf8 := by
  have hparse : Request.parse? ["generate", "-i", "a.dart", "-o", "b.dart"] =
      some (.run false (.generate { input := some "a.dart", output := some "b.dart" })) := by decide +kernel
  have hargs : ∀ v c, Request.parse? ["generate", "-i", "a.dart", "-o", "b.dart"] = some (.run v c) →
      ∃ a, c = .generate a := fun v c h => ⟨_, (Request.run.inj (Option.some.inj (h.symm.trans hparse))).2⟩
  obtain ⟨-, -, hgood⟩ := delivers (Prompter.offered : Prompter (StateM Unit)) ()
    { stdin := [], readFile := oneClass.read } oneClass hargs rfl
  rcases hgood (by decide +kernel) with ⟨hother, -⟩ | ⟨v, a, ha, -, hwritten⟩
  · rw [hparse] at hother
    rcases hother with h | h <;> exact absurd h nofun
  · obtain ⟨rfl, hrun⟩ := Request.run.inj (Option.some.inj (hparse.symm.trans ha))
    obtain rfl := Command.generate.inj hrun
    obtain ⟨hstdout, -, -, place, hplace, -, hread⟩ := hwritten "b.dart" rfl rfl
    have hbelow : oneClass.placeToWrite "b.dart" = .ok (.below ["b.dart"]) := by decide +kernel
    exact ⟨_, _, rfl, hstdout, hread ["b.dart"] (Except.ok.inj (hplace.symm.trans hbelow))⟩

end Disk

/-! ### Where nobody is asked -/

theorem run_offered (s : Settings) (target : Option Text) (w : σ) :
    run (Prompter.offered : Prompter (StateM σ)) s target w =
      (run (Prompter.offered : Prompter Id) s target, w) := by
  obtain ⟨suffix, defaultSuffix, style, discovery, extraction, nullability, copyWith, equality⟩ := s
  cases target <;> cases suffix <;> cases style <;> rfl

/-- The defaults leave the state of whoever would be asked as it is. -/
theorem outcomeWith_offered (h : Host) (args : List Text) (w : σ) :
    outcomeWith (Prompter.offered : Prompter (StateM σ)) h args w = (outcome h args, w) := by
  rw [outcome, outcomeWith, outcomeWith]
  rcases Request.parse? args with _ | _ | _ | ⟨v, a | _ | _⟩
  · rfl
  · rfl
  · rfl
  · show runGenerate (Prompter.offered : Prompter (StateM σ)) v h a w =
      (runGenerate (Prompter.offered : Prompter Id) v h a, w)
    rw [runGenerate, runGenerate]
    rcases prepare (h.passes v) h a with ⟨log, failure | ⟨s, t⟩⟩
    · rfl
    · show (generated (h.passes v) a t log (run (Prompter.offered : Prompter (StateM σ)) s
          (if (Text.trim t).isEmpty then none else some t) w).1,
        (run (Prompter.offered : Prompter (StateM σ)) s (if (Text.trim t).isEmpty then none else some t) w).2) = _
      rw [run_offered]
      rfl
  · rfl
  · rfl

end DartTransfer.CommandLine

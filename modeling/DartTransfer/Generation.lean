import DartTransfer.Fault
import DartTransfer.TransferClass

/-!
# Generation

A run looks at the classes of a text in order. A class with fields gives a transfer class and the
edit that puts it after its source, or in its place when the suffix is empty; a class without fields
is skipped in multi-class runs and stops a single-class run. One more edit inserts the imports that
the generated code needs and the text lacks.
-/

namespace DartTransfer

/-- What becomes of a located class. -/
inductive ClassOutcome
  | generated (c : DataClass) (edit : Edit)
  | skipped (className : Text) (fault : Fault)
  deriving DecidableEq, Repr

namespace ClassOutcome

def class? : ClassOutcome → Option DataClass
  | generated c _ => some c
  | skipped _ _ => none

def edit? : ClassOutcome → Option Edit
  | generated _ e => some e
  | skipped _ _ => none

def diagnostic? : ClassOutcome → Option (Text × Fault)
  | generated _ _ => none
  | skipped n f => some (n, f)

end ClassOutcome

structure Generation where
  /-- One for each located class, in source order. -/
  outcomes : List ClassOutcome
  importEdit : Option Edit
  deriving DecidableEq, Repr

namespace Generation

variable (g : Generation)

def classes : List DataClass := g.outcomes.filterMap (·.class?)

def classEdits : List Edit := g.outcomes.filterMap (·.edit?)

/-- The names of the skipped classes, each with its fault. -/
def diagnostics : List (Text × Fault) := g.outcomes.filterMap (·.diagnostic?)

/-- The edits, imports first. -/
def edits : List Edit := g.importEdit.toList ++ g.classEdits

def apply (t : Text) : Except EditFault Text := Edit.applyAll t g.edits

end Generation

/-- What takes the place of the source text of a class: its own text and the transfer class, or the
latter alone. -/
def replacementFor (source generated : Text) (o : Options) : Text :=
  if o.suffix.isEmpty then generated.trimEnd ++ source.blankEnd
  else source.trimEnd ++ "\n\n" ++ generated.trimEnd ++ source.blankEnd

def classEdit (t : Text) (o : Options) (c : DataClass) : Edit :=
  ⟨c.span, replacementFor (t.slice c.span) (TransferClass.render c o) o⟩

/-- Whether the line is an `import` or `library` directive. -/
def isImportLine (line : Text) : Bool :=
  (Text.wordAt? "import" none line).isSome || (Text.wordAt? "library" none line).isSome

/-- Where the last `import` or `library` line ends, in a text that starts a line at `position`. -/
def lastImportEnd? (position : Nat) (t : Text) : Option Nat :=
  let line : Text := t.takeWhile (· != '\n')
  let stop := position + line.byteLength
  let here := if isImportLine line then some stop else none
  match _h : t.dropWhile (· != '\n') with
  | [] => here
  | _ :: r => (lastImportEnd? (stop + 1) r).or here
termination_by t.length
decreasing_by
  have := congrArg List.length (List.takeWhile_append_dropWhile (p := (· != '\n')) (l := t))
  rw [_h] at this
  simp at this
  omega

/-- The required imports that stand nowhere in the text. -/
def missingImports (t : Text) (cs : List DataClass) (o : Options) : List Text :=
  (TransferClass.requiredImports cs o).filter fun i => !i.occursIn t

/-- The missing imports go below the last import above the first class, or to the top of the
text. -/
def importEdit? (t : Text) (cs : List DataClass) (o : Options) : Option Edit :=
  match cs, missingImports t cs o with
  | [], _ => none
  | _, [] => none
  | c :: _, missing =>
    let lines := Text.joinWith "\n" missing
    match lastImportEnd? 0 (t.takeBytes c.span.start) with
    | some stop => some (.insertion stop ("\n" ++ lines))
    | none => some (.insertion 0 (lines ++ "\n\n"))

def classOutcome (t : Text) (o : Options) (c : SourceClass) : ClassOutcome :=
  match DataClass.ofSource? o c with
  | some d => .generated d (classEdit t o d)
  | none => .skipped c.name (.noFields c.name)

def generate (t : Text) (o : Options) : Except Fault Generation :=
  let outcomes := (SourceClass.locate o.discovery t).map (classOutcome t o)
  match o.discovery, outcomes with
  | _, [] => .error .noClass
  | .single, .skipped _ fault :: _ => .error fault
  | _, _ => .ok ⟨outcomes, importEdit? t (outcomes.filterMap (·.class?)) o⟩

end DartTransfer

import DartTransfer.CommandLine.Arguments
import DartTransfer.CommandLine.Outcome
import DartTransfer.Edit.Json
import DartTransfer.Prompt
import DartTransfer.Settings.Reading

/-!
# Running a command

`generate` lays its switches over the settings file, reads the source, generates, and prints, writes
or lists the edits; `convert` converts names; `check` reads a settings file and shows what it sets.
`outcome` answers the whole argument list.
-/

namespace DartTransfer.CommandLine

/-- The settings file that is looked for where none is named. -/
def settingsFile : Text := "dtogen.toml"

def versionLine : Text := "dtogen 0.3.0\n"

def usage : Text :=
  "Generate transfer classes for Dart data classes\n\nUsage: dtogen [OPTIONS] <COMMAND>\n\nCommands:\n" ++
    "  generate  Generate transfer classes for the classes in a Dart file\n" ++
    "  convert   Convert names with a naming style\n" ++
    "  check     Validate a dtogen.toml config file\n" ++
    "  help      Print this message\n\nOptions:\n" ++
    "  -v, --verbose  Log pipeline decisions to stderr\n" ++
    "  -h, --help     Print help\n" ++
    "  -V, --version  Print version\n"

/-! ### Reading -/

def readText (h : Host) (path : Text) : Except FileFault Text :=
  match h.readFile path with
  | .error fault => .error fault
  | .ok bytes =>
    match Text.ofUtf8? bytes with
    | some t => .ok t
    | none => .error .notUtf8

/-- Whether there is a file at the path, readable or not. -/
def isFile (h : Host) (path : Text) : Bool :=
  match h.readFile path with
  | .error .missing | .error .isDirectory | .error .notDirectory => false
  | _ => true

def readSettings (h : Host) (path : Text) : Except Failure Settings :=
  let settings : Except SettingsFault Settings := match readText h path with
    | .error fault => .error (.unreadable path fault)
    | .ok t => Settings.read t
  settings.mapError fun fault => ⟨some ("Invalid config: " ++ path), (Fault.settings fault).message⟩

def readingEvent (path : Text) : Event := ⟨.debug, "loading config", [("path", path)]⟩

/-- The settings for `generate`, and the log of how they were found. -/
def loadSettings (passes : Event → Bool) (h : Host) (config : Option Text) :
    List Note × Except Failure Settings :=
  match config with
  | some path => (Note.logged passes (readingEvent path), readSettings h path)
  | none =>
    if isFile h settingsFile then (Note.logged passes (readingEvent settingsFile), readSettings h settingsFile)
    else (Note.logged passes ⟨.debug, "no " ++ settingsFile ++ " found, using defaults", []⟩, .ok {})

def readSource (h : Host) (input : Option Text) : Except Failure Text :=
  match input with
  | some path =>
    (readText h path).mapError fun fault => ⟨some ("Failed to read " ++ path), fault.message⟩
  | none =>
    match Text.ofUtf8? h.stdin with
    | some t => .ok t
    | none => .error ⟨some "Failed to read stdin", FileFault.notUtf8.message⟩

/-! ### Generating -/

/-- The settings with the switches laid over them. -/
def GenerateArguments.over (a : GenerateArguments) (s : Settings) : Settings :=
  { suffix := a.suffix.or s.suffix
    defaultSuffix := s.defaultSuffix
    style := a.style.or s.style
    discovery := if a.multi then .multi else s.discovery
    extraction := if a.permissive then .permissive else s.extraction
    nullability := a.nullability.getD s.nullability
    copyWith := s.copyWith && !a.noCopyWith
    equality := s.equality && !a.noEquality }

/-- Settings and source of a run of `generate`, and the log up to there. -/
def prepare (passes : Event → Bool) (h : Host) (a : GenerateArguments) :
    List Note × Except Failure (Settings × Text) :=
  let (log, loaded) := loadSettings passes h a.config
  (log, do
    let settings ← (a.over (← loaded)).validate.mapError fun fault =>
      ⟨some "Invalid generation options", (Fault.settings fault).message⟩
    return (settings, ← readSource h a.input))

def fieldEvent (f : Field) : Event :=
  ⟨.debug, "resolved field",
    [("field", f.name), ("kind", f.kind.title), ("nullable", if f.nullable then "true" else "false")]⟩

def outcomeLog (passes : Event → Bool) : ClassOutcome → List Note
  | .generated c _ =>
    c.fields.flatMap (fun f => Note.logged passes (fieldEvent f)) ++
      Note.logged passes ⟨.debug, "generating transfer class",
        [("class", c.name), ("fields", Text.ofNat c.fields.length)]⟩
  | .skipped className fault =>
    Note.logged passes ⟨.warn, "skipping class", [("class", className), ("error", fault.message)]⟩

def skippedLine : Text × Fault → Text
  | (className, fault) => "Skipped " ++ className ++ ": " ++ fault.message ++ "\n"

/-- Everything that goes to the error stream about a generation. -/
def generationLog (passes : Event → Bool) (g : Generation) : List Note :=
  g.outcomes.flatMap (outcomeLog passes) ++
    (if g.classes.isEmpty then Note.logged passes ⟨.warn, "no transfer classes generated", []⟩ else []) ++
    g.diagnostics.map fun d => .text (skippedLine d)

/-- Where the result goes: to a file, or nowhere but to the output stream. -/
def GenerateArguments.destination (a : GenerateArguments) : Option Text :=
  if a.inPlace then a.input else a.output

def writtenNotice (passes : Event → Bool) (path : Text) (g : Generation) : List Note :=
  Note.logged passes
    ⟨.info, "wrote transfer classes", [("path", path), ("classes", Text.ofNat g.classes.length)]⟩

/-- The outcome of a run of `generate` on the text `t`, after the log so far. -/
def generated (passes : Event → Bool) (a : GenerateArguments) (t : Text) (log : List Note)
    (r : Except Fault Generation) : Outcome :=
  match r with
  | .error fault => .failed [] log ⟨none, fault.message⟩
  | .ok g =>
    let log := log ++ generationLog passes g
    if a.editsJson then { stdout := Edit.jsonArray g.edits ++ "\n", notes := log }
    else match g.apply t, a.destination with
      | .error fault, _ => .failed [] log ⟨some "Failed to apply edits", (Fault.invalidEdit fault).message⟩
      | .ok result, none => { stdout := result, notes := log }
      | .ok result, some path => { notes := log, write := some ⟨path, result, writtenNotice passes path g⟩ }

def runGenerate {m : Type → Type} [Monad m] (p : Prompter m) (verbose : Bool) (h : Host)
    (a : GenerateArguments) : m Outcome :=
  match prepare (h.passes verbose) h a with
  | (log, .error failure) => pure (.failed [] log failure)
  | (log, .ok (settings, t)) => do
    let r ← run p settings (if (Text.trim t).isEmpty then none else some t)
    return generated (h.passes verbose) a t log r

/-! ### The other commands -/

def runConvert (style : KeyStyle) (names : List Text) : Outcome :=
  { stdout := names.flatMap fun n => style.convert n ++ ['\n'] }

def suffixLine (s : Settings) : Text :=
  match s.suffix with
  | some t => "✓ Suffix: " ++ t.quoted ++ "\n"
  | none => "✓ Suffix: prompted (default " ++ s.defaultSuffix.quoted ++ ")\n"

def styleLine (s : Settings) : Text :=
  match s.style with
  | some k => "✓ Naming style: " ++ k.label ++ "\n"
  | none => "✓ Naming style: prompted\n"

def summary (s : Settings) : Text :=
  suffixLine s ++ styleLine s ++
    "✓ Discovery: " ++ s.discovery.title ++ "\n" ++
    "✓ Extraction: " ++ s.extraction.title ++ "\n" ++
    "✓ Nullability: " ++ s.nullability.title ++ "\n" ++
    "\nConfig is valid!\n"

def runCheck (verbose : Bool) (h : Host) (config : Option Text) : Outcome :=
  let path := config.getD settingsFile
  let opening := "Checking config: " ++ path ++ "\n"
  let log := Note.logged (h.passes verbose) (readingEvent path)
  match readSettings h path with
  | .error failure => .failed opening log failure
  | .ok s => { stdout := opening ++ summary s, notes := log }

/-! ### The command line -/

/-- The files that a request reads if they are there. -/
def Request.paths : Request → List Text
  | .version | .help | .run _ (.convert _ _) => []
  | .run _ (.generate a) => a.config.getD settingsFile :: a.input.toList
  | .run _ (.check config) => [config.getD settingsFile]

/-- Whether a request takes its source from the input stream. -/
def Request.readsStdin : Request → Bool
  | .run _ (.generate a) => a.input.isNone
  | _ => false

/-- Whether the input stream is left for answers. -/
def Request.mayAsk : Request → Bool
  | .run _ (.generate a) => a.input.isSome
  | _ => false

def runRequest {m : Type → Type} [Monad m] (p : Prompter m) (h : Host) : Request → m Outcome
  | .version => pure { stdout := versionLine }
  | .help => pure { stdout := usage }
  | .run verbose (.generate a) => runGenerate p verbose h a
  | .run _ (.convert style names) => pure (runConvert style names)
  | .run verbose (.check config) => pure (runCheck verbose h config)

/-- The outcome of arguments that make no sense. -/
def misuse : Outcome := { code := 2, notes := [.text usage] }

/-- What the arguments lead to where the questions go to `p`. -/
def outcomeWith {m : Type → Type} [Monad m] (p : Prompter m) (h : Host) (args : List Text) : m Outcome :=
  match Request.parse? args with
  | none => pure misuse
  | some r => runRequest p h r

/-- What the arguments lead to where nobody can be asked. -/
def outcome (h : Host) (args : List Text) : Outcome := outcomeWith (Prompter.offered : Prompter Id) h args

end DartTransfer.CommandLine

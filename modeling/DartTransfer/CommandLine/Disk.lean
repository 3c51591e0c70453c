import DartTransfer.CommandLine.Run

/-!
# A directory in memory

The files below a directory, for running commands on: `Disk.run` gives what a command prints and the
directory that it leaves. A path leads from part to part, and each part but the last has to name a
directory, which is what has files in it. Of the surroundings little is known: what lies above the
directory is a directory, the root has directories of certain names, every other name is free, and
the null device is empty whatever is written to it.
-/

namespace DartTransfer.CommandLine

structure Disk where
  files : List (List Text × Bytes)
  deriving DecidableEq, Repr

inductive Place
  /-- To the directory itself or to something below it, whether it is there or not. -/
  | below (parts : List Text)
  /-- From the root. -/
  | fromRoot (parts : List Text)
  /-- To a directory above the directory. -/
  | above
  /-- To a free name above the directory. -/
  | elsewhere
  deriving DecidableEq, Repr

namespace Disk

def pathParts (path : Text) : List Text :=
  (Text.splitOn '/' path).filter fun p => !p.isEmpty && p != "."

def ofFiles (files : List (Text × Bytes)) : Disk := ⟨files.map fun (path, bytes) => (pathParts path, bytes)⟩

variable (d : Disk)

def rootDirectories : List Text :=
  ["bin", "dev", "etc", "home", "lib", "opt", "proc", "root", "run", "sbin", "sys", "tmp", "usr", "var"]

def nullDevice : List Text := ["dev", "null"]

def isDirectory : Place → Bool
  | .below parts => parts.isEmpty || d.files.any fun (p, _) => parts.isPrefixOf p && parts.length < p.length
  | .fromRoot [] => true
  | .fromRoot [name] => rootDirectories.contains name
  | .fromRoot _ => false
  | .above => true
  | .elsewhere => false

def contents? : Place → Option Bytes
  | .below parts => d.files.lookup parts
  | .fromRoot parts => if parts == nullDevice then some [] else none
  | _ => none

def maxNameLength : Nat := 255

def maxPathLength : Nat := 4095

def named (directory : Place) (name : Text) : Except FileFault Place :=
  if maxNameLength < name.byteLength then .error .nameTooLong
  else match directory with
    | .below parts => .ok (.below (parts ++ [name]))
    | .fromRoot parts => .ok (.fromRoot (parts ++ [name]))
    | _ => .ok .elsewhere

def parent : Place → Place
  | .below (p :: ps) => .below (p :: ps).dropLast
  | .fromRoot ps => .fromRoot ps.dropLast
  | _ => .above

/-- One part further on a path. -/
def advance (place : Place) (part : Text) : Except FileFault Place :=
  if (d.contents? place).isSome then .error .notDirectory
  else if !d.isDirectory place then .error .missing
  else if part.isEmpty || part == "." then .ok place
  else if part == ".." then .ok (parent place)
  else named place part

def place (path : Text) : Except FileFault Place :=
  if path.isEmpty then .error .missing
  else if maxPathLength < path.byteLength then .error .nameTooLong
  else (Text.splitOn '/' path).foldlM d.advance (if path.head? == some '/' then .fromRoot [] else .below [])

def read (path : Text) : Except FileFault Bytes := do
  let p ← d.place path
  match d.contents? p with
  | some bytes => .ok bytes
  | none => .error (if d.isDirectory p then .isDirectory else .missing)

/-- The place that a written file takes. A slash at the end of a path names a directory. -/
def placeToWrite (path : Text) : Except FileFault Place := do
  let (trimmed, slashes) := Text.splitEnd (· == '/') path
  if trimmed.isEmpty && !slashes.isEmpty then .error .isDirectory
  else
    let p ← d.place trimmed
    if d.isDirectory p || !slashes.isEmpty then .error .isDirectory else .ok p

/-- The directory with the bytes as the contents of a file; what is written elsewhere leaves it as
it is. -/
def write (p : Place) (bytes : Bytes) : Disk :=
  match p with
  | .below parts =>
    if (d.files.lookup parts).isSome then ⟨d.files.map fun (q, b) => if q == parts then (q, bytes) else (q, b)⟩
    else ⟨d.files ++ [(parts, bytes)]⟩
  | _ => d

/-- The outcome once its file is written, or cannot be, and the directory then. -/
def settle (o : Outcome) : Outcome × Disk :=
  match o.write with
  | none => (o, d)
  | some w =>
    match d.placeToWrite w.path with
    | .error fault => (o.settle (some fault), d)
    | .ok p => (o.settle none, d.write p w.contents.toUtf8)

/-- The outcome of the arguments, and the directory that they leave. -/
def run (stdin : Bytes) (args : List Text) : Outcome × Disk := d.settle (outcome { stdin := stdin, readFile := d.read } args)

end Disk

end DartTransfer.CommandLine

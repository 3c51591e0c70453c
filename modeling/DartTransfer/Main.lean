import DartTransfer.CommandLine.Run

/-!
# The program

Reads what the request needs, runs it, and does what the outcome says. Questions go to the error
stream, and only where the input stream is a terminal that nothing else is read from. The log is
written without times.
-/

namespace DartTransfer.CommandLine

def faultOf : IO.Error → FileFault
  | .noFileOrDirectory .. => .missing
  | .inappropriateType _ code _ => if code == 21 then .isDirectory else .notDirectory
  | .invalidArgument _ 36 _ => .nameTooLong
  | e => .other (toString e).toList

def readPath (path : Text) : IO (Except FileFault Bytes) := do
  try
    return .ok (← IO.FS.readBinFile (String.ofList path)).toList
  catch e => return .error (faultOf e)

def writePath (w : FileWrite) : IO (Option FileFault) := do
  try
    IO.FS.writeFile (String.ofList w.path) (String.ofList w.contents)
    return none
  catch e => return some (faultOf e)

/-- What the request can read, read in advance. -/
def hostFor (r : Request) : IO Host := do
  let files ← r.paths.mapM fun path => return (path, ← readPath path)
  let stdin ← if r.readsStdin then pure (← (← IO.getStdin).readBinToEnd).toList else pure []
  return { stdin := stdin, readFile := fun path => (files.lookup path).getD (.error .missing) }

/-- Asks on the error stream until an answer is accepted or none comes. -/
partial def askAtTerminal {α : Type} (q : Question α) : IO (Option α) := do
  let screen ← IO.getStderr
  screen.putStr (String.ofList q.wording)
  screen.flush
  let line ← try (← IO.getStdin).getLine catch _ => pure ""
  if line.isEmpty then return none
  match q.judge (Text.trim line.toList) with
  | .ok a => return some a
  | .error objection =>
    screen.putStrLn (String.ofList objection)
    askAtTerminal q

def terminalPrompter : Prompter IO where
  suffix offer := askAtTerminal (.suffix offer)
  style choices := do
    for l in Question.menu choices do
      (← IO.getStderr).putStrLn (String.ofList l)
    askAtTerminal (.style choices)

/-- Runs a request and writes its file, if it has one. -/
def perform (r : Request) : IO Outcome := do
  let host ← hostFor r
  let asks ← if r.mayAsk then (← IO.getStdin).isTty else pure false
  let o ← runRequest (if asks then terminalPrompter else Prompter.offered) host r
  match o.write with
  | none => return o
  | some w => return o.settle (← writePath w)

end DartTransfer.CommandLine

open DartTransfer.CommandLine in
def main (args : List String) : IO UInt32 := do
  let o ← match Request.parse? (args.map String.toList) with
    | none => pure misuse
    | some r => perform r
  IO.print (String.ofList o.stdout)
  IO.eprint (String.ofList o.stderr)
  return o.code.toUInt32

import Watchdesk.CommandLine.Program
import Watchdesk.Rehearsal.Stage

/-!
# The program's outer layer

The only module that reads and prints. Without a network a desk serves over its standard input and
output: each line is a method, an address and perhaps a body, and is answered by a line with the
status and the body of the response. The backend does not answer there.
-/

open Watchdesk

/-- The reason why a file cannot be read. -/
def readingReason : IO.Error → String
  | .noFileOrDirectory _ _ _ => DiskFault.notFound.text
  | .inappropriateType _ _ _ => DiskFault.isFolder.text
  | e => toString e

/-- Read a file of text. -/
def readSettingsFile (path : String) : IO (Except String String) := do
  try
    let bytes ← IO.FS.readBinFile path
    match String.fromUTF8? bytes with
    | some text => return .ok text
    | none => return .error DiskFault.notText.text
  catch e => return .error (readingReason e)

/-- The request that a line asks for; a body is JSON. -/
def requestOfLine (line : String) : InterfaceRequest :=
  match line.splitOn " " with
  | method :: uri :: body =>
    { method, uri, contentType := some "application/json", body := " ".intercalate body }
  | _ => { method := line, uri := "" }

/-- The lines that answer requests. -/
def responseLines (d : Desk) : List String :=
  d.reports.filterMap fun r =>
    match r with
    | .answered _ response => some (toString response.status ++ " " ++ response.body)
    | _ => none

/-- Serve the lines of the standard input until it ends. -/
partial def serveLines (stage : Rehearsal.Stage) (started number : Nat) : IO Unit := do
  let line ← (← IO.getStdin).getLine
  if line.isEmpty then return
  let time ← IO.monoMsNow
  let stage := stage.pass (time - started - stage.desk.now) none
  let request := requestOfLine (line.trimAsciiEnd).toString
  let stage := stage.happen (·.visit (.page number) request)
  for answer in responseLines stage.desk do
    IO.println answer
  (← IO.getStdout).flush
  serveLines (stage.act fun d => { d with reports := [] }) started (number + 1)

/-- The program. -/
def main (arguments : List String) : IO UInt32 := do
  let read ← match CommandLine.Options.ofArguments arguments with
    | .ok { config := some path, .. } => readSettingsFile path
    | _ => pure (.error DiskFault.notFound.text)
  match CommandLine.run arguments (fun _ => read) none with
  | .error ending =>
    IO.print ending.out
    IO.eprint ending.err
    return ending.exit.toUInt32
  | .ok settings =>
    let stage : Rehearsal.Stage := { desk := .ofSettings settings false, root := "watchdesk" }
    let started ← IO.monoMsNow
    serveLines (stage.happen (·.serve (.operator 0) none)) started 1
    return 0

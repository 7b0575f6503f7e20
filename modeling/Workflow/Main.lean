import Workflow.CommandLine.Perform

/-!
# The program

The outer layer: reads the files that a command needs, lets time pass while a workflow runs, and
prints. The data directory is named by the environment. Where a command looks through a directory,
the files below it are named on the standard input, a line for each, by their paths from the
directory.
-/

namespace Workflow.Program

/-! ### Texts -/

/-- The lines of help. -/
def helpLines : List String :=
  ["Run and inspect browser automation workflows.", "",
   "Usage: workflow [--json] [--quiet] [--verbose] [--otel] COMMAND", "",
   "Commands:",
   "  run FILE [--var KEY=VALUE]... [--target TARGET] [--workflows DIR]",
   "                     Run a workflow file",
   "  validate FILE      Parse and validate a workflow file without running it",
   "  list [DIR]         List workflows found under a directory",
   "  completions SHELL  Generate shell completions",
   "  help [COMMAND]     Print this message"]

/-- The text of why arguments ask for nothing that can be done. -/
def usageText : UsageError → String
  | .help => ""
  | .version => ""
  | .nothingGiven => "a command is needed"
  | .noCommand => "a command is needed"
  | .unknownCommand => "unrecognized command"
  | .unknownArgument => "unexpected argument"
  | .missingArgument => "a required argument is missing"
  | .badValue => "a value is missing or invalid"
  | .needlessValue => "an unexpected value is given for a switch"
  | .repeated => "an argument is given more than once"

/-- The lines about a failure: its first reason, and the causes of it. -/
def failureLines : List String → List String
  | [] => []
  | [reason] => ["Error: " ++ reason]
  | [reason, cause] => ["Error: " ++ reason, "", "Caused by:", "    " ++ cause]
  | reason :: causes =>
    ["Error: " ++ reason, "", "Caused by:"] ++
      causes.mapIdx fun i cause => "    " ++ Decimal.natText i ++ ": " ++ cause

/-! ### Files -/

/-- Why the system refuses a file. -/
def refusal : IO.Error → FileError
  | .noFileOrDirectory .. => .notFound
  | .inappropriateType _ code details =>
    if code = 20 then .notDirectory else if code = 21 then .isDirectory else .other details
  | .userError _ => .notText
  | e => .other (toString e)

/-- What stands at a path: a file with its text, or a directory whose entries are not known. -/
def look (path : FilePath) : IO (Except FileError FileTree) := do
  try
    let content ← IO.FS.readFile path.text
    return .ok (.file content)
  catch e =>
    match refusal e with
    | .isDirectory => return .ok .empty
    | e => return .error e

/-- The lines of the standard input that are left. -/
partial def remainingLines (input : IO.FS.Stream) (lines : Array String) : IO (Array String) := do
  let line ← input.getLine
  if line.isEmpty then return lines
  remainingLines input (lines.push (String.ofList (line.toList.filter (· ≠ '\n'))))

/-- What stands at a path; the files below a directory are named on the standard input. -/
def lookBelow (path : FilePath) : IO (Except FileError FileTree) := do
  match ← look path with
  | .ok (.directory _) =>
    let mut files := #[]
    for name in ← remainingLines (← IO.getStdin) #[] do
      if let .ok (.file content) ← look (path.join name) then
        files := files.push (⟨name⟩, content)
    return .ok (.ofFiles files.toList)
  | found => return found

/-- What was found at paths, as a view. -/
def viewOf (known : List (FilePath × Except FileError FileTree)) : FileView := fun path =>
  match known.find? fun k => k.1 = path with
  | some (_, found) => found
  | none => .error .notFound

/-- The files that an invocation needs, as they are found. -/
def gather (i : Invocation) (home : FilePath) :
    IO (List (FilePath × Except FileError FileTree)) := do
  let settings := home.join Config.fileName
  let config ← look settings
  let rest ← match i.order with
    | .run order => do
      let file ← look order.file
      match order.workflows with
      | some directory => pure [(order.file, file), (directory, ← lookBelow directory)]
      | none => pure [(order.file, file)]
    | .validate file => do pure [(file, ← look file)]
    | .list directory => do
      let directory := directory.getD (home.join "workflows")
      pure [(directory, ← lookBelow directory)]
    | .completions _ => pure []
  return (settings, config) :: rest

/-! ### Commands -/

/-- Prints what a command has printed and why it failed; the code that the program ends with. -/
def finish (p : Printed) : IO UInt32 := do
  IO.print p.output
  match p.failure with
  | none => return 0
  | some reasons =>
    (failureLines reasons).forM fun line => IO.eprintln line
    return 1

/-- Follows a run to its end and prints its lines, if `printing`, while it goes on. -/
partial def follow (workflowId : String) (json quiet printing : Bool) (s : Session Unit) :
    IO UInt32 := do
  let (lines, s) := s.takeProgress
  if printing then lines.forM fun line => IO.println line
  match s.step? with
  | none => finish (concludeRun workflowId json quiet s)
  | some next =>
    IO.sleep (UInt32.ofNat (next.engine.now - s.engine.now))
    follow workflowId json quiet printing next

/-- What the identifiers of this run of the program have in common: random digits, with those that
mark an identifier ordered by time in their places. -/
def randomBase : IO Nat := do
  let bytes ← IO.getRandomBytes 12
  let bits := bytes.toList.foldl (fun n b => 256 * n + b.toNat) 0
  return (bits >>> 46 <<< 80) + (0x7 <<< 76) + (bits % Nat.pow 2 12 <<< 64) + (0x2 <<< 62) +
    ((bits >>> 12) % Nat.pow 2 30 <<< 32)

/-- Does what is asked for. -/
def serve (i : Invocation) : IO UInt32 := do
  let home : FilePath := ⟨(← IO.getEnv "WORKFLOW_HOME").getD ".workflow"⟩
  let s : Surroundings := ⟨viewOf (← gather i home), home, ← randomBase⟩
  match i.order with
  | .run order =>
    match prepareRun s order with
    | .error reasons => finish (.ofFailure reasons)
    | .ok prepared =>
      follow prepared.workflowId i.json i.quiet (!i.json && !i.quiet) prepared.session
  | _ => finish (perform s i)

end Workflow.Program

open Workflow in
/-- The program. -/
def main (args : List String) : IO UInt32 := do
  match Invocation.ofArguments args with
  | .ok i => Program.serve i
  | .error .help =>
    Program.helpLines.forM fun line => IO.println line
    return 0
  | .error .version =>
    IO.println "workflow 0.1.0"
    return 0
  | .error e =>
    IO.eprintln ("error: " ++ Program.usageText e)
    Program.helpLines.forM fun line => IO.eprintln line
    return 2

import Workflow.Decimal.Layout
import Workflow.Decimal.Reading
import Workflow.Definition.File
import Workflow.Event.Basic
import Workflow.Json.Printer
import Workflow.Run.Record
import Workflow.Text.Table

/-!
# Reports

What is printed about a run that has ended, about a definition, and about the definitions below a
directory: as lines for a reader, or as a document. About a run that goes on a line is printed for
every event but the last; a line about a step is indented by the depth of the step.

## Main definitions

* `Workflow.Event.progressLine?` — the line about an event.
* `Workflow.RunResult.report`, `Workflow.RunResult.reportDocument` — the report of a run.
* `Workflow.Definition.summary` — the document about a definition and its file.
* `Workflow.listing` — the table of definitions.
-/

namespace Workflow

/-! ### Progress -/

/-- How deep a written path leads: the number of indices in it. -/
def pathDepth (path : String) : Nat :=
  (Text.pieces path "/").countP fun piece => (Decimal.index? piece).isSome

/-- The spaces before a line about the step at a written path: two for every level, and for one
level at least. -/
def indentation (path : String) : String :=
  String.ofList (List.replicate (2 * max 1 (pathDepth path)) ' ')

/-- The line about an event; how a run ends is left to its report. -/
def Event.progressLine? : Event → Option String
  | started _ id n => some ("  > Running '" ++ id ++ "' (" ++ Decimal.natText n ++ " steps)")
  | stepStarted _ p name kind => some (indentation p.path ++ "- " ++ name ++ " [" ++ kind ++ "]")
  | stepCompleted _ p name _ ms =>
    some (indentation p.path ++ "ok " ++ name ++ " (" ++ Decimal.natText ms ++ " ms)")
  | stepFailed _ p name error => some (indentation p.path ++ "failed " ++ name ++ ": " ++ error)
  | retrying _ p attempt maxRetries delay error =>
    some (indentation p.path ++ "~ retry " ++ Decimal.natText attempt.toNat ++ "/" ++
      Decimal.natText maxRetries.toNat ++ " in " ++ Decimal.natText delay ++ " ms: " ++ error)
  | scriptLog _ p level message =>
    some (indentation p.path ++ "[" ++ level.text ++ "] " ++ message)
  | paused _ i => some ("  || Paused before step " ++ Decimal.natText i)
  | resumed _ i => some ("  > Resumed at step " ++ Decimal.natText i)
  | cancelled _ _ => none
  | completed _ _ _ _ _ => none
  | failed _ _ _ => none

/-! ### Values -/

/-- The most characters of a value that a report shows. -/
def shownLength : Nat := 60

/-- A text that is too long to be shown, cut and marked by points at its end. -/
def shortened (s : String) : String :=
  let cs := s.toList
  if cs.length ≤ shownLength then s else String.ofList (cs.take (shownLength - 3) ++ "...".toList)

/-! ### Runs -/

/-- The row about a step. -/
def StepRecord.row (r : StepRecord) : List String :=
  let (status, detail) := match r.outcome with
    | .ok v => ("ok", v.toText)
    | .error e => ("failed", e)
  [Decimal.natText r.index, r.name, status, shortened detail]

namespace RunResult

/-- The table of the steps of a run. -/
def table (r : RunResult) : Text.Table where
  header := ["#", "Step", "Status", "Result"]
  rows := r.record.steps.map StepRecord.row

/-- The line about how a run has ended and how long it took. -/
def verdict (r : RunResult) (durationMs : Nat) : String :=
  let workflow := "Workflow '" ++ r.record.workflowId ++ "' "
  let time := Decimal.natText durationMs ++ " ms"
  match r.state with
  | .completed => "  * " ++ workflow ++ "completed in " ++ time
  | .cancelled => "  ! " ++ workflow ++ "cancelled after " ++ time
  | _ =>
    let (step, reason) := match r.failure with
      | some (i, e) => (Decimal.natText i, e)
      | none => ("-", "unknown error")
    "  x " ++ workflow ++ "failed at step " ++ step ++ ": " ++ reason

/-- The lines about the variables of a run; those whose names begin with an underscore are left
out. -/
def variableLines (r : RunResult) : List String :=
  (r.environment.filter fun v => !Text.startsWith v.1 "_").map fun (key, value) =>
    "    " ++ key ++ " = " ++ shortened value.toText

/-- The lines about a run that has ended. -/
def report (r : RunResult) (durationMs : Nat) : List String :=
  [""] ++ r.table.lines ++ ["", r.verdict durationMs] ++
    (if r.variableLines.isEmpty then [] else "" :: r.variableLines) ++ [""]

/-- The document about a run that has ended. -/
def reportDocument (r : RunResult) (durationMs : Nat) : Json :=
  r.document (Value.record r.environment).toJson r.record.toJson (some durationMs)

end RunResult

/-! ### Definitions -/

/-- The fields about a definition and its file. -/
def Definition.summary (d : Definition) (path : FilePath) : List (String × Json) :=
  [("file", .text path.text), ("id", .text d.id), ("name", .text d.name),
   ("version", .text d.version), ("steps", .integer d.steps.length)]

/-- The line about a definition that is accepted. -/
def Definition.acceptance (d : Definition) : String :=
  "  * Workflow '" ++ d.name ++ "' is valid (" ++ Decimal.natText d.steps.length ++ " steps)"

/-- The table of the definitions below a directory. -/
def listing (directory : FilePath) (found : List Definition.Found) : Text.Table where
  header := ["Id", "Name", "Version", "Steps", "File"]
  rows := found.map fun f =>
    [if f.definition.id = "" then "-" else f.definition.id, f.definition.name,
      f.definition.version, Decimal.natText f.definition.steps.length,
      f.path.textBelow directory]

end Workflow

import Workflow.CommandLine.Arguments
import Workflow.CommandLine.Report
import Workflow.CommandLine.Variable
import Workflow.Config.File
import Workflow.Engine.Session
import Workflow.Script.Evaluator

/-!
# Commands

Commands read files, and print lines or a document. A command that fails tells why, the widest
reason first; what it has printed before stays printed. A run is performed on an engine whose host
echoes actions and evaluates scripts; the workflows that it may run within are registered before
it.

## Main definitions

* `Workflow.Surroundings` — what commands are given beside their arguments.
* `Workflow.Printed` — what a command prints, and why it failed.
* `Workflow.prepareRun`, `Workflow.concludeRun` — a run up to its session, and from its end on.
* `Workflow.perform` — a command from its start to its end.
-/

namespace Workflow

/-- What commands are given beside their arguments. -/
structure Surroundings where
  view : FileView
  /-- The data directory. -/
  home : FilePath
  /-- What the identifiers of the engine have in common. -/
  idBase : Nat

/-- The configuration in the data directory. -/
def Surroundings.config (s : Surroundings) : Config :=
  Config.ofFile (s.view.read (s.home.join Config.fileName)).toOption

/-- Where definitions are listed when no directory is given. -/
def Surroundings.workflows (s : Surroundings) : FilePath := s.home.join "workflows"

/-- What a command prints, and why it failed, if it did: the reasons from the outside in. -/
structure Printed where
  output : String
  failure : Option (List String)

namespace Printed

/-- Lines, each with its end. -/
def linesText (lines : List String) : String := String.join (lines.map (· ++ "\n"))

/-- A command that has printed lines. -/
def ofLines (lines : List String) : Printed := ⟨linesText lines, none⟩

/-- A command that has printed a document. -/
def ofDocument (j : Json) : Printed := ofLines [j.pretty]

/-- A command that has failed before it printed anything. -/
def ofFailure (reasons : List String) : Printed := ⟨"", some reasons⟩

end Printed

/-! ### Runs -/

/-- The engine that a command runs workflows on. It forgets no event before it is printed. -/
def Surroundings.engine (s : Surroundings) : Engine Unit :=
  let config := s.config
  { Engine.initial config (.echo (Script.evaluator config)) () s.idBase with
    bus := .ofCapacity (Nat.pow 2 64) }

/-- What a run needs, as it was read. -/
structure RunInputs where
  definition : Definition
  vars : List (String × Value)
  /-- The workflows that it may run within. -/
  within : List Definition.Found

/-- Reads what a run needs: its file first, then its variables, then the workflows that it may run
within. -/
def readInputs (view : FileView) (order : RunOrder) : Except (List String) RunInputs := do
  let definition ← match Definition.load view order.file with
    | .ok d => .ok d
    | .error e => .error (("Failed to load workflow from " ++ order.file.text) :: e.causes)
  let vars ← match order.vars.mapM Variable.ofText with
    | .ok vars => .ok vars
    | .error e => .error [e.message]
  let within ← match order.workflows with
    | none => .ok []
    | some directory =>
      match Definition.discover view directory with
      | .ok found => .ok found
      | .error e => .error (("Failed to scan " ++ directory.text) :: e.causes)
  .ok ⟨definition, vars, within⟩

/-- An engine on which a workflow is registered to be run. -/
structure PreparedRun where
  engine : Engine Unit
  workflowId : String
  options : RunOptions

/-- Registers definitions that were found, in order. -/
def registerFound (e : Engine Unit) : List Definition.Found → Except (List String) (Engine Unit)
  | [] => .ok e
  | f :: rest =>
    match e.register ⟨0, 0⟩ f.definition with
    | .ok (_, e) => registerFound e rest
    | .error err => .error (("Failed to register " ++ f.path.text) :: err.causes)

/-- Prepares a run: what it needs is read, and the workflows are registered, its own the last. -/
def prepareRun (s : Surroundings) (order : RunOrder) : Except (List String) PreparedRun :=
  match readInputs s.view order with
  | .error reasons => .error reasons
  | .ok inputs =>
    match registerFound s.engine inputs.within with
    | .error reasons => .error reasons
    | .ok e =>
      match e.register ⟨0, 0⟩ inputs.definition with
      | .error err => .error ("Failed to register workflow" :: err.causes)
      | .ok (id, e) =>
        .ok ⟨{ e with bus := e.bus.subscribe }, id,
          ⟨order.target.map .text, Bindings.ofList inputs.vars⟩⟩

/-- The session of a prepared run at its start. -/
def PreparedRun.session (r : PreparedRun) : Session Unit :=
  .start r.engine (execute r.engine.config r.workflowId r.options) []

/-- The progress lines of a session that were not taken yet, and the session without them. -/
def Session.takeProgress (s : Session Unit) : List String × Session Unit :=
  match s.engine.bus.drain 0 with
  | some (d, bus) =>
    (d.items.filterMap Event.progressLine?, { s with engine := { s.engine with bus := bus } })
  | none => ([], s)

/-- What is printed of a run when its session has ended. -/
def concludeRun (workflowId : String) (json quiet : Bool) (s : Session Unit) : Printed :=
  let name := "'" ++ workflowId ++ "'"
  match s.main.result? with
  | none => .ofFailure ["Workflow task panicked"]
  | some ended =>
    match ended.result? with
    | none =>
      .ofFailure (("Failed to run workflow " ++ name) :: ended.message?.toList)
    | some result =>
      let report :=
        if json then [(result.reportDocument s.elapsed).pretty]
        else if quiet then []
        else result.report s.elapsed
      ⟨Printed.linesText report, ended.message?.map fun message =>
        ["Workflow " ++ name ++ " " ++ result.state.text ++ ": " ++ message]⟩

/-- Runs a workflow. -/
def performRun (s : Surroundings) (order : RunOrder) (json quiet : Bool) : Printed :=
  match prepareRun s order with
  | .error reasons => .ofFailure reasons
  | .ok prepared =>
    let (progress, ended) := (Session.steps Session.enough prepared.session).takeProgress
    let printed := concludeRun prepared.workflowId json quiet ended
    if json || quiet then printed
    else { printed with output := Printed.linesText progress ++ printed.output }

/-! ### The other commands -/

/-- Checks the definition in a file. -/
def performValidate (s : Surroundings) (file : FilePath) (json : Bool) : Printed :=
  match Definition.load s.view file with
  | .error e => .ofFailure (("Invalid workflow " ++ file.text) :: e.causes)
  | .ok d =>
    if json then .ofDocument (.object (("valid", .bool true) :: d.summary file))
    else .ofLines [d.acceptance]

/-- Lists the definitions below a directory. -/
def performList (s : Surroundings) (directory : FilePath) (json : Bool) : Printed :=
  match Definition.discover s.view directory with
  | .error e => .ofFailure (("Failed to scan " ++ directory.text) :: e.causes)
  | .ok found =>
    if json then
      .ofDocument (.array (found.map fun f => .object (f.definition.summary f.path)))
    else if found.isEmpty then
      .ofLines ["", "  No workflows found in " ++ directory.text ++ ".", ""]
    else .ofLines ([""] ++ (listing directory found).lines ++ [""])

/-- Does what is asked for. -/
def perform (s : Surroundings) (i : Invocation) : Printed :=
  match i.order with
  | .run order => performRun s order i.json i.quiet
  | .validate file => performValidate s file i.json
  | .list directory => performList s (directory.getD s.workflows) i.json
  | .completions shell => .ofFailure ["No completions are known for " ++ shell.text]

end Workflow

import Workflow.Environment
import Workflow.Run.State
import Workflow.Definition.Writing

/-!
# Records of runs

The ordered log of one run: the outcome of every top-level step, and the errors with the step they
arose at. The log is closed when the run ends. What a run hands back holds its log, and so does the
summary of a sub-workflow.

## Main definitions

* `Workflow.StepRecord`, `Workflow.RunRecord` — the log.
* `Workflow.RunResult` — what a run hands back.
* `Workflow.StatusSnapshot` — the state of an engine at one time.
-/

namespace Workflow

/-- The outcome of a top-level step. -/
structure StepRecord where
  index : Nat
  name : String
  outcome : Except String Value

namespace StepRecord

/-- The step has succeeded. -/
def success (r : StepRecord) : Bool := r.outcome.toBool

/-- The outcome as a value. -/
def toValue (r : StepRecord) : Value :=
  .record ([("index", .ofNat r.index), ("name", .text r.name), ("success", .bool r.success),
    match r.outcome with
      | .ok v => ("result", v)
      | .error e => ("error", .text e)])

/-- The tree of the outcome. -/
def toJson (r : StepRecord) : Json := r.toValue.toJson

end StepRecord

/-- An error with the top-level step it arose at. -/
structure RecordedError where
  stepIndex : Nat
  message : String
deriving DecidableEq, Repr

/-- The tree of a recorded error. -/
def RecordedError.toJson (e : RecordedError) : Json :=
  .object [("stepIndex", .integer e.stepIndex), ("message", .text e.message)]

/-- The log of one run. -/
structure RunRecord where
  id : RunId
  workflowId : String
  target : Option Value
  steps : List StepRecord
  errors : List RecordedError
  /-- The run has ended. -/
  isClosed : Bool

namespace RunRecord

/-- The empty log of a run. -/
def start (identity : Identity) : RunRecord where
  id := identity.executionId
  workflowId := identity.workflowId
  target := identity.target
  steps := []
  errors := []
  isClosed := false

/-- The log with a step that has succeeded. -/
def pushSuccess (r : RunRecord) (index : Nat) (name : String) (result : Value) : RunRecord :=
  { r with steps := r.steps ++ [⟨index, name, .ok result⟩] }

/-- The log with an error that belongs to no outcome of a step. -/
def pushError (r : RunRecord) (index : Nat) (error : String) : RunRecord :=
  { r with errors := r.errors ++ [(⟨index, error⟩ : RecordedError)] }

/-- The log with a step that has failed. -/
def pushFailure (r : RunRecord) (index : Nat) (name error : String) : RunRecord :=
  pushError { r with steps := r.steps ++ [⟨index, name, .error error⟩] } index error

/-- The log of a run that has ended. -/
def close (r : RunRecord) : RunRecord := { r with isClosed := true }

/-- The tree of a log. -/
def toJson (r : RunRecord) : Json :=
  .object ([("id", .text r.id.text), ("workflowId", .text r.workflowId)] ++
    optionalField "targetRef" Value.toJson r.target ++
    [("steps", .array (r.steps.map StepRecord.toJson)),
     ("errors", .array (r.errors.map RecordedError.toJson))])

end RunRecord

/-- What a run hands back. -/
structure RunResult where
  state : RunState
  /-- The variables as they stood at the end. -/
  environment : Bindings Value
  /-- The step that the run stopped at, and why. -/
  failure : Option (Nat × String)
  record : RunRecord

namespace RunResult

/-- The run has come to its end without being stopped. -/
def success (r : RunResult) : Bool := r.state = .completed

/-- The tree of what a run hands back; variables, log and the time that the run took are given as
trees. -/
def document (r : RunResult) (environment record : Json) (durationMs : Option Nat) : Json :=
  .object ([("executionId", .text r.record.id.text), ("workflowId", .text r.record.workflowId),
      ("success", .bool r.success), ("state", .text r.state.text),
      ("results", .array (r.record.steps.map StepRecord.toJson)),
      ("environment", environment)] ++
    optionalField "error" (fun f => .text f.2) r.failure ++
    optionalField "failedStep" (fun f => .integer f.1) r.failure ++
    optionalField "durationMs" (fun n => .integer n) durationMs ++ [("record", record)])

end RunResult

/-- The state of an engine at one time. -/
structure StatusSnapshot where
  state : RunState
  executionId : Option RunId
  workflowId : Option String
  /-- The index of the top-level step that runs or is about to run. -/
  currentStep : Nat
  totalSteps : Nat
  environment : Bindings Value

namespace StatusSnapshot

/-- The state of an engine that has run nothing. -/
def idle : StatusSnapshot := ⟨.idle, none, none, 0, 0, []⟩

/-- The tree of a state, its variables given as a tree. -/
def document (s : StatusSnapshot) (environment : Json) : Json :=
  .object ([("state", .text s.state.text)] ++
    optionalField "executionId" (fun r => .text r.text) s.executionId ++
    optionalField "workflowId" .text s.workflowId ++
    [("currentStep", .integer s.currentStep), ("totalSteps", .integer s.totalSteps),
     ("environment", environment)])

end StatusSnapshot

end Workflow

import Workflow.Run.Step
import Workflow.Registry

/-!
# Running workflows

A frame runs the top-level steps of a workflow in order and logs how each ended; its error policy
says whether a failure stops it, and cancellation always does. An execution is a frame with what
surrounds it: it begins, unless another run goes on, tells that it has started, and when its frame
has ended it settles and tells how.

Frames are built depth by depth: a frame at the last depth has nothing to run sub-workflows with.

## Main definitions

* `Workflow.frameFrom` — the steps of a frame.
* `Workflow.frameWithin` — frames with some depths below them.
* `Workflow.executeDefinition`, `Workflow.execute` — executions.
-/

namespace Workflow

/-! ### Frames -/

/-- The steps of a frame, counted from `index`, with the log so far. -/
def frameFrom (config : Config) (runner : Option FrameRunner) (scope : Scope) :
    (index : Nat) → (record : RunRecord) → List Step →
      StateT Environment Flow (RunRecord × Option FrameFailure)
  | _, record, [] => pure (record, none)
  | index, record, step :: rest => do
    if scope.depth = 0 then
      let env ← get
      liftM (Flow.request (.recordProgress index env))
    match ← (runStep config runner step scope (.top index)).run with
    | .ok v =>
      frameFrom config runner scope (index + 1) (record.pushSuccess index step.label v) rest
    | .error .cancelled =>
      pure (record.pushError index StepError.cancelled.message, some ⟨index, .cancelled⟩)
    | .error e =>
      let record := record.pushFailure index step.label e.message
      match scope.onError with
      | .stop => pure (record, some ⟨index, e⟩)
      | .continue => frameFrom config runner scope (index + 1) record rest

/-- A frame from its first step on. -/
def runFrame (config : Config) (runner : Option FrameRunner) : FrameRunner :=
  fun definition scope env => do
    let ((record, failure), env) ←
      (frameFrom config runner scope 0 (.start scope.identity) definition.steps).run env
    pure ⟨record.close, failure, env⟩

/-- Frames with a number of depths below them. -/
def frameWithin (config : Config) : (depths : Nat) → FrameRunner
  | 0 => runFrame config none
  | depths + 1 => runFrame config (some (frameWithin config depths))

/-! ### Executions -/

/-- What an execution is given beside its workflow. -/
structure RunOptions where
  target : Option Value
  /-- Variables that win over those of the definition. -/
  vars : Bindings Value
deriving Inhabited

/-- How an execution ends. -/
inductive RunEnd where
  | completed (result : RunResult)
  /-- A failed step has stopped the run. -/
  | failed (index : Nat) (error : StepError) (result : RunResult)
  | cancelled (result : RunResult)
  /-- The run did not begin. -/
  | refused (e : ControlError)
  | notFound (id : String)

namespace RunEnd

/-- The text of how an execution ends, unless it is completed. -/
def message? : RunEnd → Option String
  | completed _ => none
  | failed index error _ =>
    some ("step " ++ Decimal.natText index ++ " failed: " ++ error.message)
  | cancelled _ => some "execution cancelled"
  | refused e => some e.message
  | notFound id => some ("workflow not found: " ++ id)

/-- What the run hands back, if it began. -/
def result? : RunEnd → Option RunResult
  | completed r => some r
  | failed _ _ r => some r
  | cancelled r => some r
  | _ => none

end RunEnd

/-- The state that a frame asks to end in. -/
def FrameEnd.outcome (e : FrameEnd) : RunState :=
  match e.failure with
  | none => .completed
  | some ⟨_, .cancelled⟩ => .cancelled
  | some _ => .failed

/-- Settles an execution whose frame has ended, and tells how. -/
def settle (run : RunId) (ended : FrameEnd) : Flow RunEnd := do
  Flow.request (.recordEnvironment ended.env)
  let (state, index) ← Flow.request (.finish ended.outcome)
  let result : RunResult :=
    ⟨state, ended.env.vars, ended.failure.map fun f => (f.index, f.error.message), ended.record⟩
  match state, ended.failure with
  | .completed, _ =>
    Flow.request (.publish (.completed run index 0 (ended.record.steps.countP StepRecord.success)
      (ended.record.steps.map StepRecord.toValue)))
    pure (.completed result)
  | .failed, some f =>
    Flow.request (.publish (.failed run f.index f.error.message))
    pure (.failed f.index f.error result)
  | _, _ =>
    Flow.request (.publish (.cancelled run index))
    pure (.cancelled result)

/-- The execution of a definition. -/
def executeDefinition (config : Config) (definition : Definition) (options : RunOptions) :
    Flow RunEnd := do
  let run ← Flow.request .freshId
  let identity : Identity := ⟨definition.id, run, options.target⟩
  let env := (Environment.seed definition.vars options.vars).stamp identity
  match ← Flow.request (.begin identity definition.steps.length env) with
  | .error e => pure (.refused e)
  | .ok token =>
    Flow.request (.publish (.started run definition.id definition.steps.length))
    let ended ← frameWithin config config.maxDepth definition
      ⟨identity, definition.onError, token, 0⟩ env
    settle run ended

/-- The execution of the workflow registered under an identifier. -/
def execute (config : Config) (id : String) (options : RunOptions) : Flow RunEnd := do
  match ← Flow.request (.lookup id) with
  | some definition => executeDefinition config definition options
  | none => pure (.notFound id)

end Workflow

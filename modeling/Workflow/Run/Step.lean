import Workflow.Json.Parser
import Workflow.Run.Flow
import Workflow.Run.Retry
import Workflow.Template

/-!
# Running steps

What a step does as a flow that works on the variables of its frame. Every step, wherever it stands,
passes the step boundary, has the identity of the run written into its variables, tells that it
starts, is attempted until it succeeds or may not be tried again, and tells how it ended; its result
goes into its output variable. Cancellation passes through everything without being told or tried
again.

Lists of steps within a step follow the error policy of the frame. A sub-workflow is run by a
function that is given for the next depth, if there is one.

## Main definitions

* `Workflow.Exec` — a flow that works on variables and may fail.
* `Workflow.attempts` — the attempts at a step.
* `Workflow.enter` — what surrounds the attempts.
* `Workflow.dispatch`, `Workflow.runItems`, `Workflow.branchFlows` — what each kind of step does,
  lists of steps, and the branches of a parallel step.
-/

namespace Workflow

/-- A flow that works on variables and may fail; what it has written stays when it fails. -/
abbrev Exec := ExceptT StepError (StateT Environment Flow)

namespace Exec

/-- A single request. -/
def request (r : Request) : Exec r.Answer := liftM (Flow.request r)

/-- Publishes an event. -/
def publish (e : Event) : Exec Unit := request (.publish e)

/-- How a flow ends, as a value. -/
def observe {α : Type} (x : Exec α) : Exec (Except StepError α) :=
  ExceptT.mk (Except.ok <$> x.run)

/-- Ends in cancellation unless the answer allows to go on. -/
def orCancelled (goesOn : Bool) : Exec Unit :=
  if goesOn then pure () else throw .cancelled

end Exec

open Exec

/-! ### Attempts -/

/-- Attempts at a step after some retries, with a number of retries remaining. -/
def attemptsFrom (scope : Scope) (location : Location) (schedule : RetrySchedule)
    (attempt : Exec Value) : (remaining done : Nat) → Exec Value
  | 0, _ => attempt
  | remaining + 1, done => do
    match ← observe attempt with
    | .ok v => pure v
    | .error e =>
      if schedule.allows done e then
        publish (.retrying scope.identity.executionId location.forEvents (UInt32.ofNat (done + 1))
          schedule.maxRetries schedule.delay e.message)
        orCancelled (← request (.sleep scope.token schedule.delay))
        attemptsFrom scope location schedule attempt remaining (done + 1)
      else throw e

/-- Attempts at a step under a schedule, or one attempt without any. -/
def attempts (scope : Scope) (location : Location) (schedule : Option RetrySchedule)
    (attempt : Exec Value) : Exec Value :=
  match schedule with
  | some s => attemptsFrom scope location s attempt s.maxRetries.toNat 0
  | none => attempt

/-- A step with what surrounds its attempts. -/
def enter (config : Config) (step : Step) (scope : Scope) (location : Location)
    (dispatch : Exec Value) : Exec Value := do
  orCancelled (← request .boundary)
  modify fun env => env.stamp scope.identity
  let run := scope.identity.executionId
  publish (.stepStarted run location.forEvents step.label step.kindName)
  let attempt : Exec Value := do
    request (.attempt ⟨step, scope, location, ← get⟩)
    dispatch
  match ← observe (attempts scope location (RetrySchedule.ofPolicy? step.info.retry config)
      attempt) with
  | .ok v =>
    match step.info.outputVariable with
    | some key => modify fun env => env.set key v
    | none => pure ()
    publish (.stepCompleted run location.forEvents step.label v 0)
    pure v
  | .error .cancelled => throw .cancelled
  | .error e =>
    publish (.stepFailed run location.forEvents step.label e.message)
    throw e

/-! ### Actions and waits -/

/-- Hands a payload to the host. -/
def performAction (payload : Value) (scope : Scope) (location : Location) : Exec Value := do
  let env ← get
  match ← request (.perform ⟨Template.resolveDeep env payload, scope.identity.target,
      scope.identity.executionId, location⟩) with
  | .ok v => pure v
  | .error e => throw (.actionFailed e.message)

/-- The milliseconds that a number gives: its whole part when it is positive and finite. -/
def waitTime (x : Float) : Nat := if x.isFinite && 0.0 < x then x.toUInt64.toNat else 0

/-- Lets the time pass that a value gives. -/
def waitFor (duration : Value) (scope : Scope) : Exec Value := do
  let v := Template.resolve duration (← get)
  match v.toFloat? with
  | none => throw (.invalidParameter ("wait duration must be a number, got " ++ v.kindName))
  | some x =>
    let ms := waitTime x
    orCancelled (← request (.sleep scope.token ms))
    pure (.record [("duration", .ofNat ms)])

/-! ### Conditions and loops -/

/-- The outcome of a condition. -/
def holds (c : Condition) : Exec Bool := do
  match c.evaluate (← get) with
  | .ok b => pure b
  | .error e => throw (.invalidExpression e.detail)

/-- The result of a condition step. -/
def conditionResult (met : Bool) (results : List Value) : Value :=
  .record [("conditionMet", .bool met), ("branch", .text (if met then "then" else "else")),
    ("results", .list results)]

/-- One iteration of a loop: variables are set, and the list is run. -/
def iteration (scope : Scope) (prepare : Environment → Environment)
    (body : Nat → Exec (List Value)) (i : Nat) : Exec Value := do
  orCancelled (!(← request (.isCancelled scope.token)))
  modify fun env => (prepare env).set Key.loopIndex (.ofNat i)
  let results ← body i
  pure (.list results)

/-- Iterations for the items of a list, counted from `i`, behind the results `acc`. -/
def forItems (scope : Scope) (key : String) (body : Nat → Exec (List Value)) :
    List Value → (i : Nat) → (acc : List Value) → Exec (List Value)
  | [], _, acc => pure acc.reverse
  | item :: rest, i, acc => do
    let r ← iteration scope (fun env => env.set key item) body i
    forItems scope key body rest (i + 1) (r :: acc)

/-- A number of iterations, counted from `i`, behind the results `acc`. -/
def forTimes (scope : Scope) (body : Nat → Exec (List Value)) :
    (remaining i : Nat) → (acc : List Value) → Exec (List Value)
  | 0, _, acc => pure acc.reverse
  | remaining + 1, i, acc => do
    let r ← iteration scope id body i
    forTimes scope body remaining (i + 1) (r :: acc)

/-- Iterations while a test holds, at most as many as remain, and whether the test still held when
none remained. -/
def whileHolds (scope : Scope) (test : Exec Bool) (body : Nat → Exec (List Value)) :
    (remaining i : Nat) → (acc : List Value) → Exec (List Value × Bool)
  | 0, _, acc => do pure (acc.reverse, ← test)
  | remaining + 1, i, acc => do
    if ← test then
      let r ← iteration scope id body i
      whileHolds scope test body remaining (i + 1) (r :: acc)
    else pure (acc.reverse, false)

/-- The items that a loop goes over: those of a list, none for null, and those of a list written in
a text. -/
def loopItems (items : Option Value) : Exec (List Value) := do
  let env ← get
  match (items.map (Template.resolveDeep env)).getD .null with
  | .list vs => pure vs
  | .null => pure []
  | .text s =>
    match (Json.parse s).map Value.ofJson with
    | some (.list vs) => pure vs
    | _ => throw (.invalidParameter ("forEach items must be a list, got text '" ++ s ++ "'"))
  | v => throw (.invalidParameter ("forEach items must be a list, got " ++ v.kindName))

/-- The variable of the current item when the loop names none. -/
def defaultItemVariable : String := "item"

/-- The results of the iterations of a loop, and whether more were asked for than its limit
allows. -/
def loopResults (config : Config) (spec : LoopSpec) (scope : Scope)
    (body : Nat → Exec (List Value)) : Exec (List Value × Bool) := do
  let cap := (spec.maxIterations.map UInt32.toNat).getD config.maxIterations
  match spec.kind with
  | .forEach =>
    let items ← loopItems spec.items
    let results ← forItems scope (spec.itemVariable.getD defaultItemVariable) body
      (items.take cap) 0 []
    pure (results, cap < items.length)
  | .whileTrue =>
    match spec.condition with
    | none => throw (.invalidParameter "while loop requires 'condition'")
    | some c => whileHolds scope (holds c) body cap 0 []
  | .times =>
    let env ← get
    let v := (spec.times.map fun t => Template.resolve t env).getD .null
    match v.toInt? with
    | none => throw (.invalidParameter ("times loop count must be a number, got " ++ v.kindName))
    | some n =>
      let count := n.toInt.toNat
      let results ← forTimes scope body (min count cap) 0 []
      pure (results, cap < count)

/-- The result of a loop step. -/
def loopResult (kind : LoopKind) (results : List Value) (exhausted : Bool) : Value :=
  .record [("loopType", .text kind.text), ("iterations", .ofNat results.length),
    ("exhausted", .bool exhausted), ("results", .list results)]

/-! ### Parallel branches -/

/-- The entry of a branch in the result of a parallel step. -/
def branchEntry (index : Nat) (e : BranchEnd) : Value :=
  .record (("branchIndex", .ofNat index) ::
    match e with
    | .finished (.ok results) => [("success", .bool true), ("results", .list results)]
    | .finished (.error e) => [("success", .bool false), ("error", .text e.message)]
    | .crashed report =>
      [("success", .bool false), ("error", .text ("branch task failed: " ++ report))])

/-- Runs branches side by side and collects how they ended. -/
def runBranches (scope : Scope) (branches : List (Flow BranchResult)) : Exec Value := do
  let ends ← liftM (Flow.fork scope.token branches.length (fun b => branches.get b) .done)
  match ends with
  | none => throw .cancelled
  | some ends => pure (.list (ends.mapIdx branchEntry))

/-! ### Scripts -/

/-- The limit of a script: its own, where zero means none, or that of the configuration. -/
def scriptLimit (config : Config) (timeout : Option UInt64) : Option Nat :=
  match timeout with
  | some t => if t = 0 then none else some t.toNat
  | none => config.scriptLimit

/-- Evaluates a script and takes over its variables. -/
def evaluateScript (config : Config) (source : String) (timeout : Option UInt64) (scope : Scope)
    (location : Location) : Exec Value := do
  let env ← get
  match ← request (.evaluate ⟨source, env.vars, scriptLimit config timeout, scope.token,
      scope.identity.executionId, location⟩) with
  | .ok outcome =>
    modify fun env => env.replaceUserVariables outcome.vars
    pure outcome.result
  | .error e =>
    let stopped ← if e = .cancelled then request (.isCancelled scope.token) else pure false
    throw (if stopped then .cancelled else .scriptFailed e.message)

/-! ### Sub-workflows -/

/-- The top-level step that a frame stopped at, and why. -/
structure FrameFailure where
  index : Nat
  error : StepError
deriving DecidableEq, Repr

/-- How a frame has ended. -/
structure FrameEnd where
  record : RunRecord
  failure : Option FrameFailure
  env : Environment

/-- A function that runs a frame. -/
abbrev FrameRunner := Definition → Scope → Environment → Flow FrameEnd

/-- The identifier of a sub-workflow. -/
def subWorkflowId (workflowId : Value) : Exec String := do
  match Template.resolve workflowId (← get) with
  | .null => throw (.invalidParameter "subWorkflow id resolved to null")
  | v => pure v.toText

/-- The summary of a sub-workflow. -/
def subWorkflowSummary (id : String) (run : RunId) (e : FrameEnd) : Value :=
  .record ([("workflowId", .text id), ("executionId", .text run.text),
      ("success", .bool e.failure.isNone),
      ("results", .list (e.record.steps.map StepRecord.toValue)),
      ("variables", .record e.env.userVariables)] ++
    match e.failure with
    | some f => [("error", .text f.error.message)]
    | none => [])

/-- Runs another workflow with the function for the next depth, on variables of its own, and keeps
its summary. -/
def callWorkflow (config : Config) (runner : Option FrameRunner) (workflowId : Value)
    (vars : Bindings Value) (scope : Scope) : Exec Value := do
  let id ← subWorkflowId workflowId
  match ← request (.lookup id) with
  | none => throw (.workflowNotFound id)
  | some definition =>
    match runner with
    | none => throw (.tooDeep (scope.depth + 1) config.maxDepth)
    | some run =>
      let parent ← get
      let overrides := Template.resolveFields parent vars
      let runId ← request .freshId
      let identity : Identity := ⟨definition.id, runId, scope.identity.target⟩
      let env := (Environment.seed definition.vars overrides).stamp identity
      let ended ← liftM (run definition ⟨identity, definition.onError, scope.token,
        scope.depth + 1⟩ env)
      let summary := subWorkflowSummary id runId ended
      modify fun env => env.set Key.subWorkflowResult summary
      match ended.failure with
      | none => pure summary
      | some ⟨_, .cancelled⟩ => throw .cancelled
      | some f => throw (.subWorkflowFailed id f.error.message)

/-! ### Kinds of step and lists -/

/-- The entry of a failed step in the results of a list that goes on. -/
def failureEntry (e : StepError) : Value :=
  .record [("success", .bool false), ("error", .text e.message)]

mutual

/-- What a step does in one attempt. -/
def dispatch (config : Config) (runner : Option FrameRunner) (scope : Scope)
    (location : Location) : Step → Exec Value
  | .action _ payload => performAction payload scope location
  | .condition _ test whenTrue whenFalse => do
    if ← holds test then
      conditionResult true <$>
        runItems config runner scope (location.child .whenTrue) 0 [] whenTrue
    else
      conditionResult false <$>
        runItems config runner scope (location.child .whenFalse) 0 [] whenFalse
  | .loop _ spec body => do
    let (results, exhausted) ← loopResults config spec scope fun i =>
      runItems config runner scope (location.child (.iteration i)) 0 [] body
    pure (loopResult spec.kind results exhausted)
  | .wait _ duration => waitFor duration scope
  | .parallel _ branches => do
    runBranches scope (branchFlows config runner scope location 0 (← get) branches)
  | .subWorkflow _ workflowId vars => callWorkflow config runner workflowId vars scope
  | .script _ source timeout => evaluateScript config source timeout scope location

/-- The steps of a list one after another, counted from `i`, behind the results `acc`. A failed step
ends the list or leaves an entry, as the error policy says. -/
def runItems (config : Config) (runner : Option FrameRunner) (scope : Scope)
    (location : Location) (i : Nat) (acc : List Value) : List Step → Exec (List Value)
  | [] => pure acc.reverse
  | step :: rest => do
    let here := location.child (.step i)
    match ← observe (enter config step scope here (dispatch config runner scope here step)) with
    | .ok v => runItems config runner scope location (i + 1) (v :: acc) rest
    | .error .cancelled => throw .cancelled
    | .error e =>
      match scope.onError with
      | .stop => throw e
      | .continue => runItems config runner scope location (i + 1) (failureEntry e :: acc) rest

/-- The flows of branches, counted from `b`, each on its own copy of the variables. -/
def branchFlows (config : Config) (runner : Option FrameRunner) (scope : Scope)
    (location : Location) (b : Nat) (env : Environment) :
    List (List Step) → List (Flow BranchResult)
  | [] => []
  | steps :: rest =>
    (Prod.fst <$> (runItems config runner scope (location.child (.branch b)) 0 [] steps).run
      (env.forkBranch b)) ::
      branchFlows config runner scope location (b + 1) env rest

end

/-- A step with all that surrounds it. -/
def runStep (config : Config) (runner : Option FrameRunner) (step : Step) (scope : Scope)
    (location : Location) : Exec Value :=
  enter config step scope location (dispatch config runner scope location step)

end Workflow

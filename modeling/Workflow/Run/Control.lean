import Workflow.Event.Basic
import Workflow.Run.Record

/-!
# Control of runs

The state machine of an engine that runs one workflow at a time. Every run that begins gets a token;
cancelling marks the token of the latest run. A step boundary lets a run pass unless the engine is
paused, where the run waits, or cancelled, where it ends. How far the latest run has come is kept
beside the state.

## Main definitions

* `Workflow.Control` — the state of an engine.
* `Workflow.Control.begin`, `Workflow.Control.pause`, `Workflow.Control.resume`,
  `Workflow.Control.cancel`, `Workflow.Control.finish` — the changes of state.
* `Workflow.Control.boundary` — what a step boundary does.
-/

namespace Workflow

/-- The number of the token of a run, counted over the life of an engine. -/
abbrev Token := Nat

/-- How far the latest run has come. -/
structure Progress where
  executionId : Option RunId
  workflowId : Option String
  currentStep : Nat
  totalSteps : Nat
  environment : Bindings Value
deriving Inhabited

/-- The state of an engine, the tokens of its runs, and how far the latest run has come. -/
structure Control where
  state : RunState
  /-- For every token whether it is cancelled. -/
  tokens : List Bool
  progress : Progress
deriving Inhabited

/-- Why a request is refused. -/
inductive ControlError where
  | alreadyRunning
  | cannotPause (state : RunState)
  | cannotResume (state : RunState)
deriving DecidableEq, Repr

/-- The text of why a request is refused. -/
def ControlError.message : ControlError → String
  | alreadyRunning => "a workflow is already running on this engine"
  | cannotPause s => "cannot pause while " ++ s.text
  | cannotResume s => "cannot resume while " ++ s.text

/-- What a run meets at a step boundary. -/
inductive Boundary where
  | passes
  | waits
  | ends
deriving DecidableEq, Repr

namespace Control

/-- An engine that has run nothing. -/
def initial : Control := ⟨.idle, [], ⟨none, none, 0, 0, []⟩⟩

/-- A run begins, unless another goes on. -/
def begin (c : Control) (identity : Identity) (totalSteps : Nat) (env : Environment) :
    Except ControlError (Token × Control) :=
  if c.state.isActive then .error .alreadyRunning
  else .ok (c.tokens.length,
    { state := .running, tokens := c.tokens ++ [false]
      progress := ⟨some identity.executionId, some identity.workflowId, 0, totalSteps, env.vars⟩ })

/-- The run and the step that an event of a request tells of. -/
def position (c : Control) : RunId × Nat :=
  (c.progress.executionId.getD (.ofNat 0), c.progress.currentStep)

/-- Running turns to paused. -/
def pause (c : Control) : Except ControlError (Control × Event) :=
  if c.state = .running then
    .ok ({ c with state := .paused }, .paused c.position.1 c.position.2)
  else .error (.cannotPause c.state)

/-- Paused turns to running. -/
def resume (c : Control) : Except ControlError (Control × Event) :=
  if c.state = .paused then
    .ok ({ c with state := .running }, .resumed c.position.1 c.position.2)
  else .error (.cannotResume c.state)

/-- A run that goes on is cancelled, and so is the latest token. -/
def cancel (c : Control) : Control :=
  if c.state.isActive then
    { c with state := .cancelled, tokens := c.tokens.set (c.tokens.length - 1) true }
  else c

/-- A run ends with an outcome, unless it was cancelled before; the state that results. -/
def finish (c : Control) (outcome : RunState) : RunState × Control :=
  if c.state = .cancelled then (.cancelled, c) else (outcome, { c with state := outcome })

/-- A top-level step is about to run. -/
def recordProgress (c : Control) (index : Nat) (env : Environment) : Control :=
  { c with progress := { c.progress with currentStep := index, environment := env.vars } }

/-- The variables of a run at its end. -/
def recordEnvironment (c : Control) (env : Environment) : Control :=
  { c with progress := { c.progress with environment := env.vars } }

/-- What a run meets at a step boundary. -/
def boundary (c : Control) : Boundary :=
  match c.state with
  | .paused => .waits
  | .cancelled => .ends
  | _ => .passes

/-- A token is cancelled. -/
def isCancelled (c : Control) (t : Token) : Bool := c.tokens[t]?.getD false

/-- The state at one time. -/
def snapshot (c : Control) : StatusSnapshot where
  state := c.state
  executionId := c.progress.executionId
  workflowId := c.progress.workflowId
  currentStep := c.progress.currentStep
  totalSteps := c.progress.totalSteps
  environment := c.progress.environment

end Control

end Workflow

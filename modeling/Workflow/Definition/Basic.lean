import Workflow.Condition
import Workflow.Path
import Workflow.Timestamp

/-!
# Workflow definitions

The description of a workflow: seed variables and a list of steps. A step is one of seven kinds,
with a name, a variable for its result, and a policy for retries, each of which may be missing.
Condition, loop and parallel steps hold further lists of steps.

## Main definitions

* `Workflow.Step` — the steps, by kind.
* `Workflow.Definition` — the definitions.
-/

namespace Workflow

/-- Whether and how a failed step is tried again; what is missing is taken from the configuration of
the engine. -/
structure RetryPolicy where
  enabled : Bool
  /-- The attempts after the first. -/
  maxRetries : Option UInt32
  /-- The milliseconds between attempts. -/
  delay : Option UInt64
deriving DecidableEq, Repr, Inhabited

/-- What steps of every kind may have. -/
structure StepInfo where
  name : Option String
  /-- The variable that takes the result. -/
  outputVariable : Option String
  retry : Option RetryPolicy
deriving DecidableEq, Repr, Inhabited

/-- What a loop repeats for. -/
inductive LoopKind where
  | forEach
  | whileTrue
  | times
deriving DecidableEq, Repr, Inhabited

/-- The name of a kind of loop. -/
def LoopKind.text : LoopKind → String
  | forEach => "forEach"
  | whileTrue => "while"
  | times => "times"

/-- How a loop repeats; which of the fields it needs depends on its kind. -/
structure LoopSpec where
  kind : LoopKind
  items : Option Value
  condition : Option Condition
  times : Option Value
  /-- The variable that takes the current item. -/
  itemVariable : Option String
  maxIterations : Option UInt32
deriving Inhabited

/-- A step of a workflow. -/
inductive Step where
  /-- Hands a payload to the host. -/
  | action (info : StepInfo) (payload : Value)
  /-- Runs one of two lists. -/
  | condition (info : StepInfo) (test : Condition) (whenTrue whenFalse : List Step)
  /-- Repeats a list. -/
  | loop (info : StepInfo) (spec : LoopSpec) (body : List Step)
  /-- Waits for a number of milliseconds. -/
  | wait (info : StepInfo) (duration : Value)
  /-- Runs lists side by side, each on its own copy of the variables. -/
  | parallel (info : StepInfo) (branches : List (List Step))
  /-- Runs another registered workflow. -/
  | subWorkflow (info : StepInfo) (workflowId : Value) (vars : Bindings Value)
  /-- Evaluates a script; a time limit in milliseconds may be given. -/
  | script (info : StepInfo) (source : String) (timeout : Option UInt64)
deriving Inhabited

namespace Step

/-- What the step has whatever its kind. -/
def info : Step → StepInfo
  | action i _ => i
  | condition i _ _ _ => i
  | loop i _ _ => i
  | wait i _ => i
  | parallel i _ => i
  | subWorkflow i _ _ => i
  | script i _ _ => i

/-- The name of the kind of a step. -/
def kindName : Step → String
  | action _ _ => "action"
  | condition _ _ _ _ => "condition"
  | loop _ _ _ => "loop"
  | wait _ _ => "wait"
  | parallel _ _ => "parallel"
  | subWorkflow _ _ _ => "subWorkflow"
  | script _ _ _ => "script"

/-- What a step is called in reports: its name, or its kind when it has none. -/
def label (s : Step) : String := s.info.name.getD s.kindName

end Step

/-- What becomes of a run when a step has failed for good. -/
inductive OnError where
  | stop
  | continue
deriving DecidableEq, Repr, Inhabited

/-- The name of an error policy. -/
def OnError.text : OnError → String
  | stop => "stop"
  | «continue» => "continue"

/-- A workflow definition. -/
structure Definition where
  /-- The key in the registry; it may be empty until the definition is registered. -/
  id : String
  name : String
  description : Option String
  version : String
  /-- The variables that every run starts with. -/
  vars : Bindings Value
  steps : List Step
  onError : OnError
  /-- Descriptions of what starts the workflow; they are kept for the host and never read. -/
  triggers : List Json
  createdAt : Option Timestamp
  updatedAt : Option Timestamp
deriving Inhabited

/-- The version of a definition that gives none. -/
def Definition.defaultVersion : String := "1.0.0"

/-- A definition with a name and steps and nothing else. -/
def Definition.named (name : String) (steps : List Step) : Definition where
  id := ""
  name := name
  description := none
  version := Definition.defaultVersion
  vars := []
  steps := steps
  onError := .stop
  triggers := []
  createdAt := none
  updatedAt := none

namespace Step

/-- No name, no variable for the result, no retries. -/
def plain : StepInfo := ⟨none, none, none⟩

/-- A step that hands a payload to the host. -/
def ofAction (payload : Value) : Step := action plain payload

/-- A step that waits. -/
def ofWait (milliseconds : Nat) : Step := wait plain (.ofNat milliseconds)

/-- A step that evaluates a script. -/
def ofScript (source : String) : Step := script plain source none

/-- The step with other fields of every kind. -/
def withInfo (f : StepInfo → StepInfo) : Step → Step
  | action i p => action (f i) p
  | condition i t a b => condition (f i) t a b
  | loop i s b => loop (f i) s b
  | wait i d => wait (f i) d
  | parallel i bs => parallel (f i) bs
  | subWorkflow i w v => subWorkflow (f i) w v
  | script i s t => script (f i) s t

/-- The step with a name. -/
def named (s : Step) (name : String) : Step := s.withInfo fun i => { i with name := some name }

/-- The step with a variable for its result. -/
def output (s : Step) (key : String) : Step :=
  s.withInfo fun i => { i with outputVariable := some key }

/-- The step with a retry policy. -/
def withRetry (s : Step) (policy : RetryPolicy) : Step :=
  s.withInfo fun i => { i with retry := some policy }

end Step

end Workflow

import Workflow.Decimal.Layout

/-!
# Failures of steps

Why a step fails, and the texts of the reasons. Cancellation is no failure that could be tried
again; everything else is.
-/

namespace Workflow

/-- Why a host did not perform an action. -/
inductive ActionError where
  | failed (message : String)
  | unsupported (message : String)
deriving DecidableEq, Repr

/-- The text of why a host did not perform an action. -/
def ActionError.message : ActionError → String
  | failed m => m
  | unsupported m => "unsupported action: " ++ m

/-- Why a step fails. -/
inductive StepError where
  /-- A condition has an unknown operator, a bad pattern or a bad expression. -/
  | invalidExpression (detail : String)
  /-- A parameter has a value that cannot be used. -/
  | invalidParameter (detail : String)
  | workflowNotFound (id : String)
  | actionFailed (detail : String)
  | scriptFailed (detail : String)
  /-- A sub-workflow would nest deeper than the limit. -/
  | tooDeep (depth limit : Nat)
  | subWorkflowFailed (id detail : String)
  /-- The run was cancelled. -/
  | cancelled
deriving DecidableEq, Repr

namespace StepError

/-- The text of why a step fails. -/
def message : StepError → String
  | invalidExpression d => "invalid expression: " ++ d
  | invalidParameter d => "invalid parameter: " ++ d
  | workflowNotFound id => "workflow not found: " ++ id
  | actionFailed d => "action execution failed: " ++ d
  | scriptFailed d => "script execution failed: " ++ d
  | tooDeep depth limit =>
    "sub-workflow depth " ++ Decimal.natText depth ++ " exceeds maximum " ++ Decimal.natText limit
  | subWorkflowFailed id d => "sub-workflow '" ++ id ++ "' failed: " ++ d
  | cancelled => "execution cancelled"

/-- The step may be tried again. -/
def isRetryable : StepError → Bool
  | cancelled => false
  | _ => true

end StepError

end Workflow

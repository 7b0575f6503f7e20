import Workflow.Value.Basic
import Workflow.RunId
import Workflow.Text.Search

/-!
# Environments

The variables of one run, in the order in which they first arrived. Six keys are managed by the
engine: three hold the identity of the run, the others the position in a loop or among parallel
branches and the summary of the last sub-workflow.

## Main definitions

* `Workflow.Environment` — the variables of a run.
* `Workflow.Environment.lookup?` — the value of a name or of a dotted path.
* `Workflow.Identity`, `Workflow.Environment.stamp` — the identity of a run and its keys.
* `Workflow.Environment.replaceUserVariables` — the variables that a script hands back.
-/

namespace Workflow

/-! ### Keys of the engine -/

namespace Key

/-- The target that the run was started for. -/
def target : String := "_targetId"

/-- The identifier of the workflow that runs. -/
def workflow : String := "_workflowId"

/-- The identifier of the run. -/
def execution : String := "_executionId"

/-- The number of the iteration of the innermost loop. -/
def loopIndex : String := "_loopIndex"

/-- The number of the parallel branch. -/
def branchIndex : String := "_branchIndex"

/-- The summary of the last sub-workflow. -/
def subWorkflowResult : String := "_subWorkflowResult"

/-- The keys managed by the engine. -/
def reserved : List String :=
  [target, workflow, execution, loopIndex, branchIndex, subWorkflowResult]

/-- The key is managed by the engine. -/
def isReserved (key : String) : Bool := reserved.contains key

end Key

/-- What a run is identified by: its workflow, its own identifier, and the target it was started
for. -/
structure Identity where
  workflowId : String
  executionId : RunId
  target : Option Value

/-- The variables of a run. -/
structure Environment where
  vars : Bindings Value
deriving Inhabited

namespace Environment

/-- No variables. -/
def empty : Environment := ⟨[]⟩

/-- The defaults of a workflow with the variables given for a run written over them. -/
def seed (defaults overrides : Bindings Value) : Environment := ⟨Bindings.setAll defaults overrides⟩

/-- The value of a key. -/
def get? (env : Environment) (key : String) : Option Value := Bindings.get? env.vars key

/-- Binds a key. -/
def set (env : Environment) (key : String) (value : Value) : Environment :=
  ⟨Bindings.set env.vars key value⟩

theorem set_set (env : Environment) (key : String) (v w : Value) :
    (env.set key v).set key w = env.set key w :=
  congrArg Environment.mk (Bindings.set_set env.vars key v w)

/-- Removes a key. -/
def erase (env : Environment) (key : String) : Environment := ⟨Bindings.erase env.vars key⟩

/-- The key is bound. -/
def contains (env : Environment) (key : String) : Bool := Bindings.contains env.vars key

/-- Follows the segments of a path through records and lists. -/
def follow? : Value → List String → Option Value
  | v, [] => some v
  | v, s :: rest => (v.get? s).bind fun w => follow? w rest

/-- The value of a name. A key that is bound as it stands wins; otherwise the segments between the
dots lead from a variable through records and lists. -/
def lookup? (env : Environment) (path : String) : Option Value :=
  match env.get? path with
  | some v => some v
  | none =>
    match Text.pieces path "." with
    | [] => none
    | head :: segments => (env.get? head).bind fun v => follow? v segments

/-- Writes the identity of a run into its three keys. -/
def stamp (env : Environment) (identity : Identity) : Environment :=
  ((env.set Key.target (identity.target.getD .null)).set
    Key.workflow (.text identity.workflowId)).set Key.execution (.text identity.executionId.text)

/-- The copy of an environment that a parallel branch works on. -/
def forkBranch (env : Environment) (index : Nat) : Environment :=
  env.set Key.branchIndex (.ofNat index)

/-- Takes over all variables that a script handed back: a user variable that is not among them is
removed, a reserved key never is. -/
def replaceUserVariables (env : Environment) (vars : Bindings Value) : Environment :=
  let kept := env.vars.filter fun e => Key.isReserved e.1 || Bindings.contains vars e.1
  ⟨Bindings.setAll kept vars⟩

/-- The variables without the reserved keys. -/
def userVariables (env : Environment) : Bindings Value :=
  env.vars.filter fun e => !Key.isReserved e.1

/-- The variables as an object. -/
def toJson (env : Environment) : Json := (Value.record env.vars).toJson

end Environment

end Workflow

import Workflow.Definition.Reading
import Workflow.File.Tree

/-!
# Checking definitions

Two checks. On the raw tree, every step at any depth must name a known kind; the first that does
not, in the order of a walk from the top, is reported with its path. On a definition, names and
lists must not be empty and steps must have what their kind needs.

## Main definitions

* `Workflow.UnknownKind`, `Workflow.firstUnknown?` — the check of the kinds of a raw list of steps.
* `Workflow.Invalid`, `Workflow.Definition.validate` — the check of a definition.
* `Workflow.DefinitionError`, `Workflow.Definition.ofDocument` — both checks around the reader.
-/

namespace Workflow

/-! ### Kinds of the raw tree -/

/-- A step of a raw tree that names no known kind. -/
structure UnknownKind where
  path : Path
  kind : String

/-- The name of an unknown kind, as it is reported: a text as it stands, any other tree in compact
form, and nothing when the step names none. -/
def unknownName? (step : Json) : Option String :=
  match step.field? "type" with
  | some (.text s) => if (StepKind.ofText? s).isSome then none else some s
  | some j => some j.compact
  | none => some ""

/-- The outcomes of walks into the lists of a step, at the step's path. -/
structure NestedUnknown where
  /-- The first unknown kind in a field that is read as a list, given the path of the list. -/
  inList : Path → Option UnknownKind
  /-- The same for a field that is read as a list of branches, given the path of the step. -/
  inBranches : Path → Option UnknownKind

/-- The first unknown kind within a step, its lists taken in order. -/
def firstNested? (nested : Bindings NestedUnknown) (path : Path) : Option UnknownKind :=
  let list (key : String) (s : Segment) : Option UnknownKind :=
    (Bindings.get? nested key).bind fun n => n.inList (path ++ [s])
  (list "then" .whenTrue).or ((list "else" .whenFalse).or ((list "steps" .body).or
    ((Bindings.get? nested "branches").bind fun n => n.inBranches path)))

mutual

/-- The first unknown kind of a step and the steps within it. -/
def unknownInStep? (path : Path) : Json → Option UnknownKind
  | .object fields =>
    match unknownName? (.object fields) with
    | some kind => some ⟨path, kind⟩
    | none => firstNested? (unknownInFields fields) path
  | j => (unknownName? j).map fun kind => ⟨path, kind⟩

/-- The first unknown kind of the steps of a list, counted from `i`. -/
def unknownInItems? (list : Path) (i : Nat) : List Json → Option UnknownKind
  | [] => none
  | j :: rest =>
    (unknownInStep? (list ++ [.step i]) j).or (unknownInItems? list (i + 1) rest)

/-- The first unknown kind of a tree that may be a list of steps. -/
def firstUnknown? (list : Path) : Json → Option UnknownKind
  | .array items => unknownInItems? list 0 items
  | _ => none

/-- The first unknown kind of branches, counted from `b`. -/
def unknownInBranches? (step : Path) (b : Nat) : List Json → Option UnknownKind
  | [] => none
  | j :: rest =>
    (firstUnknown? (step ++ [.branch b]) j).or (unknownInBranches? step (b + 1) rest)

/-- Walks into every field. -/
def unknownInFields : List (String × Json) → Bindings NestedUnknown
  | [] => []
  | (k, j) :: rest =>
    (k, ⟨fun p => firstUnknown? p j, fun p => unknownInAlternatives? p j⟩) :: unknownInFields rest

/-- The first unknown kind of a tree that may be a list of branches. -/
def unknownInAlternatives? (step : Path) : Json → Option UnknownKind
  | .array items => unknownInBranches? step 0 items
  | _ => none

end

/-! ### Definitions -/

/-- What a step lacks. -/
inductive StepFault where
  | noItems
  | noCondition
  | noTimes
  | noBranch
  | noWorkflow
  | noSource
deriving DecidableEq, Repr

/-- The text of what a step lacks. -/
def StepFault.message : StepFault → String
  | noItems => "forEach loop requires 'items'"
  | noCondition => "while loop requires 'condition'"
  | noTimes => "times loop requires 'times'"
  | noBranch => "parallel step requires at least one branch"
  | noWorkflow => "subWorkflow step requires 'workflowId'"
  | noSource => "script step requires non-empty 'script'"

/-- Why a definition is not accepted. -/
inductive Invalid where
  | noName
  | noSteps
  | step (path : Path) (fault : StepFault)
deriving DecidableEq, Repr

/-- The text of why a definition is not accepted. -/
def Invalid.message : Invalid → String
  | noName => "workflow name must not be empty"
  | noSteps => "workflow must have at least one step"
  | step path fault => "step " ++ path.text ++ ": " ++ fault.message

/-- What a loop lacks for its kind. -/
def LoopSpec.fault? (l : LoopSpec) : Option StepFault :=
  match l.kind with
  | .forEach => if l.items.isNone then some .noItems else none
  | .whileTrue => if l.condition.isNone then some .noCondition else none
  | .times => if l.times.isNone then some .noTimes else none

/-- The identifier of a sub-workflow names none: it is null or blank. -/
def namesNoWorkflow : Value → Bool
  | .null => true
  | .text s => Text.allBlank s
  | _ => false

namespace Step

mutual

/-- The first fault of a step and the steps within it. -/
def fault? (path : Path) : Step → Option Invalid
  | action _ _ => none
  | wait _ _ => none
  | condition _ _ whenTrue whenFalse =>
    (faults? (path ++ [.whenTrue]) 0 whenTrue).or (faults? (path ++ [.whenFalse]) 0 whenFalse)
  | loop _ spec body =>
    match spec.fault? with
    | some f => some (.step path f)
    | none => faults? (path ++ [.body]) 0 body
  | parallel _ branches =>
    if branches.isEmpty then some (.step path .noBranch) else branchFaults? path 0 branches
  | subWorkflow _ workflowId _ =>
    if namesNoWorkflow workflowId then some (.step path .noWorkflow) else none
  | script _ source _ => if Text.allBlank source then some (.step path .noSource) else none

/-- The first fault of the steps of a list, counted from `i`. -/
def faults? (list : Path) (i : Nat) : List Step → Option Invalid
  | [] => none
  | s :: rest => (fault? (list ++ [.step i]) s).or (faults? list (i + 1) rest)

/-- The first fault of the steps of branches, counted from `b`. -/
def branchFaults? (step : Path) (b : Nat) : List (List Step) → Option Invalid
  | [] => none
  | ss :: rest => (faults? (step ++ [.branch b]) 0 ss).or (branchFaults? step (b + 1) rest)

end

end Step

/-- The first reason why a definition is not accepted. -/
def Definition.invalid? (d : Definition) : Option Invalid :=
  if Text.allBlank d.name then some .noName
  else if d.steps.isEmpty then some .noSteps
  else Step.faults? [] 0 d.steps

/-- Why a document gives no definition. -/
inductive DefinitionError where
  | malformed
  | invalid (reason : Invalid)
  | unknownKind (fault : UnknownKind)
  /-- Its file cannot be read or written. -/
  | file (e : FileError)

/-- The text of why a document gives no definition. -/
def DefinitionError.message : DefinitionError → String
  | malformed => "parse error: the document describes no workflow"
  | invalid reason => "validation error: " ++ reason.message
  | unknownKind fault =>
    "unknown step kind '" ++ fault.kind ++ "' at step " ++ fault.path.text
  | file e => "I/O error: " ++ e.message

/-- The texts of why a document gives no definition, from the outside in. -/
def DefinitionError.causes : DefinitionError → List String
  | file e => [(file e).message, e.message]
  | e => [e.message]

/-- A definition that has passed its check. -/
def Definition.validate (d : Definition) : Except DefinitionError Definition :=
  match d.invalid? with
  | some reason => .error (.invalid reason)
  | none => .ok d

/-- The definition of a document: the kinds of its steps are checked first, then it is read, then
the definition is checked. -/
def Definition.ofDocument (j : Json) : Except DefinitionError Definition :=
  match (j.field? "steps").bind (firstUnknown? []) with
  | some fault => .error (.unknownKind fault)
  | none =>
    match Definition.ofJson? j with
    | some d => d.validate
    | none => .error .malformed

end Workflow

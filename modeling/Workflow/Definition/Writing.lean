import Workflow.Definition.Basic

/-!
# Definitions as documents

The tree that a definition is written as. Fields that are missing are left out, and so are empty
variables, triggers and lists for an outcome that does not hold; the lists of conditions and loops
are always written.

## Main definitions

* `Workflow.Step.toJson`, `Workflow.Definition.toJson` — the trees.
-/

namespace Workflow

/-- A field that is left out when it is missing. -/
def optionalField {α : Type} (key : String) (f : α → Json) : Option α → List (String × Json)
  | some a => [(key, f a)]
  | none => []

/-- The tree of a condition. -/
def Condition.toJson : Condition → Json
  | literal b => .bool b
  | text s => .text s
  | comparison left operator right =>
    .object [("left", left.toJson), ("operator", .text operator), ("right", right.toJson)]

/-- The tree of a retry policy. -/
def RetryPolicy.toJson (r : RetryPolicy) : Json :=
  .object ([("enabled", .bool r.enabled)] ++
    optionalField "maxRetries" (fun n => .integer n.toNat) r.maxRetries ++
    optionalField "delay" (fun n => .integer n.toNat) r.delay)

/-- The fields that steps of every kind may have. -/
def StepInfo.fields (i : StepInfo) : List (String × Json) :=
  optionalField "name" .text i.name ++ optionalField "outputVariable" .text i.outputVariable ++
    optionalField "retry" RetryPolicy.toJson i.retry

/-- The field of a map, left out when it has no keys. -/
def variablesField (vars : Bindings Value) : List (String × Json) :=
  if vars.isEmpty then [] else [("variables", .object (Value.toFields vars))]

namespace Step

/-- The fields of a step of a kind. -/
def fieldsOf (i : StepInfo) (kind : String) (rest : List (String × Json)) : Json :=
  .object (i.fields ++ ("type", .text kind) :: rest)

mutual

/-- The tree of a step. -/
def toJson : Step → Json
  | action i payload => fieldsOf i "action" [("action", payload.toJson)]
  | condition i test whenTrue whenFalse =>
    fieldsOf i "condition" ([("condition", test.toJson), ("then", .array (toItems whenTrue))] ++
      if whenFalse.isEmpty then [] else [("else", .array (toItems whenFalse))])
  | loop i spec body =>
    fieldsOf i "loop" ([("loopType", .text spec.kind.text)] ++
      optionalField "items" Value.toJson spec.items ++
      optionalField "condition" Condition.toJson spec.condition ++
      optionalField "times" Value.toJson spec.times ++
      optionalField "itemVariable" .text spec.itemVariable ++
      [("steps", .array (toItems body))] ++
      optionalField "maxIterations" (fun n => .integer n.toNat) spec.maxIterations)
  | wait i duration => fieldsOf i "wait" [("duration", duration.toJson)]
  | parallel i branches => fieldsOf i "parallel" [("branches", .array (toBranches branches))]
  | subWorkflow i workflowId vars =>
    fieldsOf i "subWorkflow" (("workflowId", workflowId.toJson) :: variablesField vars)
  | script i source timeout =>
    fieldsOf i "script" (("script", .text source) ::
      optionalField "timeout" (fun n => .integer n.toNat) timeout)

/-- The trees of a list of steps. -/
def toItems : List Step → List Json
  | [] => []
  | s :: rest => toJson s :: toItems rest

/-- The trees of lists of steps. -/
def toBranches : List (List Step) → List Json
  | [] => []
  | b :: rest => .array (toItems b) :: toBranches rest

end

end Step

/-- The tree of a definition. -/
def Definition.toJson (d : Definition) : Json :=
  .object ([("id", .text d.id), ("name", .text d.name)] ++
    optionalField "description" .text d.description ++
    [("version", .text d.version)] ++ variablesField d.vars ++
    [("steps", .array (Step.toItems d.steps)), ("onError", .text d.onError.text)] ++
    (if d.triggers.isEmpty then [] else [("triggers", .array d.triggers)]) ++
    optionalField "createdAt" (fun t => .text t.text) d.createdAt ++
    optionalField "updatedAt" (fun t => .text t.text) d.updatedAt)

end Workflow

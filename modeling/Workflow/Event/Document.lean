import Workflow.Event.Basic
import Workflow.Definition.Reading

/-!
# Events as documents

The tree that an event is written as, and the event that a tree describes. The fields of an event
may also be written as an array in order, behind the kind.

## Main definitions

* `Workflow.Event.toJson`, `Workflow.Event.ofJson?`.
-/

namespace Workflow

/-- The fields that give the place of a step. -/
def EventPlace.fields (p : EventPlace) : List (String × Json) :=
  [("stepIndex", .integer p.index), ("path", .text p.path)]

namespace Event

/-- The fields of an event behind its kind and its run. -/
def details : Event → List (String × Json)
  | started _ workflowId totalSteps =>
    [("workflowId", .text workflowId), ("totalSteps", .integer totalSteps)]
  | stepStarted _ p name kind => p.fields ++ [("name", .text name), ("kind", .text kind)]
  | stepCompleted _ p name result durationMs =>
    p.fields ++ [("name", .text name), ("result", result.toJson),
      ("durationMs", .integer durationMs)]
  | stepFailed _ p name error => p.fields ++ [("name", .text name), ("error", .text error)]
  | retrying _ p attempt maxRetries delayMs error =>
    p.fields ++ [("attempt", .integer attempt.toNat), ("maxRetries", .integer maxRetries.toNat),
      ("delayMs", .integer delayMs), ("error", .text error)]
  | paused _ i => [("stepIndex", .integer i)]
  | resumed _ i => [("stepIndex", .integer i)]
  | cancelled _ i => [("stepIndex", .integer i)]
  | completed _ i durationMs stepsCompleted results =>
    [("stepIndex", .integer i), ("durationMs", .integer durationMs),
     ("stepsCompleted", .integer stepsCompleted), ("results", .array (Value.toItems results))]
  | failed _ i error => [("stepIndex", .integer i), ("error", .text error)]
  | scriptLog _ p level message =>
    p.fields ++ [("level", .text level.text), ("message", .text message)]

/-- The tree of an event. -/
def toJson (e : Event) : Json :=
  .object (("type", .text e.kindName) :: ("executionId", .text e.run.text) :: e.details)

/-- The kinds of event in order, each with the names of its fields behind the kind. -/
def layouts : List (String × List String) :=
  [("started", ["executionId", "workflowId", "totalSteps"]),
   ("stepStarted", ["executionId", "stepIndex", "path", "name", "kind"]),
   ("stepCompleted", ["executionId", "stepIndex", "path", "name", "result", "durationMs"]),
   ("stepFailed", ["executionId", "stepIndex", "path", "name", "error"]),
   ("retrying",
     ["executionId", "stepIndex", "path", "attempt", "maxRetries", "delayMs", "error"]),
   ("paused", ["executionId", "stepIndex"]),
   ("resumed", ["executionId", "stepIndex"]),
   ("cancelled", ["executionId", "stepIndex"]),
   ("completed", ["executionId", "stepIndex", "durationMs", "stepsCompleted", "results"]),
   ("failed", ["executionId", "stepIndex", "error"]),
   ("scriptLog", ["executionId", "stepIndex", "path", "level", "message"])]

/-- The kind that a tag names, by its name or by its number, with the names of the fields. -/
def layout? : Json → Option (String × List String)
  | .text s => layouts.find? fun l => l.1 = s
  | .integer n => if 0 ≤ n then layouts[n.toNat]? else none
  | _ => none

/-- The severity that a tree names. -/
def level? (j : Json) : Option LogLevel :=
  match Read.alternative? true j with
  | some "debug" => some .debug
  | some "info" => some .info
  | some "warn" => some .warn
  | some "error" => some .error
  | _ => none

/-- The values of an array. -/
def values? (j : Json) : Option (List Value) := j.items?.map Value.ofItems

/-- The event of a kind with given fields. -/
def ofFields? (kind : String) (fields : List (String × Json)) : Option Event := do
  let field? (key : String) : Option Json := Bindings.get? fields key
  let text? (key : String) : Option String := (field? key).bind Json.text?
  let number? (key : String) : Option Nat := (field? key).bind Read.natural?
  let count? (key : String) : Option UInt32 := (field? key).bind Read.uint32?
  let run ← (← text? "executionId") |> RunId.ofText?
  let index? := number? "stepIndex"
  let place? : Option EventPlace := do some ⟨← index?, ← text? "path"⟩
  match kind with
  | "started" => some (.started run (← text? "workflowId") (← number? "totalSteps"))
  | "stepStarted" => some (.stepStarted run (← place?) (← text? "name") (← text? "kind"))
  | "stepCompleted" =>
    some (.stepCompleted run (← place?) (← text? "name") (Value.ofJson (← field? "result"))
      (← number? "durationMs"))
  | "stepFailed" => some (.stepFailed run (← place?) (← text? "name") (← text? "error"))
  | "retrying" =>
    some (.retrying run (← place?) (← count? "attempt") (← count? "maxRetries")
      (← number? "delayMs") (← text? "error"))
  | "paused" => some (.paused run (← index?))
  | "resumed" => some (.resumed run (← index?))
  | "cancelled" => some (.cancelled run (← index?))
  | "completed" =>
    some (.completed run (← index?) (← number? "durationMs") (← number? "stepsCompleted")
      (← (field? "results").bind values?))
  | "failed" => some (.failed run (← index?) (← text? "error"))
  | "scriptLog" =>
    some (.scriptLog run (← place?) (← (field? "level").bind level?) (← text? "message"))
  | _ => none

/-- The event that a tree describes. -/
def ofJson? : Json → Option Event
  | .object fields => do
    let (kind, _) ← layout? (← Bindings.get? fields "type")
    ofFields? kind fields
  | .array (tag :: items) => do
    let (kind, names) ← layout? tag
    if items.length ≤ names.length then ofFields? kind (names.zip items) else none
  | _ => none

end Event

end Workflow

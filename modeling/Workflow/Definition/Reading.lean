import Workflow.Definition.Writing

/-!
# Definitions from documents

The definition that a tree describes, if it describes one. A field that may be missing may also be
null, unknown fields are passed over, and a kind of step may be spelled with a capital. Records that
hold no step may also be written as the array of their fields in order.

The lists of steps within a step are read first, field by field, so that the reader goes down the
tree; the step is then put together from its other fields and these lists.

## Main definitions

* `Workflow.Step.ofJson?`, `Workflow.Definition.ofJson?` — the readers.
* `Workflow.StepKind` — the kinds of step and their spellings.
-/

namespace Workflow

/-! ### Kinds of step -/

/-- A kind of step. -/
inductive StepKind where
  | action
  | condition
  | loop
  | wait
  | parallel
  | subWorkflow
  | script
deriving DecidableEq, Repr, Inhabited

namespace StepKind

/-- The kinds in order. -/
def all : List StepKind := [action, condition, loop, wait, parallel, subWorkflow, script]

/-- The name of a kind. -/
def text : StepKind → String
  | action => "action"
  | condition => "condition"
  | loop => "loop"
  | wait => "wait"
  | parallel => "parallel"
  | subWorkflow => "subWorkflow"
  | script => "script"

/-- The name of a kind with a capital. -/
def capitalized (k : StepKind) : String :=
  match k.text.toList with
  | c :: rest => String.ofList (c.toUpper :: rest)
  | [] => ""

/-- The kind that a spelling names. -/
def ofText? (s : String) : Option StepKind := all.find? fun k => k.text = s || k.capitalized = s

/-- The spellings that a step is read by. -/
def spellings : StepKind → List String
  | action => ["action", "Action"]
  | condition => ["condition", "Condition"]
  | loop => ["loop", "Loop"]
  | wait => ["wait", "Wait"]
  | parallel => ["parallel", "Parallel"]
  | subWorkflow => ["subWorkflow", "SubWorkflow"]
  | script => ["script", "Script"]

/-- The kind that a tag names: a spelling, or a number counting the kinds. -/
def ofTag? : Json → Option StepKind
  | .text s => all.find? fun k => k.spellings.contains s
  | .integer n => if 0 ≤ n then all[n.toNat]? else none
  | _ => none

end StepKind

/-! ### Fields -/

namespace Read

/-- A field that may be missing or null. -/
def optional? {α : Type} (f : Json → Option α) : Option Json → Option (Option α)
  | none => some none
  | some .null => some none
  | some j => (f j).map some

/-- A field that has a value when it is missing. -/
def default? {α : Type} (value : α) (f : Json → Option α) : Option Json → Option α
  | none => some value
  | some j => f j

/-- A boolean. -/
def bool? : Json → Option Bool
  | .bool b => some b
  | _ => none

/-- An integer literal without a sign; a document holds none beyond 64 bits. -/
def natural? : Json → Option Nat
  | .integer n => if 0 ≤ n then some n.toNat else none
  | _ => none

/-- An integer literal of at most `bits` bits. -/
def unsigned? (bits : Nat) : Json → Option Nat
  | .integer n => if 0 ≤ n ∧ n < Nat.pow 2 bits then some n.toNat else none
  | _ => none

/-- An integer literal of 32 bits. -/
def uint32? (j : Json) : Option UInt32 := (unsigned? 32 j).map UInt32.ofNat

/-- An integer literal of 64 bits. -/
def uint64? (j : Json) : Option UInt64 := (unsigned? 64 j).map UInt64.ofNat

/-- A value. -/
def value? (j : Json) : Option Value := some (Value.ofJson j)

/-- An object of values. -/
def vars? : Json → Option (Bindings Value)
  | .object fields => some (Value.ofFields fields)
  | _ => none

/-- The name of a plain alternative: a text, or an object whose only field has the name and holds
nothing. -/
def alternative? (emptyObject : Bool) : Json → Option String
  | .text s => some s
  | .object [(s, .null)] => some s
  | .object [(s, .object [])] => if emptyObject then some s else none
  | _ => none

/-- The fields of a record that is written as an object, or as an array of them in order. -/
def record? (names : List String) : Json → Option (List (String × Json))
  | .object fields => some fields
  | .array items => if items.length ≤ names.length then some (names.zip items) else none
  | _ => none

end Read

/-! ### Steps -/

/-- The condition that a tree describes. -/
def Condition.ofJson? : Json → Option Condition
  | .bool b => some (.literal b)
  | .text s => some (.text s)
  | .object fields => do
    let left ← Bindings.get? fields "left"
    let operator ← (← Bindings.get? fields "operator").text?
    let right ← Bindings.get? fields "right"
    some (.comparison (Value.ofJson left) operator (Value.ofJson right))
  | _ => none

/-- The retry policy that a tree describes. -/
def RetryPolicy.ofJson? (j : Json) : Option RetryPolicy := do
  let fields ← Read.record? ["enabled", "maxRetries", "delay"] j
  let enabled ← Read.default? false Read.bool? (Bindings.get? fields "enabled")
  let maxRetries ← Read.optional? Read.uint32? (Bindings.get? fields "maxRetries")
  let delay ← Read.optional? Read.uint64? (Bindings.get? fields "delay")
  some ⟨enabled, maxRetries, delay⟩

/-- The kind of loop that a tree names. -/
def LoopKind.ofJson? (j : Json) : Option LoopKind :=
  match Read.alternative? true j with
  | some "forEach" => some .forEach
  | some "while" => some .whileTrue
  | some "times" => some .times
  | _ => none

/-- The fields that steps of every kind may have. -/
def StepInfo.ofFields? (fields : List (String × Json)) : Option StepInfo := do
  let name ← Read.optional? Json.text? (Bindings.get? fields "name")
  let outputVariable ← Read.optional? Json.text? (Bindings.get? fields "outputVariable")
  let retry ← Read.optional? RetryPolicy.ofJson? (Bindings.get? fields "retry")
  some ⟨name, outputVariable, retry⟩

/-- How a loop repeats. -/
def LoopSpec.ofFields? (fields : List (String × Json)) : Option LoopSpec := do
  let kind ← LoopKind.ofJson? (← Bindings.get? fields "loopType")
  let items ← Read.optional? Read.value? (Bindings.get? fields "items")
  let condition ← Read.optional? Condition.ofJson? (Bindings.get? fields "condition")
  let times ← Read.optional? Read.value? (Bindings.get? fields "times")
  let itemVariable ← Read.optional? Json.text? (Bindings.get? fields "itemVariable")
  let maxIterations ← Read.optional? Read.uint32? (Bindings.get? fields "maxIterations")
  some ⟨kind, items, condition, times, itemVariable, maxIterations⟩

namespace Step

/-- A list of steps that is empty when it is missing. -/
def listOf? (lists : Bindings (Option (List Step))) (key : String) : Option (List Step) :=
  (Bindings.get? lists key).getD (some [])

/-- A step from its fields, the lists of steps among them, and the lists of lists. -/
def assemble? (fields : List (String × Json)) (lists : Bindings (Option (List Step)))
    (branches : Bindings (Option (List (List Step)))) : Option Step := do
  let i ← StepInfo.ofFields? fields
  let kind ← StepKind.ofTag? (← Bindings.get? fields "type")
  match kind with
  | .action => some (.action i (Value.ofJson (← Bindings.get? fields "action")))
  | .condition =>
    let test ← Condition.ofJson? (← Bindings.get? fields "condition")
    some (.condition i test (← listOf? lists "then") (← listOf? lists "else"))
  | .loop => some (.loop i (← LoopSpec.ofFields? fields) (← listOf? lists "steps"))
  | .wait => some (.wait i (Value.ofJson (← Bindings.get? fields "duration")))
  | .parallel => some (.parallel i (← (← Bindings.get? branches "branches")))
  | .subWorkflow =>
    let workflowId ← Bindings.get? fields "workflowId"
    let vars ← Read.default? [] Read.vars? (Bindings.get? fields "variables")
    some (.subWorkflow i (Value.ofJson workflowId) vars)
  | .script =>
    let source ← (← Bindings.get? fields "script").text?
    let timeout ← Read.optional? Read.uint64? (Bindings.get? fields "timeout")
    some (.script i source timeout)

mutual

/-- The step that a tree describes. -/
def ofJson? : Json → Option Step
  | .object fields => assemble? fields (lists fields) (branchLists fields)
  | _ => none

/-- The list of steps that a tree describes. -/
def list? : Json → Option (List Step)
  | .array items => ofItems? items
  | _ => none

/-- The steps that trees describe. -/
def ofItems? : List Json → Option (List Step)
  | [] => some []
  | j :: rest =>
    match ofJson? j, ofItems? rest with
    | some s, some ss => some (s :: ss)
    | _, _ => none

/-- Every field read as a list of steps. -/
def lists : List (String × Json) → Bindings (Option (List Step))
  | [] => []
  | (k, j) :: rest => (k, list? j) :: lists rest

/-- The lists of steps that trees describe. -/
def ofBranches? : List Json → Option (List (List Step))
  | [] => some []
  | j :: rest =>
    match list? j, ofBranches? rest with
    | some b, some bs => some (b :: bs)
    | _, _ => none

/-- The lists of steps that a tree describes. -/
def branches? : Json → Option (List (List Step))
  | .array items => ofBranches? items
  | _ => none

/-- Every field read as lists of steps. -/
def branchLists : List (String × Json) → Bindings (Option (List (List Step)))
  | [] => []
  | (k, j) :: rest => (k, branches? j) :: branchLists rest

end

end Step

/-! ### Definitions -/

/-- The error policy that a tree names. -/
def OnError.ofJson? (j : Json) : Option OnError :=
  match Read.alternative? false j with
  | some "stop" => some .stop
  | some "continue" => some .continue
  | _ => none

/-- A point in time. -/
def Timestamp.ofJson? (j : Json) : Option Timestamp := j.text?.bind Timestamp.ofText?

/-- The names of the fields of a definition in order. -/
def Definition.fieldNames : List String :=
  ["id", "name", "description", "version", "variables", "steps", "onError", "triggers",
   "createdAt", "updatedAt"]

/-- The definition that a tree describes. -/
def Definition.ofJson? (j : Json) : Option Definition := do
  let fields ← Read.record? Definition.fieldNames j
  let id ← Read.default? "" Json.text? (Bindings.get? fields "id")
  let name ← (← Bindings.get? fields "name").text?
  let description ← Read.optional? Json.text? (Bindings.get? fields "description")
  let version ← Read.default? defaultVersion Json.text? (Bindings.get? fields "version")
  let vars ← Read.default? [] Read.vars? (Bindings.get? fields "variables")
  let steps ← Step.list? (← Bindings.get? fields "steps")
  let onError ← Read.default? .stop OnError.ofJson? (Bindings.get? fields "onError")
  let triggers ← Read.default? [] Json.items? (Bindings.get? fields "triggers")
  let createdAt ← Read.optional? Timestamp.ofJson? (Bindings.get? fields "createdAt")
  let updatedAt ← Read.optional? Timestamp.ofJson? (Bindings.get? fields "updatedAt")
  some ⟨id, name, description, version, vars, steps, onError, triggers, createdAt, updatedAt⟩

end Workflow

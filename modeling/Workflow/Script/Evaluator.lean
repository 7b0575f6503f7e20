import Workflow.Config.Basic
import Workflow.Engine.Host
import Workflow.Script.Evaluation

/-!
# The evaluator of scripts

A script finds the variables of its run in a map of the name `vars`, and what it leaves there become
the variables of the run. It comes to what it has resolved to first, or else to the value of its
last expression. Variables that a closure has taken along cannot be handed back.

## Main definitions

* `Workflow.Script.evaluate` — what a script comes to, with what it has logged.
* `Workflow.Script.evaluator` — the evaluator for the hosts of engines.
-/

namespace Workflow.Script

/-- The name under which a script finds the variables. -/
def variablesName : String := "vars"

/-- The machine when a script begins. -/
def Machine.initial (bounds : Bounds) (vars : Bindings Value) (functions : List FunctionDef) :
    Machine where
  bounds := bounds
  vars := [⟨variablesName, false, .inl (Datum.ofBindings (Datum.ofFields vars))⟩]
  cells := #[]
  globals := []
  functions := functions
  log := #[]
  settled := none
  operations := 0
  spent := 0
  slept := 0
  depth := 0
  nesting := 0

/-- The repetitions and levels that an evaluation may go through. -/
def evaluationFuel : Nat := 1000000000

/-- The value that a datum is handed back as. -/
def handedBack (d : Datum) : Except ScriptError Value :=
  match d.toValue? with
  | some v => .ok v
  | none => .error (.unusable ("unsupported script value: " ++ d.typeName))

/-- What a script comes to that has ended with a value. -/
def Machine.outcome (m : Machine) (last : Datum) : Except ScriptError ScriptOutcome := do
  let result ← handedBack (m.settled.getD last)
  match (m.nearest? variablesName).map Variable.content with
  | none => pure ⟨result, []⟩
  | some (.inr _) => throw (.unusable "unsupported script value: shared variables")
  | some (.inl d) =>
    match ← handedBack d with
    | .record fields => pure ⟨result, fields⟩
    | v =>
      throw (.unusable
        ("'" ++ variablesName ++ "' must remain an object map, got " ++ v.kindName))

/-- Why a script has not ended with a value: what was thrown, or the innermost cause with its
place. -/
def Fault.error (bounds : Bounds) (f : Fault) : ScriptError :=
  match f.innermost with
  | (.thrown d, _) => .rejected d.reported
  | (.timedOut, _) => .timedOut (bounds.time.getD 0)
  | (.cancelled, _) => .cancelled
  | (cause, spot) => .rejected (located cause.message spot)

/-- How a script has ended. -/
def Machine.ending (m : Machine) (bounds : Bounds) (r : Except Signal Datum) :
    Except ScriptError ScriptOutcome :=
  match r with
  | .ok d => m.outcome d
  | .error (.returned d) => m.outcome d
  | .error (.exited d) => m.outcome d
  | .error (.fault f) => .error (f.error bounds)
  | .error (.broken d) => .error (.rejected d.reported)
  | .error .continued => .error (.rejected "")

/-- What a script comes to, with what it has logged. -/
def evaluate (bounds : Bounds) (source : String) (vars : Bindings Value) :
    List (LogLevel × String) × Except ScriptError ScriptOutcome :=
  match parse source with
  | .error e => ([], .error (.unusable ("syntax error: " ++ e.message)))
  | .ok code =>
    let code := code.simplified
    let (r, m) :=
      (execAll evaluationFuel code.body).run (Machine.initial bounds vars code.functions)
    (m.log.toList, m.ending bounds r)

/-- The evaluator for the hosts of engines with a configuration. -/
def evaluator (config : Config) (request : ScriptRequest) : ScriptRun :=
  let (log, outcome) :=
    evaluate ⟨request.limit, config.operationLimit, false⟩ request.source request.vars
  .ended log outcome

end Workflow.Script

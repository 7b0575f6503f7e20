import Workflow.RunId
import Workflow.Value.Basic

/-!
# Events

What an engine tells about its runs while they go on. An event names its run; all but the first also
give the index of the top-level step, and those of a single step give its path and name.

## Main definitions

* `Workflow.Event` — the events.
* `Workflow.Event.run`, `Workflow.Event.stepIndex`, `Workflow.Event.kindName`.
-/

namespace Workflow

/-- How severe a line logged by a script is. -/
inductive LogLevel where
  | debug
  | info
  | warn
  | error
deriving DecidableEq, Repr, Inhabited

/-- The name of a severity. -/
def LogLevel.text : LogLevel → String
  | debug => "debug"
  | info => "info"
  | warn => "warn"
  | error => "error"

/-- The place of a step as events give it: the index of the top-level step, and the written path. -/
structure EventPlace where
  index : Nat
  path : String
deriving DecidableEq, Repr, Inhabited

/-- Something that has happened in a run. -/
inductive Event where
  | started (run : RunId) (workflowId : String) (totalSteps : Nat)
  | stepStarted (run : RunId) (place : EventPlace) (name kind : String)
  | stepCompleted (run : RunId) (place : EventPlace) (name : String) (result : Value)
      (durationMs : Nat)
  | stepFailed (run : RunId) (place : EventPlace) (name error : String)
  /-- A failed attempt is about to be followed by another; attempts after the first are counted
  from one. -/
  | retrying (run : RunId) (place : EventPlace) (attempt maxRetries : UInt32) (delayMs : Nat)
      (error : String)
  | paused (run : RunId) (index : Nat)
  | resumed (run : RunId) (index : Nat)
  | cancelled (run : RunId) (index : Nat)
  | completed (run : RunId) (index durationMs stepsCompleted : Nat) (results : List Value)
  | failed (run : RunId) (index : Nat) (error : String)
  /-- A script has logged a line. -/
  | scriptLog (run : RunId) (place : EventPlace) (level : LogLevel) (message : String)
deriving Inhabited

namespace Event

/-- The run that an event is about. -/
def run : Event → RunId
  | started r _ _ => r
  | stepStarted r _ _ _ => r
  | stepCompleted r _ _ _ _ => r
  | stepFailed r _ _ _ => r
  | retrying r _ _ _ _ _ => r
  | paused r _ => r
  | resumed r _ => r
  | cancelled r _ => r
  | completed r _ _ _ _ => r
  | failed r _ _ => r
  | scriptLog r _ _ _ => r

/-- The index of the top-level step; the first event of a run counts for step zero. -/
def stepIndex : Event → Nat
  | started _ _ _ => 0
  | stepStarted _ p _ _ => p.index
  | stepCompleted _ p _ _ _ => p.index
  | stepFailed _ p _ _ => p.index
  | retrying _ p _ _ _ _ => p.index
  | paused _ i => i
  | resumed _ i => i
  | cancelled _ i => i
  | completed _ i _ _ _ => i
  | failed _ i _ => i
  | scriptLog _ p _ _ => p.index

/-- The name of the kind of an event. -/
def kindName : Event → String
  | started _ _ _ => "started"
  | stepStarted _ _ _ _ => "stepStarted"
  | stepCompleted _ _ _ _ _ => "stepCompleted"
  | stepFailed _ _ _ _ => "stepFailed"
  | retrying _ _ _ _ _ _ => "retrying"
  | paused _ _ => "paused"
  | resumed _ _ => "resumed"
  | cancelled _ _ => "cancelled"
  | completed _ _ _ _ _ => "completed"
  | failed _ _ _ => "failed"
  | scriptLog _ _ _ _ => "scriptLog"

end Event

end Workflow

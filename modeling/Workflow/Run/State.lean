/-!
# States of runs

An engine is idle until its first run. A run is running or paused while it goes on, and ends as
completed, failed or cancelled.
-/

namespace Workflow

/-- The state of the run of an engine. -/
inductive RunState where
  | idle
  | running
  | paused
  | completed
  | failed
  | cancelled
deriving DecidableEq, Repr, Inhabited

namespace RunState

/-- The states in order. -/
def all : List RunState := [idle, running, paused, completed, failed, cancelled]

/-- A run goes on. -/
def isActive : RunState → Bool
  | running => true
  | paused => true
  | _ => false

/-- A run has ended. -/
def isTerminal : RunState → Bool
  | completed => true
  | failed => true
  | cancelled => true
  | _ => false

/-- The name of a state. -/
def text : RunState → String
  | idle => "idle"
  | running => "running"
  | paused => "paused"
  | completed => "completed"
  | failed => "failed"
  | cancelled => "cancelled"

/-- The state with a name. -/
def ofText? (s : String) : Option RunState := all.find? fun r => r.text = s

end RunState

end Workflow

import Workflow.Run.Request

/-!
# Hosts

What stands behind an engine: it performs actions and evaluates scripts. A host answers an action
at once or after some time, and may ask the engine to pause, to resume or to cancel before it does;
it may also crash. A script is evaluated at once, or hangs until it is stopped.

## Main definitions

* `Workflow.Reply` — how a host goes about an action.
* `Workflow.Host` — a host with a state of its own.
* `Workflow.Host.echo` — a host that hands back what it is given.
-/

namespace Workflow

/-- A request to the engine from outside a run. -/
inductive ControlRequest where
  | pause
  | resume
  | cancel
deriving DecidableEq, Repr

/-- How a host goes about an action. -/
inductive Reply where
  | answer (r : Except ActionError Value)
  /-- Some milliseconds pass first. -/
  | after (ms : Nat) (rest : Reply)
  /-- The engine is asked for something first. -/
  | control (c : ControlRequest) (rest : Except ControlError Unit → Reply)
  /-- The host crashes with a message. -/
  | crash (message : String)

/-- How a script goes. -/
inductive ScriptRun where
  | ended (log : List (LogLevel × String)) (r : Except ScriptError ScriptOutcome)
  /-- It goes on until it is stopped. -/
  | hangs

/-- A host with a state of its own. -/
structure Host (σ : Type) where
  perform : σ → ActionCall → σ × Reply
  evaluate : ScriptRequest → ScriptRun

namespace Host

/-- Every script fails, as scripts are disabled. -/
def noScripts : ScriptRequest → ScriptRun := fun _ => .ended [] (.error .disabled)

/-- What an action is answered when nothing performs it. -/
def echoed (call : ActionCall) : Value :=
  .record ([("ok", .bool true), ("action", call.payload), ("stepIndex", .ofNat call.location.index),
      ("path", .text call.location.path.text)] ++
    match call.target with
    | some v => [("targetRef", v)]
    | none => [])

/-- A host that performs nothing and tells what it was given. -/
def echo (evaluate : ScriptRequest → ScriptRun) : Host Unit where
  perform := fun s call => (s, .answer (.ok (echoed call)))
  evaluate := evaluate

end Host

end Workflow

import Workflow.Run.Control
import Workflow.Run.Failure
import Workflow.Script.Outcome

/-!
# Requests of a run

What a run asks for while it goes on, and what it is answered. A run is a pure program; its engine,
its host and the clock are met in requests only.

## Main definitions

* `Workflow.Scope`, `Workflow.Location` — the frame that a step belongs to, and where it stands.
* `Workflow.Request`, `Workflow.Request.Answer` — the requests and their answers.
-/

namespace Workflow

/-- What all steps of a frame share: a frame is the top-level list of a workflow or of a
sub-workflow. -/
structure Scope where
  identity : Identity
  onError : OnError
  token : Token
  /-- How deep the frame is nested; zero for the top-level workflow. -/
  depth : Nat

/-- Where a step stands: its top-level index and its path. -/
structure Location where
  index : Nat
  path : Path
deriving DecidableEq, Repr

namespace Location

/-- The place of a top-level step. -/
def top (index : Nat) : Location := ⟨index, [.step index]⟩

/-- The place one part further down. -/
def child (p : Location) (s : Segment) : Location := ⟨p.index, p.path ++ [s]⟩

/-- The place as events give it. -/
def forEvents (p : Location) : EventPlace := ⟨p.index, p.path.text⟩

end Location

/-- An action for the host to perform, with where it comes from. -/
structure ActionCall where
  payload : Value
  target : Option Value
  run : RunId
  location : Location

/-- A script to evaluate. -/
structure ScriptRequest where
  source : String
  vars : Bindings Value
  /-- The milliseconds that it may take. -/
  limit : Option Nat
  token : Token
  run : RunId
  location : Location

/-- An attempt at a step, as it begins. -/
structure Attempt where
  step : Step
  scope : Scope
  location : Location
  env : Environment

/-- What a run asks for. -/
inductive Request where
  /-- To pass a step boundary; the answer is whether it may go on. -/
  | boundary
  /-- Nothing; it marks where an attempt at a step begins. -/
  | attempt (a : Attempt)
  | publish (e : Event)
  | perform (call : ActionCall)
  | evaluate (script : ScriptRequest)
  /-- To let some milliseconds pass; the answer is false when the token is cancelled first. -/
  | sleep (token : Token) (ms : Nat)
  /-- Whether a token is cancelled. -/
  | isCancelled (token : Token)
  | recordProgress (index : Nat) (env : Environment)
  | recordEnvironment (env : Environment)
  /-- The definition registered under an identifier. -/
  | lookup (id : String)
  /-- An identifier that was not given out before. -/
  | freshId
  | begin (identity : Identity) (totalSteps : Nat) (env : Environment)
  /-- To end with an outcome; the answer is the state that results and the current step. -/
  | finish (outcome : RunState)

/-- What a request is answered. -/
@[reducible] def Request.Answer : Request → Type
  | boundary => Bool
  | attempt _ => Unit
  | publish _ => Unit
  | perform _ => Except ActionError Value
  | evaluate _ => Except ScriptError ScriptOutcome
  | sleep _ _ => Bool
  | isCancelled _ => Bool
  | recordProgress _ _ => Unit
  | recordEnvironment _ => Unit
  | lookup _ => Option Definition
  | freshId => RunId
  | begin _ _ _ => Except ControlError Token
  | finish _ => RunState × Nat

end Workflow

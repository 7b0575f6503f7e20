import Workflow.Engine.Host
import Workflow.Run.Flow

/-!
# Threads

How far a flow has been run: it has not started, or it has finished, or its host has crashed in it,
or it waits for the answer to a request, or it waits for its branches.

## Main definitions

* `Workflow.Blocked` — what is waited for, by request.
* `Workflow.Thread` — flows that have been run as far as they go.
-/

namespace Workflow

/-- What the answer to a request waits for. -/
inductive Blocked : Request → Type where
  /-- The engine is paused. -/
  | boundary : Blocked .boundary
  | sleep {token : Token} {ms : Nat} (deadline : Nat) : Blocked (.sleep token ms)
  /-- A script hangs; it has a deadline when it has a limit. -/
  | script {s : ScriptRequest} (deadline : Option Nat) : Blocked (.evaluate s)
  /-- The host lets time pass before the rest of its reply. -/
  | host {call : ActionCall} (deadline : Nat) (rest : Reply) : Blocked (.perform call)

/-- When the wait is over at the latest, if time alone ends it. -/
def Blocked.deadline? {r : Request} : Blocked r → Option Nat
  | boundary => none
  | sleep d => some d
  | script d => d
  | host d _ => some d

/-- A flow that has been run as far as it goes. -/
inductive Thread : Type → Type 1 where
  /-- It has not started. -/
  | ready {α : Type} (flow : Flow α) : Thread α
  | finished {α : Type} (a : α) : Thread α
  /-- The host has crashed. -/
  | crashed {α : Type} (report : String) : Thread α
  | waiting {α : Type} (r : Request) (b : Blocked r) (next : r.Answer → Flow α) : Thread α
  /-- Branches are under way; what follows is given how they end. -/
  | joining {α : Type} (token : Token) (branches : List (Thread BranchResult))
      (next : Option (List BranchEnd) → Flow α) : Thread α

namespace Thread

variable {α : Type}

/-- What a thread has come to, if it has finished. -/
def result? : Thread α → Option α
  | finished a => some a
  | _ => none

/-- The thread does not go on. -/
def hasEnded : Thread α → Bool
  | finished _ => true
  | crashed _ => true
  | _ => false

/-- How a branch has ended, if it has. -/
def end? : Thread BranchResult → Option BranchEnd
  | finished r => some (.finished r)
  | crashed report => some (.crashed report)
  | _ => none

/-- How branches have ended, if all of them have. -/
def ends? (ts : List (Thread BranchResult)) : Option (List BranchEnd) := ts.mapM end?

/-- The earlier of two deadlines. -/
def earlier : Option Nat → Option Nat → Option Nat
  | some a, some b => some (min a b)
  | some a, none => some a
  | none, d => d

mutual

/-- When time alone lets a thread go on. -/
def deadline? {α : Type} : Thread α → Option Nat
  | ready _ => none
  | finished _ => none
  | crashed _ => none
  | waiting _ b _ => b.deadline?
  | joining _ branches _ => deadlineOf? branches

/-- When time alone lets one of some branches go on. -/
def deadlineOf? : List (Thread BranchResult) → Option Nat
  | [] => none
  | t :: rest => earlier t.deadline? (deadlineOf? rest)

end

end Thread

end Workflow

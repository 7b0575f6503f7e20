import Workflow.Engine.Running
import Workflow.Run.Execution

/-!
# Sessions

A session is one execution on an engine together with a plan of requests that are made while it
goes on, each at its time. The clock stands still while anything can go on, and then moves to the
next time at which something can. An execution that does not end is cancelled after a long time.

## Main definitions

* `Workflow.Command`, `Workflow.Planned` — what is asked of an engine, and when.
* `Workflow.Session`, `Workflow.Session.start` — an execution with what is left of its plan.
* `Workflow.Engine.hold` — a session from its start to its end.
-/

namespace Workflow

/-- What is asked of an engine. -/
inductive Command where
  | control (c : ControlRequest)
  | status
  | execute (id : String) (options : RunOptions)

/-- What is asked of an engine a number of milliseconds after the start of a session. -/
structure Planned where
  time : Nat
  command : Command

/-- What an engine answers. -/
inductive CommandAnswer where
  | control (r : Except ControlError Unit)
  | status (s : StatusSnapshot)
  | execution (r : RunEnd)

/-- An answer with the state of the engine after it. -/
structure Answered where
  answer : CommandAnswer
  state : RunState

/-- An execution with what is left of its plan. -/
structure Session (σ : Type) where
  engine : Engine σ
  /-- The time at which the session has started. -/
  origin : Nat
  main : Thread RunEnd
  plan : List Planned
  /-- An execution that the plan waits for. -/
  side : Option (Thread RunEnd)
  /-- The answers so far, the latest first. -/
  answers : List Answered
  /-- The execution was cancelled because it did not end. -/
  gaveUp : Bool

namespace Session

variable {σ : Type}

/-- The milliseconds after which an execution that does not end is cancelled. -/
def patience : Nat := 100000000

/-- Lets everything go on that can, in order; none when nothing can. -/
def wake? (s : Session σ) : Option (Session σ) :=
  let m := Engine.wake s.main s.engine
  let (side, e, sideWentOn) := match s.side with
    | some t =>
      let w := Engine.wake t m.engine
      (some w.thread, w.engine, w.wentOn)
    | none => (none, m.engine, false)
  let (ts, e, othersWentOn) := Engine.wakeAll e.detached { e with detached := [] }
  if m.wentOn || sideWentOn || othersWentOn then
    some { s with main := m.thread, side := side, engine := e.detach ts }
  else none

/-- The session with an answer. -/
def answer (s : Session σ) (a : CommandAnswer) : Session σ :=
  { s with answers := ⟨a, s.engine.runs.state⟩ :: s.answers }

/-- Takes down how the execution that the plan waits for has ended; none when it has not. -/
def collect? (s : Session σ) : Option (Session σ) :=
  match s.side.bind Thread.result? with
  | some r => some (answer { s with side := none } (.execution r))
  | none => none

/-- Asks something of the engine. -/
def command (s : Session σ) : Command → Session σ
  | .control c =>
    let (r, e) := s.engine.control c
    answer { s with engine := e } (.control r)
  | .status => s.answer (.status s.engine.runs.snapshot)
  | .execute id options =>
    let (t, e) := Engine.run (execute s.engine.config id options) s.engine
    { s with side := some t, engine := e }

/-- Makes the next request of the plan when its time has come. -/
def proceed? (s : Session σ) : Option (Session σ) :=
  match s.side, s.plan with
  | none, p :: rest =>
    if s.origin + p.time ≤ s.engine.now then some (command { s with plan := rest } p.command)
    else none
  | _, _ => none

/-- When the execution is cancelled if it has not ended. -/
def surrender? (s : Session σ) : Option Nat :=
  if s.gaveUp || s.main.hasEnded then none else some (s.origin + patience)

/-- When the next request of the plan is due. -/
def due? (s : Session σ) : Option Nat :=
  match s.side, s.plan with
  | none, p :: _ => some (s.origin + p.time)
  | _, _ => none

/-- The next time at which something can go on. -/
def nextTime? (s : Session σ) : Option Nat :=
  Thread.earlier s.main.deadline? (Thread.earlier (s.side.bind Thread.deadline?)
    (Thread.earlier (Thread.deadlineOf? s.engine.detached) (Thread.earlier s.due? s.surrender?)))

/-- The execution has ended and nothing is left of the plan. -/
def isOver (s : Session σ) : Bool := s.main.hasEnded && s.side.isNone && s.plan.isEmpty

/-- Moves the clock to the next time at which something can go on, and cancels the execution when it
is to be cancelled; none when the session is over or nothing can ever go on. -/
def advance? (s : Session σ) : Option (Session σ) :=
  if s.isOver then none
  else
    s.nextTime?.map fun t =>
      let s := { s with engine := { s.engine with now := max t s.engine.now } }
      if s.surrender?.any (· ≤ t) then
        { s with gaveUp := true, engine := (s.engine.control .cancel).2 }
      else s

/-- One step of a session; none when it has ended. -/
def step? (s : Session σ) : Option (Session σ) :=
  s.wake? <|> s.collect? <|> s.proceed? <|> s.advance?

/-- At most a number of steps. -/
def steps : Nat → Session σ → Session σ
  | 0, s => s
  | n + 1, s =>
    match s.step? with
    | some s => steps n s
    | none => s

/-- More steps than a session takes. -/
def enough : Nat := 1000000000

end Session

/-- The session of a flow and a plan at its start. -/
def Session.start {σ : Type} (e : Engine σ) (flow : Flow RunEnd) (plan : List Planned) :
    Session σ :=
  let (main, e') := Engine.run flow e
  { engine := e', origin := e.now, main := main, plan := plan, side := none, answers := []
    gaveUp := false }

/-- The milliseconds that have passed since the start of a session. -/
def Session.elapsed {σ : Type} (s : Session σ) : Nat := s.engine.now - s.origin

/-- Runs a flow with a plan until both have ended. -/
def Engine.hold {σ : Type} (e : Engine σ) (flow : Flow RunEnd) (plan : List Planned) : Session σ :=
  Session.steps Session.enough (.start e flow plan)

end Workflow

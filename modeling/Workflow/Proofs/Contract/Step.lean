import Workflow.Proofs.Pact.Frame

/-!
# The contract of steps and frames

Whatever a step is, however it is nested and whatever it is answered, it asks only for what a frame
may ask for: it never begins or ends a run, it tells of single steps only, it sleeps, waits for
branches and evaluates scripts under the token of its frame, and it attempts nothing beyond the
depth of its frame. It fails as cancelled only after it was told of a cancellation. A frame keeps
the contract of its steps, and so do the frames of its sub-workflows, down to the last depth:
whatever the registry holds, no step is attempted deeper than the limit of the configuration.

## Main definitions

* `Workflow.Exec.Abides` — flows with variables that keep a contract.

## Main results

* `Workflow.abides_runStep` — a step keeps the contract of its frame if sub-workflows keep it.
* `Workflow.keeps_frameWithin` — a frame keeps the contract of the depths that it is given.
-/

namespace Workflow

namespace Exec

variable {α β : Type} {k : Contract}

/-- The flow keeps a contract from any variables on, and fails as cancelled only if the contract
reckons with that. -/
def Abides (k : Contract) (x : Exec α) : Prop :=
  ∀ env, (x.run.run env).Keeps k fun p => p.1 = .error .cancelled → k.cancels

/-- To keep a contract is to honour its pact. -/
theorem abides_iff_honours {x : Exec α} : Abides k x ↔ Honours k.pact x := by
  refine forall_congr' fun env => ?_
  rw [← Flow.keeps_iff_honours]
  constructor
  · refine Flow.Keeps.mono ?_ _
    rintro p hp e he rfl
    exact hp he
  · exact Flow.Keeps.mono (fun p hp he => hp _ he rfl) _

theorem abides_bind {x : Exec α} {f : α → Exec β} (hx : Abides k x) (hf : ∀ a, Abides k (f a)) :
    Abides k (x >>= f) :=
  abides_iff_honours.mpr (honours_bind (abides_iff_honours.mp hx)
    fun a => abides_iff_honours.mp (hf a))

theorem abides_get_bind {f : Environment → Exec β} (hf : ∀ env, Abides k (f env)) :
    Abides k (get >>= f) := fun env => hf env env

theorem abides_request {r : Request} (hr : k.asks r) : Abides k (request r) :=
  fun _ => ⟨hr, fun _ _ h => nomatch h⟩

end Exec

/-! ### Steps -/

section Steps

open Exec

variable {config : Config} {scope : Scope} {location : Location} {limit : Nat} {cancels : Prop}

/-- How a frame may end when the contract of its run may reckon with a cancellation. -/
def FrameEnd.Abides (cancels : Prop) (e : FrameEnd) : Prop :=
  ∀ f, e.failure = some f → f.error = .cancelled → cancels

/-- The frames that sub-workflows of a scope are run as keep the contract of their run. -/
def Scope.RunnerAbides (scope : Scope) (limit : Nat) (cancels : Prop)
    (runner : Option FrameRunner) : Prop :=
  ∀ run ∈ runner, ∀ (definition : Definition) (child : Scope) (env : Environment),
    child.token = scope.token → child.depth = scope.depth + 1 →
      (run definition child env).Keeps (.frame scope.token limit cancels)
        (FrameEnd.Abides cancels)

/-- The pact of the contract of a frame suits the steps of the frame. -/
theorem suits_frame (scope : Scope) (limit : Nat) (cancels : Prop) :
    (Contract.frame scope.token limit cancels).pact.Suits scope where
  asks r hr := by cases r <;> first | exact hr | exact hr.elim
  tells _ he _ := he
  joins := rfl
  fails e he hcancelled := by
    subst hcancelled
    exact he.elim
  cancelled _ _ htells hexpects _ := hexpects htells
  abandoned h _ := h

/-- It allows every step, as far down as the contract reaches. -/
theorem allows_frame (hd : scope.depth ≤ limit) (step : Step) :
    (Contract.frame scope.token limit cancels).pact.Allows scope step where
  attempt _ _ := hd
  lacking _ h := nomatch h

theorem Scope.RunnerAbides.hosts {runner : Option FrameRunner}
    (hr : scope.RunnerAbides limit cancels runner) :
    (Contract.frame scope.token limit cancels).pact.Hosts scope runner :=
  fun run hrun _ definition child env _ ht hd =>
    (Flow.keeps_iff_honours _).mp (hr run hrun definition child env ht hd)

variable {runner : Option FrameRunner} (hd : scope.depth ≤ limit)
  (hr : scope.RunnerAbides limit cancels runner)

include hd hr

/-- Every kind of step keeps the contract of its frame. -/
theorem abides_dispatch (location : Location) (step : Step) :
    Abides (.frame scope.token limit cancels) (dispatch config runner scope location step) :=
  abides_iff_honours.mpr (honours_dispatch (suits_frame scope limit cancels) hr.hosts location step
    (Step.every_of_forall (allows_frame hd) step))

/-- A list of steps keeps the contract of its frame. -/
theorem abides_runItems (location : Location) (i : Nat) (acc : List Value) (steps : List Step) :
    Abides (.frame scope.token limit cancels)
      (runItems config runner scope location i acc steps) :=
  abides_iff_honours.mpr (honours_runItems (suits_frame scope limit cancels) hr.hosts location i acc
    steps (Step.everyOf_of_forall (allows_frame hd) steps))

/-- A step keeps the contract of its frame. -/
theorem abides_runStep (step : Step) :
    Abides (.frame scope.token limit cancels) (runStep config runner step scope location) :=
  abides_iff_honours.mpr (honours_runStep (suits_frame scope limit cancels) hr.hosts
    (Step.every_of_forall (allows_frame hd) step))

end Steps

/-! ### Frames -/

section Frames

variable {config : Config} {scope : Scope} {limit : Nat} {cancels : Prop}

/-- The pact of the contract of frames governs the scopes under its token that reach no deeper than
its limit. -/
theorem governs_frame (token : Token) (limit : Nat) (cancels : Prop) :
    (Contract.frame token limit cancels).pact.Governs
      fun scope depths => scope.token = token ∧ scope.depth + depths ≤ limit where
  suits := by
    rintro scope _ ⟨rfl, -⟩
    exact suits_frame scope limit cancels
  child _ _ _ hscope ht hd := ⟨ht.trans hscope.1, by omega⟩
  allows := by
    rintro scope depths _ definition ⟨rfl, hd⟩ -
    exact Step.everyOf_of_forall (allows_frame (by omega)) definition.steps

/-- The steps of a frame keep its contract if sub-workflows keep it. -/
theorem keeps_frameFrom {runner : Option FrameRunner} (hd : scope.depth ≤ limit)
    (hr : scope.RunnerAbides limit cancels runner) (index : Nat) (record : RunRecord)
    (steps : List Step) (env : Environment) :
    ((frameFrom config runner scope index record steps).run env).Keeps
      (.frame scope.token limit cancels)
      fun p => ∀ f, p.1.2 = some f → f.error = .cancelled → cancels :=
  (Flow.keeps_iff_honours _).mpr (honours_frameFrom (suits_frame scope limit cancels) hr.hosts steps
    (Step.everyOf_of_forall (allows_frame hd) steps) index record env)

/-- A frame keeps the contract of the depths that it is given below it. -/
theorem keeps_frameWithin (depths : Nat) (definition : Definition) (scope : Scope)
    (env : Environment) (h : scope.depth + depths ≤ limit) :
    (frameWithin config depths definition scope env).Keeps (.frame scope.token limit cancels)
      (FrameEnd.Abides cancels) :=
  (Flow.keeps_iff_honours _).mpr (honours_frameWithin (governs_frame scope.token limit cancels)
    ⟨rfl, h⟩ (Step.everyOf_of_forall (allows_frame (by omega)) definition.steps) env)

/-- The frames that sub-workflows are run as keep the contract of the depths below. -/
theorem runnerAbides_within {depths : Nat} (h : scope.depth + depths ≤ limit) :
    scope.RunnerAbides limit cancels (runnerWithin config depths) := by
  cases depths with
  | zero => exact fun _ hrun => nomatch hrun
  | succ depths =>
    rintro run ⟨⟩ definition child env ht hc
    rw [← ht]
    exact keeps_frameWithin depths definition child env (by omega)

end Frames

end Workflow

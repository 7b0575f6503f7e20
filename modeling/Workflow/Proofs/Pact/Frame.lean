import Workflow.Proofs.Pact.Step
import Workflow.Run.Execution

/-!
# The pacts of frames

A frame honours a pact that allows its steps and suits them, and so do the frames of its
sub-workflows, down to the last depth, if the pact allows the steps of every definition that it
expects to be registered.

## Main definitions

* `Workflow.Pact.Governs` — the pact suits some scopes and the frames below them.
* `Workflow.runnerWithin` — what a frame runs sub-workflows with.

## Main results

* `Workflow.Pact.Governs.hosts`, `Workflow.honours_frameWithin` — a frame honours a pact that
  governs its scope, with the depths below it.
-/

namespace Workflow

open Exec

variable {k : Pact} {config : Config} {scope : Scope}

/-- The steps of a frame, from one on, honour a pact that allows them. -/
theorem honours_frameFrom {runner : Option FrameRunner} (hs : k.Suits scope)
    (hr : k.Hosts scope runner) : (steps : List Step) → Step.EveryOf (k.Allows scope) steps →
      (index : Nat) → (record : RunRecord) → (env : Environment) →
        ((frameFrom config runner scope index record steps).run env).Honours k
          fun p => ∀ f, p.1.2 = some f → k.fails f.error
  | [], _, _, _, _ => fun _ h => nomatch h
  | step :: rest, ha, index, record, env => by
    unfold frameFrom
    dsimp only
    split
    case' isTrue => refine ⟨hs.asks _ trivial, fun _ _ => ?_⟩
    all_goals
      refine Flow.Honours.bind ?_ ((runStep config runner step scope (.top index)).run.run env)
        (honours_runStep hs hr ha.1 env)
      rintro ⟨e | v, env'⟩ hp
      · have he : k.fails e := hp e rfl
        cases e with
        | cancelled => exact fun _ hf => Option.some.inj hf ▸ he
        | _ =>
          generalize scope.onError = policy
          cases policy with
          | stop => exact fun f hf => Option.some.inj hf ▸ he
          | «continue» => exact honours_frameFrom hs hr rest ha.2 (index + 1) _ env'
      · exact honours_frameFrom hs hr rest ha.2 (index + 1) _ env'

theorem honours_runFrame {runner : Option FrameRunner} (hs : k.Suits scope)
    (hr : k.Hosts scope runner) {definition : Definition}
    (ha : Step.EveryOf (k.Allows scope) definition.steps) (env : Environment) :
    (runFrame config runner definition scope env).Honours k k.Ends :=
  Flow.Honours.bind (fun _ h => h) _ (honours_frameFrom hs hr definition.steps ha 0 _ env)

/-! ### Depths -/

/-- The pact suits the frames of some scopes, each with a number of depths below it, and those of
their sub-workflows, and allows the steps of the definitions that it expects to be registered. -/
structure Pact.Governs (k : Pact) (S : Scope → Nat → Prop) : Prop where
  suits : ∀ scope depths, S scope depths → k.Suits scope
  child : ∀ scope depths child, S scope (depths + 1) → child.token = scope.token →
    child.depth = scope.depth + 1 → S child depths
  allows : ∀ scope depths id definition, S scope depths →
    k.expects (.lookup id) (some definition) → Step.EveryOf (k.Allows scope) definition.steps

/-- What a frame with a number of depths below it runs sub-workflows with. -/
def runnerWithin (config : Config) : (depths : Nat) → Option FrameRunner
  | 0 => none
  | depths + 1 => some (frameWithin config depths)

theorem frameWithin_eq (depths : Nat) :
    frameWithin config depths = runFrame config (runnerWithin config depths) := by
  cases depths <;> rfl

variable {S : Scope → Nat → Prop} (hk : k.Governs S)

include hk

/-- The frames that sub-workflows are run as honour a pact that governs their scopes. -/
theorem Pact.Governs.hosts : (depths : Nat) → (scope : Scope) → S scope depths →
    k.Hosts scope (runnerWithin config depths)
  | 0, _, _ => fun _ h => nomatch h
  | depths + 1, scope, hscope => by
    rintro run ⟨⟩ id definition child env hexpects ht hd
    have hchild : S child depths := hk.child scope depths child hscope ht hd
    rw [frameWithin_eq]
    exact honours_runFrame (hk.suits _ _ hchild) (hosts depths child hchild)
      (hk.allows child depths id definition hchild hexpects) env

/-- A frame honours a pact that governs its scope and allows its steps. -/
theorem honours_frameWithin {depths : Nat} (hscope : S scope depths) {definition : Definition}
    (ha : Step.EveryOf (k.Allows scope) definition.steps) (env : Environment) :
    (frameWithin config depths definition scope env).Honours k k.Ends := by
  rw [frameWithin_eq]
  exact honours_runFrame (hk.suits _ _ hscope) (hk.hosts depths scope hscope) ha env

end Workflow

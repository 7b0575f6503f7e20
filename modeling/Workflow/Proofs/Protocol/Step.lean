import Workflow.Proofs.Protocol.Flow

/-!
# What steps do to variables

Conditions on variables are led through everything that a step is made of: its attempts with what
surrounds them, the iterations of a loop, the branches of a parallel step, a script, and the call of
a sub-workflow. The protocol is left open; it has to allow, at any time, what steps ask for beside
their attempts.

## Main definitions

* `Workflow.Protocol.Lenient` — protocols that allow what steps ask for beside their attempts.
* `Workflow.LoopRule` — what holds before a loop and its iterations, and where it is left.
* `Workflow.Scope.child`, `Workflow.Protocol.Hosts` — the frames of sub-workflows.

## Main results

* `Workflow.meets_enter` — from what holds when an attempt may be made to what holds after a step.
* `Workflow.meets_loopResults` — from what holds before a loop to what holds before its iterations.
-/

namespace Workflow

open Exec

/-- What steps ask for beside their attempts. -/
def Request.IsPlain : Request → Prop
  | boundary => True
  | publish _ => True
  | perform _ => True
  | evaluate _ => True
  | sleep _ _ => True
  | isCancelled _ => True
  | lookup _ => True
  | freshId => True
  | _ => False

/-- The protocol allows at any time what steps ask for beside their attempts. -/
def Protocol.Lenient {σ : Type} (k : Protocol σ) : Prop := ∀ g r, r.IsPlain → k.asks g r

section Steps

variable {σ : Type} {k : Protocol σ} {config : Config} {scope : Scope} {location : Location}
  {I P D : Environment → Prop} {Q Q' : Value → Environment → Prop}
  {J : StepError → Environment → Prop}

/-! ### Attempts -/

/-- Attempts are made as long as they may be: the first, and again after a failure and a sleep. -/
private theorem tracks_attemptsFrom (hk : k.Lenient) {may : Environment → σ → Prop}
    {schedule : RetrySchedule} {attempt : Exec Value}
    (h : ∀ env g, may env g → (attempt.run.run env).Tracks k (fun p _ => Post Q J p) g)
    (again : ∀ e env, J e env → e.isRetryable → J .cancelled env ∧
      ∀ g ms, may env (k.after g (.sleep scope.token ms) true)) :
    (remaining done : Nat) → (env : Environment) → (g : σ) → may env g →
      ((attemptsFrom scope location schedule attempt remaining done).run.run env).Tracks k
        (fun p _ => Post Q J p) g
  | 0, _, env, g, hg => h env g hg
  | remaining + 1, done, env, g, hg => by
    rw [attemptsFrom, run_observe_bind]
    refine Flow.Tracks.bind ?_ (attempt.run.run env) (h env g hg)
    rintro ⟨e | v, env'⟩ g' hp
    · dsimp only
      split
      · next hallows =>
        have hretry : e.isRetryable = true := by
          rw [RetrySchedule.allows, Bool.and_eq_true] at hallows
          exact hallows.1
        obtain ⟨hcancelled, hmay⟩ := again e env' hp hretry
        refine ⟨hk _ _ trivial, fun _ => ⟨hk _ _ trivial, fun slept => ?_⟩⟩
        cases slept with
        | false => exact hcancelled
        | true => exact tracks_attemptsFrom hk h again remaining (done + 1) env' _ (hmay _ _)
      · exact hp
    · exact hp

/-- What surrounds the attempts at a step: an attempt may be made when the step has told that it
starts, and again after a failure and a sleep; what the attempts come to is stored or passed on. -/
theorem meets_enter (hk : k.Lenient) {step : Step} {dispatch : Exec Value}
    (may : Environment → σ → Prop) (refused : ∀ env, P env → J .cancelled env)
    (first : ∀ env g, P env → may (env.stamp scope.identity) (k.after g (.publish (.stepStarted
      scope.identity.executionId location.forEvents step.label step.kindName)) ()))
    (asks : ∀ env g, may env g → k.asks g (.attempt ⟨step, scope, location, env⟩) ∧ D env)
    (h : Meets k D Q J dispatch)
    (again : ∀ e env, J e env → e.isRetryable → J .cancelled env ∧
      ∀ g ms, may env (k.after g (.sleep scope.token ms) true))
    (stores : ∀ v env, Q v env → Q' v (step.info.store v env)) :
    Meets k P Q' J (enter config step scope location dispatch) := by
  have hmarked : ∀ env g, may env g →
      ((step.marked scope location dispatch).run.run env).Tracks k (fun p _ => Post Q J p) g :=
    fun env g hg => ⟨(asks env g hg).1, fun _ => h env _ (asks env g hg).2⟩
  have hattempts : ∀ schedule env g, may env g →
      ((attempts scope location schedule (step.marked scope location dispatch)).run.run env).Tracks
        k (fun p _ => Post Q J p) g := by
    rintro (_ | schedule) env g hg
    · exact hmarked env g hg
    · exact tracks_attemptsFrom hk hmarked again schedule.maxRetries.toNat 0 env g hg
  intro env g hpre
  rw [run_enter]
  refine ⟨hk _ _ trivial, fun goesOn => ?_⟩
  cases goesOn with
  | false => exact refused env hpre
  | true =>
    refine ⟨hk _ _ trivial, fun _ => Flow.Tracks.bind ?_ _ (hattempts _ _ _ (first env _ hpre))⟩
    rintro ⟨e | v, env'⟩ g' hp
    · cases e with
      | cancelled => exact hp
      | _ => exact ⟨hk _ _ trivial, fun _ => hp⟩
    · exact ⟨hk _ _ trivial, fun _ => stores v env' hp⟩

/-! ### Actions, waits, conditions and loops -/

theorem upholds_performAction (hk : k.Lenient) (payload : Value) :
    Upholds k I (performAction payload scope location) := by
  refine meets_get_bind fun env => meets_request_bind (fun _ => hk _ _ trivial) fun r => ?_
  cases r with
  | ok v => exact meets_pure fun _ h => h
  | error e => exact meets_throw fun _ h => h

theorem upholds_waitFor (hk : k.Lenient) (duration : Value) :
    Upholds k I (waitFor duration scope) := by
  refine meets_get_bind fun env => ?_
  dsimp only
  split
  · exact meets_throw fun _ h => h
  · exact meets_request_bind (fun _ => hk _ _ trivial) fun _ =>
      meets_bind (meets_orCancelled fun _ h => h) fun _ => meets_pure fun _ h => h

theorem upholds_holds (c : Condition) : Upholds k I (holds c) := by
  refine meets_get_bind fun env => ?_
  split
  · exact meets_pure fun _ h => h
  · exact meets_throw fun _ h => h

theorem upholds_loopItems (items : Option Value) : Upholds k I (loopItems items) := by
  refine meets_get_bind fun env => ?_
  split
  · exact meets_pure fun _ h => h
  · exact meets_pure fun _ h => h
  · split
    · exact meets_pure fun _ h => h
    · exact meets_throw fun _ h => h
  · exact meets_throw fun _ h => h

/-- What holds before a loop, before each of its iterations, and before the list that an iteration
runs, and what holds when the loop is left: the loop may fail as it starts or where it is tested,
and it may be cancelled before each iteration. -/
structure LoopRule (spec : LoopSpec) (P I B : Environment → Prop)
    (J : StepError → Environment → Prop) : Prop where
  starts : ∀ env, P env → I env
  refused : ∀ e env, P env → J e env
  tested : spec.kind = .whileTrue → ∀ e env, I env → J e env
  cancelled : ∀ env, I env → J .cancelled env
  repeats : ∀ env, I env → B env
  item : spec.kind = .forEach → ∀ v env, I env →
    B (env.set (spec.itemVariable.getD defaultItemVariable) v)
  index : ∀ v env, B env → B (env.set Key.loopIndex v)

section Loops

variable {B : Environment → Prop} {spec : LoopSpec} (hk : k.Lenient) (hI : LoopRule spec P I B J)
  {body : Nat → Exec (List Value)} (h : ∀ i, Meets k B (fun _ => I) J (body i))

include hk hI h

theorem meets_iteration {prepare : Environment → Environment}
    (hp : ∀ env, I env → B (prepare env)) (i : Nat) :
    Meets k I (fun _ => I) J (iteration scope prepare body i) :=
  meets_request_bind (fun _ => hk _ _ trivial) fun _ =>
    meets_bind (meets_orCancelled hI.cancelled) fun _ =>
      meets_modify_bind (fun env he => hI.index _ _ (hp env he)) <|
        meets_bind (h i) fun _ => meets_pure fun _ he => he

theorem meets_forItems (hkind : spec.kind = .forEach) :
    (items : List Value) → (i : Nat) → (acc : List Value) → Meets k I (fun _ => I) J
      (forItems scope (spec.itemVariable.getD defaultItemVariable) body items i acc)
  | [], _, _ => meets_pure fun _ he => he
  | item :: rest, i, _ => meets_bind (meets_iteration hk hI h (hI.item hkind item) i) fun _ =>
    meets_forItems hkind rest (i + 1) _

theorem meets_forTimes : (remaining i : Nat) → (acc : List Value) →
    Meets k I (fun _ => I) J (forTimes scope body remaining i acc)
  | 0, _, _ => meets_pure fun _ he => he
  | remaining + 1, i, _ => meets_bind (meets_iteration hk hI h hI.repeats i) fun _ =>
    meets_forTimes remaining (i + 1) _

theorem meets_whileHolds (hkind : spec.kind = .whileTrue) (test : Condition) :
    (remaining i : Nat) → (acc : List Value) →
      Meets k I (fun _ => I) J (whileHolds scope (holds test) body remaining i acc)
  | 0, _, _ => meets_bind ((upholds_holds test).mono (fun _ he => he) (fun _ _ he => he)
      (hI.tested hkind)) fun _ => meets_pure fun _ he => he
  | remaining + 1, i, _ => by
    refine meets_bind ((upholds_holds test).mono (fun _ he => he) (fun _ _ he => he)
      (hI.tested hkind)) fun met => ?_
    cases met with
    | true => exact meets_bind (meets_iteration hk hI h hI.repeats i) fun _ =>
        meets_whileHolds hkind test remaining (i + 1) _
    | false => exact meets_pure fun _ he => he

/-- A loop leads from what holds before it to what holds before its iterations. -/
theorem meets_loopResults : Meets k P (fun _ => I) J (loopResults config spec scope body) := by
  have hstarts {α : Type} {x : Exec α} (hx : Meets k I (fun _ => I) J x) :
      Meets k P (fun _ => I) J x := hx.mono hI.starts (fun _ _ he => he) fun _ _ he => he
  unfold loopResults
  cases hkind : spec.kind with
  | forEach =>
    exact meets_bind ((upholds_loopItems _).mono (fun _ he => he) (fun _ _ he => he) hI.refused)
      fun items => meets_bind (hstarts (meets_forItems hk hI h hkind _ 0 [])) fun _ =>
        meets_pure fun _ he => he
  | whileTrue =>
    dsimp only
    split
    · exact meets_throw (hI.refused _)
    · exact hstarts (meets_whileHolds hk hI h hkind _ _ 0 [])
  | times =>
    refine meets_get_bind fun env => ?_
    dsimp only
    split
    · exact meets_throw (hI.refused _)
    · exact meets_bind (hstarts (meets_forTimes hk hI h _ 0 [])) fun _ => meets_pure fun _ he => he

end Loops

/-! ### Branches, scripts and sub-workflows -/

theorem upholds_runBranches {branches : List (Flow BranchResult)}
    (h : ∀ x ∈ branches, x.Minds k) : Upholds k I (runBranches scope branches) := by
  have hfork : (Flow.fork scope.token branches.length (fun b => branches.get b) .done).Minds k :=
    fun _ => ⟨fun b => h _ (List.get_mem branches b) _, fun _ => trivial⟩
  refine meets_lift_bind hfork fun ends => ?_
  cases ends with
  | none => exact meets_throw fun _ he => he
  | some ends => exact meets_pure fun _ he => he

/-- A script that fails leaves the variables as they are. -/
theorem meets_evaluateScript (hk : k.Lenient)
    (h : ∀ v vars env, I env → Q v (env.replaceUserVariables vars)) (source : String)
    (timeout : Option UInt64) :
    Meets k I Q (fun _ => I) (evaluateScript config source timeout scope location) := by
  refine meets_get_bind fun env => meets_request_bind (fun _ => hk _ _ trivial) fun r => ?_
  cases r with
  | ok outcome =>
    exact meets_modify_bind (h outcome.result outcome.vars) (meets_pure fun _ he => he)
  | error e =>
    dsimp only
    split
    · exact meets_request_bind (fun _ => hk _ _ trivial) fun _ => meets_throw fun _ he => he
    · exact meets_throw fun _ he => he

/-- The scope of a sub-workflow that a step of a frame calls. -/
def Scope.child (scope : Scope) (definition : Definition) (id : RunId) : Scope :=
  ⟨⟨definition.id, id, scope.identity.target⟩, definition.onError, scope.token, scope.depth + 1⟩

/-- The frames of sub-workflows ask for what the protocol allows. -/
def Protocol.Hosts (k : Protocol σ) (scope : Scope) (runner : Option FrameRunner) : Prop :=
  ∀ run ∈ runner, ∀ (definition : Definition) (id : RunId) (env : Environment),
    (run definition (scope.child definition id) env).Minds k

theorem upholds_subWorkflowId (workflowId : Value) : Upholds k I (subWorkflowId workflowId) := by
  refine meets_get_bind fun env => ?_
  split
  · exact meets_throw fun _ h => h
  · exact meets_pure fun _ h => h

theorem upholds_callWorkflow (hk : k.Lenient) {runner : Option FrameRunner}
    (hr : k.Hosts scope runner) (h : ∀ v env, I env → I (env.set Key.subWorkflowResult v))
    (workflowId : Value) (vars : Bindings Value) :
    Upholds k I (callWorkflow config runner workflowId vars scope) := by
  refine meets_bind (upholds_subWorkflowId workflowId) fun id =>
    meets_request_bind (fun _ => hk _ _ trivial) fun found => ?_
  cases found with
  | none => exact meets_throw fun _ he => he
  | some definition =>
    cases runner with
    | none => exact meets_throw fun _ he => he
    | some run =>
      refine meets_get_bind fun parent => meets_request_bind (fun _ => hk _ _ trivial) fun runId =>
        meets_lift_bind (hr run rfl definition runId _) fun ended => ?_
      refine meets_modify_bind (h _) ?_
      split
      · exact meets_pure fun _ he => he
      · exact meets_throw fun _ he => he
      · exact meets_throw fun _ he => he

end Steps

end Workflow

import Workflow.Proofs.Document.Within
import Workflow.Proofs.Pact.Flow

/-!
# The pacts of steps

A step honours every pact that allows what steps of its frame ask for, that reckons with the
failures they usually come to, and that allows the attempts at the step and at all steps within it,
however these are nested. The workflows that it calls are those that the registry is expected to
hold.

Around its attempts every step does the same: it passes its boundary and tells that it starts, and it
stores a value and tells how it has ended when they are over. What is said of all steps is said of
these two parts and of the attempts between them.

There is one failure that a step comes to on its own account and not by what it is answered: a loop
that repeats while a condition holds and has none. A pact need not reckon with it if it allows no
attempt at such a loop.

## Main definitions

* `Workflow.Step.marked`, `Workflow.Step.conclude` — an attempt at a step, and what follows the
  last.
* `Workflow.Step.closing` — the event that closes a step.
* `Workflow.Step.LacksCondition` — the loops that fail for want of a condition.
* `Workflow.StepError.IsUsual` — the failures that any step may come to.
* `Workflow.Pact.Suits`, `Workflow.Pact.Allows` — pacts that suit the steps of a frame, and the
  steps that they allow.
* `Workflow.Pact.Hosts` — the frames of sub-workflows honour the pact.

## Main results

* `Workflow.run_enter` — what a step does around its attempts.
* `Workflow.honours_dispatch`, `Workflow.honours_runStep` — a step that a pact allows honours it.
-/

namespace Workflow

open Exec

/-! ### What surrounds attempts -/

/-- The variables after a step that has come to a value. -/
def StepInfo.store (i : StepInfo) (v : Value) (env : Environment) : Environment :=
  match i.outputVariable with
  | some key => env.set key v
  | none => env

namespace Step

/-- The event that closes a step, by what the step has come to. -/
def closing (step : Step) (scope : Scope) (location : Location) :
    Except StepError Value → Event
  | .ok v => .stepCompleted scope.identity.executionId location.forEvents step.label v 0
  | .error e => .stepFailed scope.identity.executionId location.forEvents step.label e.message

/-- The variables when a step has ended: its value is in its output variable, and a failure leaves
them as they are. -/
def kept (step : Step) (env : Environment) : Except StepError Value → Environment
  | .ok v => step.info.store v env
  | .error _ => env

variable (config : Config) (step : Step) (scope : Scope) (location : Location)

/-- One attempt at a step: it is marked, and then something is done. -/
def marked (dispatch : Exec Value) : Exec Value := do
  request (.attempt ⟨step, scope, location, ← get⟩)
  dispatch

/-- What a step does when its attempts are over: a value is stored, and it tells how it has ended,
but for a cancellation. -/
def conclude : Except StepError Value → Exec Value
  | .ok v => do
    modify (step.info.store v)
    publish (step.closing scope location (.ok v))
    pure v
  | .error .cancelled => throw .cancelled
  | .error e => do
    publish (step.closing scope location (.error e))
    throw e

theorem run_conclude {r : Except StepError Value} (hr : r ≠ .error .cancelled)
    (env : Environment) : (step.conclude scope location r).run.run env =
      .ask (.publish (step.closing scope location r)) fun _ => .done (r, step.kept env r) := by
  rcases r with e | v
  · cases e with
    | cancelled => exact absurd rfl hr
    | _ => rfl
  · rfl

end Step

section

variable (config : Config) (step : Step) (scope : Scope) (location : Location)

/-- A step passes its boundary, tells that it starts, and is concluded with what its attempts come
to. -/
theorem enter_eq (dispatch : Exec Value) : enter config step scope location dispatch = (do
    orCancelled (← request .boundary)
    modify fun env => env.stamp scope.identity
    publish (.stepStarted scope.identity.executionId location.forEvents step.label step.kindName)
    step.conclude scope location (← observe (attempts scope location
      (RetrySchedule.ofPolicy? step.info.retry config) (step.marked scope location dispatch)))) := by
  unfold enter
  refine bind_congr fun _ => bind_congr fun _ => bind_congr fun _ => bind_congr fun _ =>
    bind_congr fun r => ?_
  rcases r with e | v
  · cases e <;> rfl
  · unfold Step.conclude StepInfo.store
    cases step.info.outputVariable <;> rfl

/-- A step that may not pass its boundary ends at once. -/
theorem run_enter (dispatch : Exec Value) (env : Environment) :
    (enter config step scope location dispatch).run.run env = .ask .boundary fun goesOn =>
      if goesOn then
        .ask (.publish (.stepStarted scope.identity.executionId location.forEvents step.label
          step.kindName)) fun _ =>
            ((attempts scope location (RetrySchedule.ofPolicy? step.info.retry config)
              (step.marked scope location dispatch)).run.run (env.stamp scope.identity)).bind
                fun p => (step.conclude scope location p.1).run.run p.2
      else .done (.error .cancelled, env) := by
  rw [enter_eq]
  refine congrArg (Flow.ask .boundary) (funext fun goesOn => ?_)
  cases goesOn with
  | false => rfl
  | true => exact congrArg (Flow.ask _) (funext fun _ => run_observe_bind ..)

end

/-! ### Loops without a condition -/

/-- The step is a loop that repeats while a condition holds, and has no condition. -/
def Step.LacksCondition : Step → Prop
  | .loop _ spec _ => spec.kind = .whileTrue ∧ spec.condition = none
  | _ => False

/-! ### Failures of steps -/

namespace StepError

/-- A loop has no condition. -/
def noCondition : StepError := .invalidParameter "while loop requires 'condition'"

/-- What the details of a parameter that cannot be used begin with. -/
def misfits : List String :=
  ["subWorkflow id resolved to null", "wait duration must be a number, got ",
   "forEach items must be a list, got ", "times loop count must be a number, got "]

/-- The failures that steps come to by what they are answered, or by values that they cannot use. -/
def IsUsual : StepError → Prop
  | invalidParameter d => ∃ misfit ∈ misfits, ∃ rest, d = misfit ++ rest
  | cancelled => False
  | _ => True

theorem isUsual_misfit {misfit : String} (h : misfit ∈ misfits) (rest : String) :
    (invalidParameter (misfit ++ rest)).IsUsual := ⟨misfit, h, rest, rfl⟩

end StepError

/-- The text of the failure that an event tells of. -/
def Event.failure? : Event → Option String
  | stepFailed _ _ _ text => some text
  | retrying _ _ _ _ _ text => some text
  | failed _ _ text => some text
  | _ => none

/-! ### Pacts that suit steps -/

/-- What the steps of a frame ask for under a token, beside their attempts and what they tell. -/
def Request.IsAside (token : Token) : Request → Prop
  | boundary => True
  | perform _ => True
  | evaluate s => s.token = token
  | sleep t _ => t = token
  | isCancelled t => t = token
  | recordProgress _ _ => True
  | lookup _ => True
  | freshId => True
  | _ => False

namespace Pact

/-- An event tells of no failure but those of the pact. -/
def Owns (k : Pact) (e : Event) : Prop :=
  ∀ text, e.failure? = some text → ∃ error, k.fails error ∧ error.message = text

/-- The pact allows what the steps of a frame ask for and tell, and reckons with their usual
failures, and with cancellations if it is expected that they are told of. -/
structure Suits (k : Pact) (scope : Scope) : Prop where
  asks : ∀ r : Request, r.IsAside scope.token → k.asks r
  tells : ∀ e : Event, e.IsOfStep → k.Owns e → k.asks (.publish e)
  joins : k.joins scope.token
  fails : ∀ e : StepError, e.IsUsual → k.fails e
  cancelled : ∀ (r : Request) (a : r.Answer), r.TellsCancelled a → k.expects r a →
    k.fails .cancelled
  abandoned : k.cancels → k.fails .cancelled

/-- The pact allows attempts at the step, and reckons with its failure if it lacks a condition. -/
structure Allows (k : Pact) (scope : Scope) (step : Step) : Prop where
  attempt : ∀ location env, k.asks (.attempt ⟨step, scope, location, env⟩)
  lacking : step.LacksCondition → k.fails .noCondition

/-- How a frame that honours the pact may end. -/
def Ends (k : Pact) (e : FrameEnd) : Prop := ∀ f, e.failure = some f → k.fails f.error

/-- The frames that the sub-workflows of a scope are run as honour the pact, if it is expected that
their definitions are registered. -/
def Hosts (k : Pact) (scope : Scope) (runner : Option FrameRunner) : Prop :=
  ∀ run ∈ runner, ∀ (id : String) (definition : Definition) (child : Scope) (env : Environment),
    k.expects (.lookup id) (some definition) → child.token = scope.token →
      child.depth = scope.depth + 1 → (run definition child env).Honours k k.Ends

end Pact

section Steps

variable {k : Pact} {config : Config} {scope : Scope} {location : Location}
  (hs : k.Suits scope)

include hs

/-! ### Attempts -/

theorem honours_attemptsFrom {schedule : RetrySchedule} {attempt : Exec Value}
    (h : Honours k attempt) : (remaining done : Nat) →
      Honours k (attemptsFrom scope location schedule attempt remaining done)
  | 0, _ => h
  | remaining + 1, done => by
    refine honours_observe_bind h honours_pure fun e he => ?_
    dsimp only
    split
    · refine honours_bind (honours_publish (hs.tells _ trivial ?_)) fun _ => ?_
      · rintro text ⟨⟩
        exact ⟨e, he, rfl⟩
      refine honours_request_bind (hs.asks _ rfl) fun slept hslept => ?_
      refine honours_bind (honours_orCancelled fun h => hs.cancelled _ slept h hslept) fun _ => ?_
      exact honours_attemptsFrom h remaining (done + 1)
    · exact honours_throw he

theorem honours_attempts {attempt : Exec Value} (h : Honours k attempt)
    (schedule : Option RetrySchedule) :
    Honours k (attempts scope location schedule attempt) := by
  cases schedule with
  | none => exact h
  | some s => exact honours_attemptsFrom hs h s.maxRetries.toNat 0

/-- What follows the attempts at a step honours the pact. -/
theorem honours_conclude (step : Step) {r : Except StepError Value}
    (hr : ∀ e, r = .error e → k.fails e) : Honours k (step.conclude scope location r) := by
  have hclosing : Honours k (publish (step.closing scope location r)) := by
    refine honours_publish (hs.tells _ ?_ ?_)
    · cases r <;> trivial
    · rcases r with e | v
      · rintro text ⟨⟩
        exact ⟨e, hr e rfl, rfl⟩
      · exact fun _ h => nomatch h
  rcases r with e | v
  · have hfails := hr e rfl
    cases e with
    | cancelled => exact honours_throw hfails
    | _ => exact honours_bind hclosing fun _ => honours_throw hfails
  · exact honours_bind (honours_modify _) fun _ => honours_bind hclosing fun _ => honours_pure v

/-- What surrounds the attempts at a step that the pact allows honours it if an attempt does. -/
theorem honours_enter {step : Step} (ha : k.Allows scope step) {dispatch : Exec Value}
    (h : Honours k dispatch) : Honours k (enter config step scope location dispatch) := by
  have hmarked : Honours k (step.marked scope location dispatch) :=
    honours_get_bind fun env => honours_bind (honours_request (ha.attempt location env)) fun _ => h
  rw [enter_eq]
  refine honours_request_bind (hs.asks _ trivial) fun goesOn hgoesOn => ?_
  refine honours_bind (honours_orCancelled fun h => hs.cancelled _ goesOn h hgoesOn) fun _ => ?_
  refine honours_bind (honours_modify _) fun _ => ?_
  refine honours_bind (honours_publish (hs.tells _ trivial fun _ h => nomatch h)) fun _ => ?_
  refine honours_observe_bind (honours_attempts hs hmarked _) (fun v => ?_) fun e he => ?_
  · exact honours_conclude hs step fun _ h => nomatch h
  · exact honours_conclude hs step fun _ h => Except.error.inj h ▸ he

/-! ### Actions, waits, conditions and loops -/

theorem honours_performAction (payload : Value) :
    Honours k (performAction payload scope location) := by
  refine honours_get_bind fun env => honours_request_bind (hs.asks _ trivial) fun r _ => ?_
  cases r with
  | ok v => exact honours_pure v
  | error e => exact honours_throw (hs.fails _ trivial)

theorem honours_waitFor (duration : Value) : Honours k (waitFor duration scope) := by
  refine honours_get_bind fun env => ?_
  dsimp only
  split
  · exact honours_throw (hs.fails _ (StepError.isUsual_misfit (by simp [StepError.misfits]) _))
  · refine honours_request_bind (hs.asks _ rfl) fun slept hslept => ?_
    refine honours_bind (honours_orCancelled fun h => hs.cancelled _ slept h hslept) fun _ => ?_
    exact honours_pure _

theorem honours_holds (c : Condition) : Honours k (holds c) := by
  refine honours_get_bind fun env => ?_
  split
  · exact honours_pure _
  · exact honours_throw (hs.fails _ trivial)

theorem honours_iteration {body : Nat → Exec (List Value)} (h : ∀ i, Honours k (body i))
    (prepare : Environment → Environment) (i : Nat) :
    Honours k (iteration scope prepare body i) := by
  refine honours_request_bind (hs.asks _ rfl) fun stopped hstopped => ?_
  refine honours_bind (honours_orCancelled fun hn => ?_) fun _ => ?_
  · exact hs.cancelled _ stopped (show stopped = true by simpa using hn) hstopped
  · exact honours_bind (honours_modify _) fun _ => honours_bind (h i) fun _ => honours_pure _

theorem honours_forItems {body : Nat → Exec (List Value)} (h : ∀ i, Honours k (body i))
    (key : String) : (items : List Value) → (i : Nat) → (acc : List Value) →
      Honours k (forItems scope key body items i acc)
  | [], _, _ => honours_pure _
  | _ :: rest, i, _ => honours_bind (honours_iteration hs h _ i) fun _ =>
    honours_forItems h key rest (i + 1) _

theorem honours_forTimes {body : Nat → Exec (List Value)} (h : ∀ i, Honours k (body i)) :
    (remaining i : Nat) → (acc : List Value) →
      Honours k (forTimes scope body remaining i acc)
  | 0, _, _ => honours_pure _
  | remaining + 1, i, _ => honours_bind (honours_iteration hs h _ i) fun _ =>
    honours_forTimes h remaining (i + 1) _

theorem honours_whileHolds {body : Nat → Exec (List Value)} (h : ∀ i, Honours k (body i))
    (c : Condition) : (remaining i : Nat) → (acc : List Value) →
      Honours k (whileHolds scope (holds c) body remaining i acc)
  | 0, _, _ => honours_bind (honours_holds hs c) fun _ => honours_pure _
  | remaining + 1, i, _ => by
    refine honours_bind (honours_holds hs c) fun met => ?_
    cases met with
    | true =>
      exact honours_bind (honours_iteration hs h _ i) fun _ =>
        honours_whileHolds h c remaining (i + 1) _
    | false => exact honours_pure _

theorem honours_loopItems (items : Option Value) : Honours k (loopItems items) := by
  have hmisfit (rest : String) :
      k.fails (.invalidParameter ("forEach items must be a list, got " ++ rest)) :=
    hs.fails _ (StepError.isUsual_misfit (by simp [StepError.misfits]) rest)
  refine honours_get_bind fun env => ?_
  split
  · exact honours_pure _
  · exact honours_pure _
  · rename_i text _
    split
    · exact honours_pure _
    · refine honours_throw ?_
      have htext : "forEach items must be a list, got text '" ++ text ++ "'" =
          "forEach items must be a list, got " ++ ("text '" ++ text ++ "'") := by
        rw [← String.append_assoc, ← String.append_assoc]
        rfl
      rw [htext]
      exact hmisfit _
  · exact honours_throw (hmisfit _)

/-- A loop honours a pact that its iterations honour, unless it lacks a condition. -/
theorem honours_loopResults {body : Nat → Exec (List Value)} (h : ∀ i, Honours k (body i))
    {spec : LoopSpec} (hlack : spec.kind = .whileTrue → spec.condition = none →
      k.fails .noCondition) : Honours k (loopResults config spec scope body) := by
  unfold loopResults
  cases hkind : spec.kind with
  | forEach =>
    exact honours_bind (honours_loopItems hs _) fun items =>
      honours_bind (honours_forItems hs h _ _ 0 []) fun _ => honours_pure _
  | whileTrue =>
    dsimp only
    split
    · exact honours_throw (hlack hkind ‹_›)
    · exact honours_whileHolds hs h _ _ 0 []
  | times =>
    refine honours_get_bind fun env => ?_
    dsimp only
    split
    · exact honours_throw (hs.fails _ (StepError.isUsual_misfit (by simp [StepError.misfits]) _))
    · exact honours_bind (honours_forTimes hs h _ 0 []) fun _ => honours_pure _

/-! ### Branches, scripts and sub-workflows -/

theorem honours_runBranches {branches : List (Flow BranchResult)}
    (h : ∀ x ∈ branches, x.Honours k fun _ => True) : Honours k (runBranches scope branches) := by
  have hfork : (Flow.fork scope.token branches.length (fun b => branches.get b) .done).Honours k
      fun ends => ends = none → k.cancels :=
    ⟨hs.joins, fun b => h _ (List.get_mem branches b), fun _ he => he⟩
  refine honours_lift_bind hfork fun ends he => ?_
  cases ends with
  | none => exact honours_throw (hs.abandoned (he rfl))
  | some ends => exact honours_pure _

theorem honours_evaluateScript (source : String) (timeout : Option UInt64) :
    Honours k (evaluateScript config source timeout scope location) := by
  refine honours_get_bind fun env => honours_request_bind (hs.asks _ rfl) fun r _ => ?_
  cases r with
  | ok outcome => exact honours_bind (honours_modify _) fun _ => honours_pure _
  | error e =>
    dsimp only
    split
    · refine honours_request_bind (hs.asks _ rfl) fun stopped hstopped => honours_throw ?_
      cases stopped with
      | true =>
        have htells : (Request.isCancelled scope.token).TellsCancelled true := rfl
        exact hs.cancelled _ _ htells hstopped
      | false => exact hs.fails _ trivial
    · exact honours_throw (e := .scriptFailed e.message) (hs.fails _ trivial)

theorem honours_subWorkflowId (workflowId : Value) : Honours k (subWorkflowId workflowId) := by
  refine honours_get_bind fun env => ?_
  split
  · exact honours_throw (hs.fails _ ⟨_, List.mem_cons_self .., "", rfl⟩)
  · exact honours_pure _

theorem honours_callWorkflow {runner : Option FrameRunner} (hr : k.Hosts scope runner)
    (workflowId : Value) (vars : Bindings Value) :
    Honours k (callWorkflow config runner workflowId vars scope) := by
  refine honours_bind (honours_subWorkflowId hs workflowId) fun id =>
    honours_request_bind (hs.asks _ trivial) fun found hfound => ?_
  cases found with
  | none => exact honours_throw (hs.fails _ trivial)
  | some definition =>
    cases runner with
    | none => exact honours_throw (hs.fails _ trivial)
    | some run =>
      refine honours_get_bind fun parent =>
        honours_request_bind (hs.asks _ trivial) fun runId _ => ?_
      refine honours_lift_bind (hr run rfl id definition _ _ hfound rfl rfl) fun ended he => ?_
      refine honours_bind (honours_modify _) fun _ => ?_
      split
      · exact honours_pure _
      · exact honours_throw (he _ ‹_›)
      · exact honours_throw (hs.fails _ trivial)

end Steps

/-! ### Kinds of step and lists -/

section Kinds

variable {k : Pact} {config : Config} {scope : Scope} {runner : Option FrameRunner}

mutual

/-- A step of any kind honours a pact that allows it and the steps within it. -/
theorem honours_dispatch (hs : k.Suits scope) (hr : k.Hosts scope runner) :
    (location : Location) → (step : Step) → step.Every (k.Allows scope) →
      Honours k (dispatch config runner scope location step)
  | _, .action _ payload, _ => honours_performAction hs payload
  | location, .condition _ test whenTrue whenFalse, ha => by
    refine honours_bind (honours_holds hs test) fun met => ?_
    cases met with
    | true =>
      exact honours_map _ (honours_runItems hs hr (location.child .whenTrue) 0 [] whenTrue ha.2.1)
    | false =>
      exact honours_map _ (honours_runItems hs hr (location.child .whenFalse) 0 [] whenFalse
        ha.2.2)
  | location, .loop _ spec body, ha =>
    honours_bind (honours_loopResults hs
      (fun i => honours_runItems hs hr (location.child (.iteration i)) 0 [] body ha.2)
      fun hkind hcondition => ha.1.lacking ⟨hkind, hcondition⟩) fun _ => honours_pure _
  | _, .wait _ duration, _ => honours_waitFor hs duration
  | location, .parallel _ branches, ha => honours_get_bind fun env =>
    honours_runBranches hs (honours_branchFlows hs hr location 0 env branches ha.2)
  | _, .subWorkflow _ workflowId vars, _ => honours_callWorkflow hs hr workflowId vars
  | _, .script _ source timeout, _ => honours_evaluateScript hs source timeout

/-- A list of steps honours a pact that allows them and the steps within them. -/
theorem honours_runItems (hs : k.Suits scope) (hr : k.Hosts scope runner) :
    (location : Location) → (i : Nat) → (acc : List Value) → (steps : List Step) →
      Step.EveryOf (k.Allows scope) steps →
        Honours k (runItems config runner scope location i acc steps)
  | _, _, _, [], _ => honours_pure _
  | location, i, acc, step :: rest, ha => by
    refine honours_observe_bind (honours_enter hs ha.1.self (honours_dispatch hs hr
      (location.child (.step i)) step ha.1))
      (fun v => honours_runItems hs hr location (i + 1) (v :: acc) rest ha.2) fun e he => ?_
    cases e with
    | cancelled => exact honours_throw he
    | _ =>
      dsimp only
      split
      · exact honours_throw he
      · exact honours_runItems hs hr location (i + 1) _ rest ha.2

/-- Branches honour a pact that allows their steps and the steps within them. -/
theorem honours_branchFlows (hs : k.Suits scope) (hr : k.Hosts scope runner)
    (location : Location) (b : Nat) (env : Environment) : (branches : List (List Step)) →
      Step.EveryOfBranches (k.Allows scope) branches →
        ∀ x ∈ branchFlows config runner scope location b env branches, x.Honours k fun _ => True
  | [], _, _, hx => nomatch hx
  | steps :: rest, ha, x, hx => by
    rcases List.mem_cons.mp hx with rfl | hx
    · refine Flow.Honours.bind (fun p _ => ?_) _
        (honours_runItems hs hr (location.child (.branch b)) 0 [] steps ha.1 (env.forkBranch b))
      trivial
    · exact honours_branchFlows hs hr location (b + 1) env rest ha.2 x hx

end

/-- A step with all that surrounds it honours a pact that allows it and the steps within it. -/
theorem honours_runStep (hs : k.Suits scope) (hr : k.Hosts scope runner) {location : Location}
    {step : Step} (ha : step.Every (k.Allows scope)) :
    Honours k (runStep config runner step scope location) :=
  honours_enter hs ha.self (honours_dispatch hs hr location step ha)

end Kinds

end Workflow

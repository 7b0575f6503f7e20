import Mathlib.Data.Bool.Basic
import Mathlib.Tactic.Tauto
import Workflow.Proofs.Protocol.Footprint
import Workflow.Proofs.Protocol.Frame

/-!
# Which attempts see the identity of their run

Before a step is attempted for the first time, the identity of its run is written into its
variables, so the first attempt at every step sees it, whatever was written before. Nothing writes
it again until the next step is entered: what is tried again sees what the attempt before has left,
and after its last step a frame keeps what that step has left.

Most steps leave nothing but their results: whatever the steps within them write is stamped over
when the next of them is entered. A step leaves a key of the identity overwritten, or forged, only
through its output variable, a script, the item of a loop without steps, or the last of the steps
within it; and a failed attempt does so only if it is a loop that fails where it is tested, after an
iteration that has left the key forged, or if it fails with such a loop within it.

## Main definitions

* `Workflow.Identity.value?` — the value of a key of the identity.
* `Workflow.Forgery`, `Workflow.Step.forgery` — how a step may end with a key forged.
* `Workflow.Attempt.Bears`, `Workflow.Protocol.identity` — attempts that see the identity.
* `Workflow.FrameEnd.forged` — a frame may have ended with a key forged.

## Main results

* `Workflow.leaves_runStep` — from what a step may find forged to what it may leave forged.
* `Workflow.tracks_identity_frame` — a frame makes such attempts only, and leaves such variables.
-/

namespace Workflow

open Exec

/-! ### The identity of a run in its variables -/

namespace Identity

/-- The keys of the identity with their values. -/
def bindings (identity : Identity) : Bindings Value :=
  [(Key.target, identity.target.getD .null), (Key.workflow, .text identity.workflowId),
    (Key.execution, .text identity.executionId.text)]

/-- The value of a key of the identity. -/
def value? (identity : Identity) (key : String) : Option Value := identity.bindings.get? key

/-- The variables have the value that the identity gives a key, unless the key may be forged. -/
def Held (identity : Identity) (key : String) (forged : Bool) (env : Environment) : Prop :=
  forged = false → env.get? key = identity.value? key

variable {identity : Identity} {key : String} {forged forged' : Bool} {env : Environment}

theorem Held.mono (h : identity.Held key forged env) (hf : forged = true → forged' = true) :
    identity.Held key forged' env := by
  intro hnot
  refine h (Bool.eq_false_iff.mpr fun hforged => ?_)
  rw [hf hforged] at hnot
  cases hnot

theorem held_true : identity.Held key true env := by
  rintro ⟨⟩

theorem Held.set (h : identity.Held key forged env) {other : String} (v : Value)
    (hother : other = key → forged = true) : identity.Held key forged (env.set other v) := by
  intro hnot
  have hne : key ≠ other := by
    rintro rfl
    rw [hother rfl] at hnot
    cases hnot
  exact (Bindings.get?_set_of_ne env.vars v hne).trans (h hnot)

/-- A key that is not part of the identity forges none of it. -/
theorem Held.set_other (h : identity.Held key forged env) {other : String} (v : Value)
    (hkey : key ∈ Key.identity) (hother : other ∉ Key.identity) :
    identity.Held key forged (env.set other v) :=
  h.set v fun hsame => absurd (hsame ▸ hkey) hother

/-- Stamping writes the identity over whatever the variables held. -/
theorem held_stamp (hkey : key ∈ Key.identity) (env : Environment) :
    identity.Held key false (env.stamp identity) := by
  intro
  simp only [Key.identity, List.mem_cons, List.not_mem_nil, or_false] at hkey
  have htarget : Key.target ≠ Key.workflow ∧ Key.target ≠ Key.execution := by decide
  have hworkflow : Key.workflow ≠ Key.execution := by decide
  unfold Environment.stamp Environment.set Environment.get? value? bindings
  rcases hkey with rfl | rfl | rfl
  · rw [Bindings.get?_set_of_ne _ _ htarget.2, Bindings.get?_set_of_ne _ _ htarget.1,
      Bindings.get?_set_self]
    rfl
  · rw [Bindings.get?_set_of_ne _ _ hworkflow, Bindings.get?_set_self]
    rfl
  · rw [Bindings.get?_set_self]
    rfl

end Identity

/-! ### What a step may leave forged -/

/-- How a step may end with a key forged: with a value, with a failure that another attempt may
follow, or cancelled. -/
structure Forgery where
  value : Bool
  failure : Bool
  cancellation : Bool

namespace Forgery

/-- What one forgery may leave forged, the other may. -/
structure Within (f f' : Forgery) : Prop where
  value : f.value = true → f'.value = true
  failure : f.failure = true → f'.failure = true
  cancellation : f.cancellation = true → f'.cancellation = true

theorem Within.trans {f f' f'' : Forgery} (h : f.Within f') (h' : f'.Within f'') : f.Within f'' :=
  ⟨h'.value ∘ h.value, h'.failure ∘ h.failure, h'.cancellation ∘ h.cancellation⟩

/-- The key cannot be forged. -/
def none : Forgery := ⟨false, false, false⟩

/-- One of two may have forged the key. -/
def or (f f' : Forgery) : Forgery :=
  ⟨f.value || f'.value, f.failure || f'.failure, f.cancellation || f'.cancellation⟩

theorem Within.or_left (f f' : Forgery) : f.Within (f.or f') := by
  constructor <;> exact Bool.or_inl

theorem Within.or_right (f f' : Forgery) : f'.Within (f.or f') := by
  constructor <;> exact Bool.or_inr

/-- What is tried again starts from what a failure has left, and a value that is stored may forge
the key at last. -/
def attempted (f : Forgery) (stored : Bool) : Forgery :=
  ⟨f.value || f.failure || stored, f.failure, f.cancellation || f.failure⟩

/-- What starts from what a failure has left may leave no more than what is tried again. -/
theorem Within.attempted {f f' : Forgery} (h : f.Within f') {more : Bool}
    (hmore : more = true → f'.failure = true) :
    (⟨f.value || more, f.failure, f.cancellation || more⟩ : Forgery).Within
      (f'.attempted false) := by
  obtain ⟨hv, hf, hc⟩ := h
  refine ⟨fun hvalue => ?_, hf, fun hcancellation => ?_⟩
  · simp only [Bool.or_eq_true] at hvalue
    simp only [Forgery.attempted, Bool.or_eq_true]
    exact .inl (hvalue.imp hv hmore)
  · simp only [Bool.or_eq_true] at hcancellation
    simp only [Forgery.attempted, Bool.or_eq_true]
    exact hcancellation.imp hc hmore

end Forgery

namespace Step

/-- The value of the step is stored under the key. -/
def stores (step : Step) (key : String) : Bool := step.info.outputVariable == some key

mutual

/-- How a single attempt at a step may leave a key forged. -/
def attemptForgery (key : String) : Step → Forgery
  | condition _ _ whenTrue whenFalse =>
    (forgeryOf key false whenTrue).or (forgeryOf key false whenFalse)
  | loop _ spec body =>
    let f := forgeryOf key (spec.itemKeys.contains key) body
    ⟨f.value, f.failure || (spec.kind == .whileTrue && f.value), f.cancellation || f.value⟩
  | script _ _ _ => ⟨true, false, false⟩
  | _ => .none

/-- How the steps of a list may leave a key forged, which may have been forged before. -/
def forgeryOf (key : String) (before : Bool) : List Step → Forgery
  | [] => ⟨before, false, false⟩
  | step :: rest =>
    let f := (step.attemptForgery key).attempted (step.stores key)
    let r := forgeryOf key f.value rest
    ⟨r.value, f.failure || r.failure, before || f.cancellation || r.cancellation⟩

end

/-- How a step may leave a key forged. -/
def forgery (step : Step) (key : String) : Forgery :=
  (step.attemptForgery key).attempted (step.stores key)

/-- A step that may fail with the key forged may also be tried again from there, or be cancelled
before that. -/
theorem forgery_of_failure {step : Step} {key : String} (h : (step.forgery key).failure = true) :
    (step.forgery key).value = true ∧ (step.forgery key).cancellation = true := by
  have hf : (step.attemptForgery key).failure = true := h
  rw [forgery, Forgery.attempted, hf, Bool.or_true, Bool.or_true, Bool.true_or]
  exact ⟨rfl, rfl⟩

theorem value_forgery_of_attempt {step : Step} {key : String}
    (h : ((step.attemptForgery key).attempted false).value = true) :
    (step.forgery key).value = true :=
  Bool.or_inl ((Bool.or_false _).symm.trans h)

theorem value_forgery_of_stores {step : Step} {key : String} (h : step.stores key = true) :
    (step.forgery key).value = true := by
  rw [forgery, Forgery.attempted, h, Bool.or_true]

theorem forgeryOf_cons (key : String) (before : Bool) (step : Step) (rest : List Step) :
    forgeryOf key before (step :: rest) =
      let r := forgeryOf key (step.forgery key).value rest
      ⟨r.value, (step.forgery key).failure || r.failure,
        before || (step.forgery key).cancellation || r.cancellation⟩ := rfl

/-- Only the last step of a list matters to what the list leaves forged if none has stopped it. -/
theorem value_forgeryOf_concat (key : String) (step : Step) : (before : Bool) →
    (steps : List Step) → (forgeryOf key before (steps ++ [step])).value = (step.forgery key).value
  | _, [] => rfl
  | _, _ :: rest => value_forgeryOf_concat key step _ rest

example : (forgeryOf Key.workflow false
    [(Step.ofAction .null).output Key.workflow, .ofAction .null]).value = false := rfl

/-- What was forged before a list of steps matters when it has no step to enter, or the first one is
not entered. -/
theorem within_forgeryOf_or (key : String) (before more : Bool) (steps : List Step) :
    let f := forgeryOf key before steps
    (forgeryOf key (before || more) steps).Within
      ⟨f.value || more, f.failure, f.cancellation || more⟩ := by
  cases steps with
  | nil => exact ⟨id, id, nofun⟩
  | cons step rest =>
    simp only [forgeryOf_cons]
    refine ⟨fun h => ?_, id, ?_⟩
    · rw [h, Bool.true_or]
    · cases before <;> cases more <;> simp

/-- A loop may leave forged what one of its iterations has, and, as its iterations start from there,
more if it is tested. -/
theorem within_loop (key : String) (info : StepInfo) (spec : LoopSpec) (body : List Step) :
    let step := loop info spec body
    let f := forgeryOf key (spec.itemKeys.contains key) body
    let again := f.value || (step.forgery key).failure
    (⟨f.value || again, f.failure, f.cancellation || again⟩ : Forgery).Within
        ((step.attemptForgery key).attempted false) ∧
      (spec.kind = .whileTrue → again = true → (step.forgery key).failure = true) := by
  intro step f again
  have hattempt : step.attemptForgery key =
      ⟨f.value, f.failure || (spec.kind == .whileTrue && f.value), f.cancellation || f.value⟩ := rfl
  have hfailure : (step.forgery key).failure = (step.attemptForgery key).failure := rfl
  simp only [again, hfailure, hattempt, Forgery.attempted]
  refine ⟨⟨fun h => ?_, fun h => ?_, fun h => ?_⟩, fun hkind h => ?_⟩
  · simp only [Bool.or_eq_true, Bool.false_eq_true] at h ⊢
    tauto
  · simp only [Bool.or_eq_true] at h ⊢
    tauto
  · simp only [Bool.or_eq_true] at h ⊢
    tauto
  · simp only [hkind, beq_self_eq_true, Bool.true_and, Bool.or_eq_true] at h ⊢
    tauto

end Step

/-! ### Attempts that see the identity -/

/-- The scope is that of a frame of a run: the frame of the run itself has its identity, the frames
of sub-workflows share its target. -/
def Scope.IsOf (scope : Scope) (run : Identity) : Prop :=
  scope.identity.target = run.target ∧ (scope.depth = 0 → scope.identity = run)

namespace Attempt

/-- The attempt follows what tells that its step starts. -/
def IsFirst (a : Attempt) (last : Option Request) : Prop :=
  last = some (.publish (.stepStarted a.scope.identity.executionId a.location.forEvents a.step.label
    a.step.kindName))

/-- The attempt follows a delay. -/
def IsRetry (a : Attempt) (last : Option Request) : Prop :=
  ∃ ms, last = some (.sleep a.scope.token ms)

/-- A first attempt sees what the identity says of a key, and so does a later one unless the attempt
before may have left the key forged. -/
def Bears (a : Attempt) (last : Option Request) (key : String) : Prop :=
  a.IsFirst last ∧ a.scope.identity.Held key false a.env ∨
    a.IsRetry last ∧ a.scope.identity.Held key (a.step.forgery key).failure a.env

end Attempt

/-- The attempts that a run makes see what their identity says of a key, by what was asked for last
on their line. -/
def Protocol.identity (run : Identity) (key : String) : Protocol (Option Request) where
  start := none
  asks
    | last, .attempt a => a.scope.IsOf run ∧ a.Bears last key
    | _, _ => True
  after _ r _ := some r

/-! ### What steps leave forged -/

/-- What a failed or cancelled step leaves of a key. -/
def Identity.Left (identity : Identity) (key : String) (failure cancellation : Bool) :
    StepError → Environment → Prop
  | .cancelled => identity.Held key cancellation
  | _ => identity.Held key failure

section Steps

variable {run identity : Identity} {key : String} {config : Config} {runner : Option FrameRunner}
  {scope : Scope} {location : Location}

theorem Identity.Left.mono {failure failure' cancellation cancellation' : Bool} {e : StepError}
    {env : Environment} (h : identity.Left key failure cancellation e env)
    (hf : failure = true → failure' = true) (hc : cancellation = true → cancellation' = true) :
    identity.Left key failure' cancellation' e env := by
  cases e with
  | cancelled => exact Identity.Held.mono h hc
  | _ => exact Identity.Held.mono h hf

theorem Identity.left_of_held {forged failure cancellation : Bool} {env : Environment}
    (h : identity.Held key forged env) (hf : forged = true → failure = true)
    (hc : forged = true → cancellation = true) (e : StepError) :
    identity.Left key failure cancellation e env := by
  cases e with
  | cancelled => exact h.mono hc
  | _ => exact h.mono hf

theorem lenient_identity : (Protocol.identity run key).Lenient := by
  intro last r hr
  cases r with
  | attempt a => exact hr.elim
  | _ => trivial

/-- From variables in which a key may be forged, a flow leaves it as a forgery says. -/
def Exec.Leaves {α : Type} (run : Identity) (scope : Scope) (key : String) (before : Bool)
    (f : Forgery) (x : Exec α) : Prop :=
  Meets (.identity run key) (scope.identity.Held key before)
    (fun _ => scope.identity.Held key f.value) (scope.identity.Left key f.failure f.cancellation) x

section

variable {α : Type} {before before' : Bool} {f f' : Forgery} {x : Exec α}

theorem Exec.Leaves.mono (h : x.Leaves run scope key before f)
    (hb : before' = true → before = true) (hf : f.Within f') :
    x.Leaves run scope key before' f' :=
  Meets.mono h (fun _ he => he.mono hb) (fun _ _ he => he.mono hf.value)
    fun _ _ he => he.mono hf.failure hf.cancellation

theorem leaves_of_upholds (h : Upholds (.identity run key) (scope.identity.Held key before) x)
    (hv : before = true → f.value = true) (hf : before = true → f.failure = true)
    (hc : before = true → f.cancellation = true) : x.Leaves run scope key before f :=
  h.mono (fun _ he => he) (fun _ _ he => he.mono hv)
    fun e _ he => Identity.left_of_held he hf hc e

end

/-- An attempt that leaves a key as it is leaves none forged. -/
theorem leaves_of_attemptForgery {step : Step} {dispatch : Exec Value}
    (hstep : step.attemptForgery key = .none)
    (h : Upholds (.identity run key) (scope.identity.Held key false) dispatch) :
    dispatch.Leaves run scope key (step.forgery key).failure
      ((step.attemptForgery key).attempted false) := by
  have hfailure : (step.forgery key).failure = false := by
    rw [Step.forgery, hstep]
    rfl
  rw [hfailure, hstep]
  exact leaves_of_upholds h nofun nofun nofun

/-- Before each iteration of a loop a key may be forged as the iteration before has left it, or as a
failed attempt has. -/
theorem loopRule_identity (hkey : key ∈ Key.identity) (info : StepInfo) (spec : LoopSpec)
    (body : List Step) :
    let step := Step.loop info spec body
    let item := spec.itemKeys.contains key
    let again := (Step.forgeryOf key item body).value || (step.forgery key).failure
    LoopRule spec (scope.identity.Held key (step.forgery key).failure)
      (scope.identity.Held key again) (scope.identity.Held key (item || again))
      (scope.identity.Left key (step.forgery key).failure (step.forgery key).cancellation) := by
  intro step item again
  obtain ⟨hwithin, htested⟩ := Step.within_loop key info spec body
  have hcancelled : again = true → (step.forgery key).cancellation = true :=
    fun h => hwithin.cancellation (Bool.or_inr h)
  exact {
    starts := fun _ he => he.mono Bool.or_inr
    refused := fun e _ he => Identity.left_of_held he id (fun h => (Step.forgery_of_failure h).2) e
    tested := fun hkind e _ he => Identity.left_of_held he (htested hkind) hcancelled e
    cancelled := fun _ he => he.mono hcancelled
    repeats := fun _ he => he.mono Bool.or_inr
    item := fun hkind v _ he => (he.mono Bool.or_inr).set v
      fun hother => by simp [item, LoopSpec.itemKeys, hkind, hother]
    index := fun v _ he => he.set_other v hkey (by decide) }

/-- A step leaves what its attempts leave, its value, and what was there before if it is not
entered. -/
theorem leaves_enter (hkey : key ∈ Key.identity) (hscope : scope.IsOf run) {step : Step}
    {dispatch : Exec Value} (before : Bool)
    (h : dispatch.Leaves run scope key (step.forgery key).failure
      ((step.attemptForgery key).attempted false)) :
    (enter config step scope location dispatch).Leaves run scope key before
      { step.forgery key with cancellation := before || (step.forgery key).cancellation } := by
  let may (env : Environment) (last : Option Request) : Prop :=
    Attempt.Bears ⟨step, scope, location, env⟩ last key
  refine meets_enter (D := scope.identity.Held key (step.forgery key).failure) lenient_identity may
    ?_ ?_ ?_ (Meets.mono h (fun _ he => he) (fun _ _ he => he) ?_) ?_ ?_
  · exact fun env he => he.mono fun hb => by simp [hb]
  · exact fun env last _ => .inl ⟨rfl, Identity.held_stamp hkey env⟩
  · rintro env last hmay
    refine ⟨⟨hscope, hmay⟩, ?_⟩
    rcases hmay with ⟨-, he⟩ | ⟨-, he⟩
    · exact he.mono nofun
    · exact he
  · exact fun e env he => he.mono id Bool.or_inr
  · intro e env he hretry
    cases e with
    | cancelled => exact nomatch hretry
    | _ =>
      have hfailure : scope.identity.Held key (step.forgery key).failure env := he
      refine ⟨hfailure.mono fun hf => ?_, fun last ms => .inr ⟨⟨ms, rfl⟩, hfailure⟩⟩
      rw [(Step.forgery_of_failure hf).2, Bool.or_true]
  · intro v env he
    have hvalue : scope.identity.Held key (step.forgery key).value env :=
      he.mono Step.value_forgery_of_attempt
    unfold StepInfo.store
    split
    · next hout =>
      refine hvalue.set v fun hother => Step.value_forgery_of_stores ?_
      rw [Step.stores, hout, hother]
      exact beq_self_eq_true _
    · exact hvalue

mutual

/-- What the attempts of every kind of step leave. -/
theorem leaves_dispatch (hkey : key ∈ Key.identity) (hscope : scope.IsOf run)
    (hr : (Protocol.identity run key).Hosts scope runner) : (location : Location) → (step : Step) →
      (dispatch config runner scope location step).Leaves run scope key
        (step.forgery key).failure ((step.attemptForgery key).attempted false)
  | _, .action _ payload =>
    leaves_of_attemptForgery rfl (upholds_performAction lenient_identity payload)
  | location, .condition info test whenTrue whenFalse => by
    let step := Step.condition info test whenTrue whenFalse
    let failed := (step.forgery key).failure
    -- the lists start from what a failed attempt may have left
    have hlist {steps : List Step} {x : Exec (List Value)} (hw : (Step.forgeryOf key false
        steps).Within (step.attemptForgery key)) (h : x.Leaves run scope key (false || failed)
          (Step.forgeryOf key (false || failed) steps)) :
        x.Leaves run scope key failed ((step.attemptForgery key).attempted false) :=
      h.mono id ((Step.within_forgeryOf_or key false failed steps).trans (hw.attempted id))
    have htest : (holds test).Leaves run scope key failed
        ⟨failed, failed, ((step.attemptForgery key).attempted false).cancellation⟩ :=
      leaves_of_upholds (upholds_holds test) id id fun h => (Step.forgery_of_failure h).2
    refine meets_bind htest fun met => ?_
    cases met with
    | true => exact meets_bind (hlist (.or_left _ _) (leaves_runItems hkey hscope hr
        (location.child .whenTrue) 0 [] _ whenTrue)) fun _ => meets_pure fun _ he => he
    | false => exact meets_bind (hlist (.or_right _ _) (leaves_runItems hkey hscope hr
        (location.child .whenFalse) 0 [] _ whenFalse)) fun _ => meets_pure fun _ he => he
  | location, .loop info spec body => by
    let f := Step.forgeryOf key (spec.itemKeys.contains key) body
    let again := f.value || (Step.loop info spec body |>.forgery key).failure
    have hbody (i : Nat) : (runItems config runner scope (location.child (.iteration i)) 0 []
        body).Leaves run scope key (spec.itemKeys.contains key || again)
        ⟨f.value || again, f.failure, f.cancellation || again⟩ :=
      (leaves_runItems hkey hscope hr (location.child (.iteration i)) 0 [] _ body).mono id
        (Step.within_forgeryOf_or key (spec.itemKeys.contains key) again body)
    obtain ⟨hwithin, -⟩ := Step.within_loop key info spec body
    refine meets_bind (meets_loopResults lenient_identity (loopRule_identity hkey info spec body)
      fun i => Meets.mono (hbody i) (fun _ he => he) (fun _ _ he => he.mono fun h => ?_)
        fun _ _ he => he.mono hwithin.failure hwithin.cancellation)
      fun _ => meets_pure fun _ he => he.mono fun h => ?_
    · exact (Bool.or_self_left _ _).symm.trans h
    · exact hwithin.value (Bool.or_inr h)
  | _, .wait _ duration => leaves_of_attemptForgery rfl (upholds_waitFor lenient_identity duration)
  | location, .parallel _ branches => leaves_of_attemptForgery rfl <| meets_get_bind fun env =>
    upholds_runBranches (minds_branches hkey hscope hr location 0 env branches)
  | _, .subWorkflow _ workflowId vars => by
    have hsummary (v : Value) (env : Environment) (he : scope.identity.Held key false env) :
        scope.identity.Held key false (env.set Key.subWorkflowResult v) :=
      he.set_other v hkey (by decide)
    exact leaves_of_attemptForgery rfl
      (upholds_callWorkflow lenient_identity hr hsummary workflowId vars)
  | _, .script _ source timeout =>
    Meets.mono (meets_evaluateScript lenient_identity
      (Q := fun _ => scope.identity.Held key true) (fun _ _ _ _ => Identity.held_true) source
      timeout) (fun _ he => he) (fun _ _ he => he) fun e _ he => Identity.left_of_held he id nofun e

/-- What a list of steps leaves. -/
theorem leaves_runItems (hkey : key ∈ Key.identity) (hscope : scope.IsOf run)
    (hr : (Protocol.identity run key).Hosts scope runner) : (location : Location) → (i : Nat) →
      (acc : List Value) → (before : Bool) → (steps : List Step) →
        (runItems config runner scope location i acc steps).Leaves run scope key before
          (Step.forgeryOf key before steps)
  | _, _, _, _, [] => meets_pure fun _ he => he
  | location, i, acc, before, step :: rest => by
    have hstep : (runStep config runner step scope (location.child (.step i))).Leaves run scope key
        before
        { step.forgery key with cancellation := before || (step.forgery key).cancellation } :=
      leaves_enter hkey hscope before
        (leaves_dispatch hkey hscope hr (location.child (.step i)) step)
    have hrest (acc : List Value) : (runItems config runner scope location (i + 1) acc rest).Leaves
        run scope key (step.forgery key).value (Step.forgeryOf key before (step :: rest)) :=
      (leaves_runItems hkey hscope hr location (i + 1) acc (step.forgery key).value rest).mono id
        ⟨id, Bool.or_inr, Bool.or_inr⟩
    have hstop (e : StepError) (env : Environment) (he : scope.identity.Left key
        (step.forgery key).failure (before || (step.forgery key).cancellation) e env) :
        scope.identity.Left key (Step.forgeryOf key before (step :: rest)).failure
          (Step.forgeryOf key before (step :: rest)).cancellation e env :=
      he.mono Bool.or_inl Bool.or_inl
    refine meets_observe_bind hstep (fun v => hrest _) fun e => ?_
    cases e with
    | cancelled => exact meets_throw (hstop _)
    | _ =>
      dsimp only
      split
      · exact meets_throw (hstop _)
      · exact Meets.mono (hrest _) (fun _ he => Identity.Held.mono he fun h =>
          (Step.forgery_of_failure h).1) (fun _ _ he => he) fun _ _ he => he

/-- Branches make only attempts that see the identity. -/
theorem minds_branches (hkey : key ∈ Key.identity) (hscope : scope.IsOf run)
    (hr : (Protocol.identity run key).Hosts scope runner) (location : Location) (b : Nat)
    (env : Environment) : (branches : List (List Step)) →
      ∀ x ∈ branchFlows config runner scope location b env branches, x.Minds (.identity run key)
  | [], _, hx => nomatch hx
  | steps :: rest, x, hx => by
    rcases List.mem_cons.mp hx with rfl | hx
    · intro last
      refine Flow.Tracks.bind (fun _ _ _ => ?_) _ (leaves_runItems hkey hscope hr
        (location.child (.branch b)) 0 [] true steps (env.forkBranch b) last Identity.held_true)
      exact trivial
    · exact minds_branches hkey hscope hr location (b + 1) env rest x hx

end

/-- A step leaves what its attempts leave. -/
theorem leaves_runStep (hkey : key ∈ Key.identity) (hscope : scope.IsOf run)
    (hr : (Protocol.identity run key).Hosts scope runner) (location : Location) (before : Bool)
    (step : Step) : (runStep config runner step scope location).Leaves run scope key before
      { step.forgery key with cancellation := before || (step.forgery key).cancellation } :=
  leaves_enter hkey hscope before (leaves_dispatch hkey hscope hr location step)

end Steps

/-! ### What frames leave forged -/

/-- A frame that was stopped may have left a key forged: a failed step may have, and if a step was
cancelled, the one before it may have too. -/
def FrameFailure.forged (key : String) (steps : List Step) : FrameFailure → Bool
  | ⟨index, .cancelled⟩ => (Step.forgeryOf key false (steps.take index)).value ||
      steps[index]?.any fun step => (step.forgery key).cancellation
  | ⟨index, _⟩ => steps[index]?.any fun step => (step.forgery key).failure

/-- A frame may have ended with a key forged: its last step may have left it so, or the step that it
was stopped at. -/
def FrameEnd.forged (key : String) (steps : List Step) (ended : FrameEnd) : Bool :=
  match ended.failure with
  | none => (Step.forgeryOf key false steps).value
  | some failure => failure.forged key steps

section Frames

variable {run : Identity} {key : String} {config : Config} {scope : Scope}

/-- The frames of sub-workflows make only attempts that see the identity of their run. -/
theorem hosts_identity (hkey : key ∈ Key.identity) (hscope : scope.IsOf run) (depths : Nat) :
    (Protocol.identity run key).Hosts scope (runnerWithin config depths) := by
  refine hosts_within (S := fun scope => scope.IsOf run) (fun scope definition id h => ⟨h.1, nofun⟩)
    (fun runner scope location step h hr => ?_) depths scope hscope
  exact Meets.mono (leaves_runStep hkey h hr location true step) (fun _ _ => Identity.held_true)
    (fun _ _ _ => trivial) fun _ _ _ => trivial

/-- A frame whose variables hold the identity of its run makes only attempts that see it, and leaves
it in its variables except where it may be forged. -/
theorem tracks_identity_frame (hkey : key ∈ Key.identity) (hscope : scope.IsOf run) (depths : Nat)
    (definition : Definition) {env : Environment} (henv : scope.identity.Held key false env)
    (g : Option Request) :
    (frameWithin config depths definition scope env).Tracks (.identity run key)
      (fun ended _ => scope.identity.Held key (ended.forged key definition.steps) ended.env) g := by
  let before (through : List Step) (env : Environment) : Prop :=
    scope.identity.Held key (Step.forgeryOf key false through).value env
  let stopped (failure : FrameFailure) (env : Environment) : Prop :=
    scope.identity.Held key (failure.forged key definition.steps) env
  have hleads (through : List Step) (step : Step) (rest : List Step)
      (hsteps : definition.steps = through ++ step :: rest) : scope.Leads (.identity run key) config
        (runnerWithin config depths) before stopped through step := by
    have htake : definition.steps.take through.length = through := by
      rw [hsteps, List.take_left]
    have hget : definition.steps[through.length]? = some step := by
      rw [hsteps, List.getElem?_append_right (Nat.le_refl _), Nat.sub_self]
      rfl
    have hnext := Step.value_forgeryOf_concat key step false through
    refine Meets.mono (leaves_runStep hkey hscope (hosts_identity hkey hscope depths)
      (.top through.length) (Step.forgeryOf key false through).value step) (fun _ h => h)
      (fun _ env h => ?_) fun e env h => ?_
    · exact Identity.Held.mono h fun hf => hnext.trans hf
    · refine ⟨?_, fun _ hne => ?_⟩
      · cases e <;> simp only [stopped, FrameFailure.forged, htake, hget, Option.any_some] <;>
          exact h
      · cases e with
        | cancelled => exact absurd rfl hne
        | _ => exact Identity.Held.mono h fun hf => hnext.trans (Step.forgery_of_failure hf).1
  rw [frameWithin_eq]
  refine Flow.Tracks.mono (fun ended _ h => ?_) _ (tracks_runFrame (G := fun _ => True)
    (fun _ _ _ _ => trivial) (fun _ _ _ _ _ => trivial)
    hleads henv trivial)
  unfold FrameEnd.forged
  split
  · next hnone => exact h.1 hnone
  · next hsome => exact h.2 _ hsome

end Frames

end Workflow

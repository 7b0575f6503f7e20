import Workflow.Proofs.Protocol.Step
import Workflow.Proofs.Strand.Contract

/-!
# What a step may write

A step writes few keys: the identity of its run, its output variable, and what the steps within it
write; a loop writes the number of the iteration and the current item, a sub-workflow its summary.
Branches work on copies, and a sub-workflow on variables of its own, so nothing that is done there
is seen by the variables of the step. Only a script may write more.

However a step ends, and whatever it is answered, all other keys are bound as before, no key is
removed, and the keys keep their order.

## Main definitions

* `Workflow.Step.writes`, `Workflow.Step.footprint` — the keys that a step may write.
* `Workflow.Step.isScripted` — scripts in a step, outside of branches.
* `Workflow.Step.Spares` — conditions on variables that the writes of a step leave as they are.
* `Workflow.Environment.Extends` — variables that have changed under some keys only.

## Main results

* `Workflow.upholds_runStep` — a step leaves a condition as it is that its writes leave as it is.
* `Workflow.extends_runStep` — a step without scripts writes its footprint only.
-/

namespace Workflow

open Exec

/-! ### Keys that are written -/

namespace Key

/-- The keys that hold the identity of a run. -/
def identity : List String := [target, workflow, execution]

end Key

/-- The variable that takes the current item, if the loop goes over items. -/
def LoopSpec.itemKeys (spec : LoopSpec) : List String :=
  match spec.kind with
  | .forEach => [spec.itemVariable.getD defaultItemVariable]
  | _ => []

namespace Step

mutual

/-- The keys that a step, and the steps within it, may write beside the identity of the run and what
scripts write. -/
def writes : Step → List String
  | action info _ => info.outputVariable.toList
  | condition info _ whenTrue whenFalse =>
    info.outputVariable.toList ++ (writesOf whenTrue ++ writesOf whenFalse)
  | loop info spec body =>
    info.outputVariable.toList ++ Key.loopIndex :: (spec.itemKeys ++ writesOf body)
  | wait info _ => info.outputVariable.toList
  | parallel info _ => info.outputVariable.toList
  | subWorkflow info _ _ => info.outputVariable.toList ++ [Key.subWorkflowResult]
  | script info _ _ => info.outputVariable.toList

/-- The keys that the steps of a list may write. -/
def writesOf : List Step → List String
  | [] => []
  | step :: rest => step.writes ++ writesOf rest

end

mutual

/-- The step is or has a script, outside of branches. -/
def isScripted : Step → Bool
  | condition _ _ whenTrue whenFalse => anyScripted whenTrue || anyScripted whenFalse
  | loop _ _ body => anyScripted body
  | script _ _ _ => true
  | _ => false

/-- A step of the list is or has a script, outside of branches. -/
def anyScripted : List Step → Bool
  | [] => false
  | step :: rest => step.isScripted || anyScripted rest

end

/-- The keys that a step may write. -/
def footprint (step : Step) : List String := Key.identity ++ step.writes

theorem mem_writesOf {key : String} {step : Step} (hkey : key ∈ step.writes) :
    {steps : List Step} → step ∈ steps → key ∈ writesOf steps
  | first :: rest, h => by
    rw [writesOf, List.mem_append]
    rcases List.mem_cons.mp h with rfl | h
    · exact .inl hkey
    · exact .inr (mem_writesOf hkey h)

theorem anyScripted_of_mem {step : Step} (hs : step.isScripted = true) :
    {steps : List Step} → step ∈ steps → anyScripted steps = true
  | first :: rest, h => by
    rw [anyScripted, Bool.or_eq_true]
    rcases List.mem_cons.mp h with rfl | h
    · exact .inl hs
    · exact .inr (anyScripted_of_mem hs h)

theorem mem_writes_of_outputVariable {step : Step} {key : String}
    (h : step.info.outputVariable = some key) : key ∈ step.writes := by
  cases step <;> simp_all [writes, info]

/-! ### Conditions that are left as they are -/

/-- What the step writes leaves a condition on variables as it is. -/
structure Spares (step : Step) (I : Environment → Prop) : Prop where
  keys : ∀ key ∈ step.writes, ∀ v env, I env → I (env.set key v)
  scripts : step.isScripted = true → ∀ vars env, I env → I (env.replaceUserVariables vars)

namespace Spares

variable {I : Environment → Prop} {info : StepInfo}

theorem always (step : Step) : step.Spares fun _ => True :=
  ⟨fun _ _ _ _ _ => trivial, fun _ _ _ _ => trivial⟩

/-- The lists that a condition chooses from spare what the condition spares. -/
theorem condition {test : Condition} {whenTrue whenFalse : List Step}
    (h : (Step.condition info test whenTrue whenFalse).Spares I) :
    (∀ step ∈ whenTrue, step.Spares I) ∧ ∀ step ∈ whenFalse, step.Spares I := by
  refine ⟨fun step hstep => ⟨fun key hkey => h.keys key ?_, fun hs => h.scripts ?_⟩,
    fun step hstep => ⟨fun key hkey => h.keys key ?_, fun hs => h.scripts ?_⟩⟩
  · simp [writes, mem_writesOf hkey hstep]
  · simp [isScripted, anyScripted_of_mem hs hstep]
  · simp [writes, mem_writesOf hkey hstep]
  · simp [isScripted, anyScripted_of_mem hs hstep]

/-- The steps that a loop repeats spare what the loop spares. -/
theorem loop {spec : LoopSpec} {body : List Step} (h : (Step.loop info spec body).Spares I) :
    ∀ step ∈ body, step.Spares I := by
  refine fun step hstep => ⟨fun key hkey => h.keys key ?_, fun hs => h.scripts ?_⟩
  · simp [writes, mem_writesOf hkey hstep]
  · simp [isScripted, anyScripted_of_mem hs hstep]

theorem loopIndex {spec : LoopSpec} {body : List Step} (h : (Step.loop info spec body).Spares I) :
    ∀ v env, I env → I (env.set Key.loopIndex v) := h.keys _ (by simp [writes])

theorem item {spec : LoopSpec} {body : List Step} (h : (Step.loop info spec body).Spares I)
    (hkind : spec.kind = .forEach) (v : Value) (env : Environment) (he : I env) :
    I (env.set (spec.itemVariable.getD defaultItemVariable) v) :=
  h.keys _ (by simp [writes, LoopSpec.itemKeys, hkind]) v env he

theorem store {step : Step} (h : step.Spares I) (v : Value) (env : Environment) (he : I env) :
    I (step.info.store v env) := by
  unfold StepInfo.store
  split
  · next hkey => exact h.keys _ (mem_writes_of_outputVariable hkey) v env he
  · exact he

end Spares

end Step

/-! ### Steps uphold what they spare -/

section Steps

variable {σ : Type} {k : Protocol σ} {config : Config} {runner : Option FrameRunner} {scope : Scope}

theorem upholds_enter (hk : k.Lenient) (ha : ∀ g a, k.asks g (.attempt a)) {location : Location}
    {I : Environment → Prop} (hI : ∀ env, I env → I (env.stamp scope.identity)) {step : Step}
    (hs : step.Spares I) {dispatch : Exec Value} (h : Upholds k I dispatch) :
    Upholds k I (enter config step scope location dispatch) :=
  meets_enter hk (fun env _ => I env) (fun _ he => he) (fun env _ he => hI env he)
    (fun _ g he => ⟨ha g _, he⟩) h (fun _ _ he _ => ⟨he, fun _ _ => he⟩) hs.store

theorem upholds_loopResults (hk : k.Lenient) {I : Environment → Prop} {info : StepInfo}
    {spec : LoopSpec} {steps : List Step} (hs : (Step.loop info spec steps).Spares I)
    {body : Nat → Exec (List Value)} (h : ∀ i, Upholds k I (body i)) :
    Upholds k I (loopResults config spec scope body) := by
  have hI : LoopRule spec I I I fun _ => I :=
    { starts := fun _ he => he
      refused := fun _ _ he => he
      tested := fun _ _ _ he => he
      cancelled := fun _ he => he
      repeats := fun _ he => he
      item := hs.item
      index := hs.loopIndex }
  exact meets_loopResults hk hI h

mutual

/-- Every kind of step upholds what its writes leave as it is. -/
theorem upholds_dispatch (hk : k.Lenient) (ha : ∀ g a, k.asks g (.attempt a))
    (hr : k.Hosts scope runner) (I : Environment → Prop)
    (hI : ∀ env, I env → I (env.stamp scope.identity)) : (location : Location) → (step : Step) →
      step.Spares I → Upholds k I (dispatch config runner scope location step)
  | _, .action _ payload, _ => upholds_performAction hk payload
  | location, .condition _ test whenTrue whenFalse, hs => by
    refine meets_bind (upholds_holds test) fun met => ?_
    cases met with
    | true => exact meets_bind (upholds_runItems hk ha hr I hI (location.child .whenTrue) 0 []
        whenTrue hs.condition.1) fun _ => meets_pure fun _ he => he
    | false => exact meets_bind (upholds_runItems hk ha hr I hI (location.child .whenFalse) 0 []
        whenFalse hs.condition.2) fun _ => meets_pure fun _ he => he
  | location, .loop _ spec body, hs =>
    meets_bind (upholds_loopResults hk hs fun i =>
      upholds_runItems hk ha hr I hI (location.child (.iteration i)) 0 [] body hs.loop) fun _ =>
        meets_pure fun _ he => he
  | _, .wait _ duration, _ => upholds_waitFor hk duration
  | location, .parallel _ branches, _ => meets_get_bind fun env =>
    upholds_runBranches (minds_branchFlows hk ha hr location 0 env branches)
  | _, .subWorkflow _ workflowId vars, hs =>
    upholds_callWorkflow hk hr (hs.keys _ (by simp [Step.writes])) workflowId vars
  | _, .script _ source timeout, hs =>
    meets_evaluateScript hk (fun _ => hs.scripts rfl) source timeout

/-- A list of steps upholds what the writes of its steps leave as it is. -/
theorem upholds_runItems (hk : k.Lenient) (ha : ∀ g a, k.asks g (.attempt a))
    (hr : k.Hosts scope runner) (I : Environment → Prop)
    (hI : ∀ env, I env → I (env.stamp scope.identity)) : (location : Location) → (i : Nat) →
      (acc : List Value) → (steps : List Step) → (∀ step ∈ steps, step.Spares I) →
      Upholds k I (runItems config runner scope location i acc steps)
  | _, _, _, [], _ => meets_pure fun _ he => he
  | location, i, acc, step :: rest, hs => by
    obtain ⟨hstep, hrest⟩ := List.forall_mem_cons.mp hs
    refine meets_observe_bind (upholds_enter hk ha hI hstep (upholds_dispatch hk ha hr I hI
      (location.child (.step i)) step hstep)) (fun v => ?_) fun e => ?_
    · exact upholds_runItems hk ha hr I hI location (i + 1) (v :: acc) rest hrest
    · cases e with
      | cancelled => exact meets_throw fun _ he => he
      | _ =>
        dsimp only
        split
        · exact meets_throw fun _ he => he
        · exact upholds_runItems hk ha hr I hI location (i + 1) _ rest hrest

/-- Branches ask for what the protocol allows. -/
theorem minds_branchFlows (hk : k.Lenient) (ha : ∀ g a, k.asks g (.attempt a))
    (hr : k.Hosts scope runner) (location : Location) (b : Nat) (env : Environment) :
    (branches : List (List Step)) → ∀ x ∈ branchFlows config runner scope location b env branches,
      x.Minds k
  | [], _, hx => nomatch hx
  | steps :: rest, x, hx => by
    rcases List.mem_cons.mp hx with rfl | hx
    · intro g
      refine Flow.Tracks.bind (fun _ _ _ => ?_) _ (upholds_runItems hk ha hr (fun _ => True)
        (fun _ _ => trivial) (location.child (.branch b)) 0 [] steps
        (fun step _ => .always step) (env.forkBranch b) g trivial)
      exact trivial
    · exact minds_branchFlows hk ha hr location (b + 1) env rest x hx

end

/-- A step upholds what its writes leave as it is. -/
theorem upholds_runStep (hk : k.Lenient) (ha : ∀ g a, k.asks g (.attempt a))
    (hr : k.Hosts scope runner) {location : Location} {I : Environment → Prop}
    (hI : ∀ env, I env → I (env.stamp scope.identity)) {step : Step} (hs : step.Spares I) :
    Upholds k I (runStep config runner step scope location) :=
  upholds_enter hk ha hI hs (upholds_dispatch hk ha hr I hI location step hs)

end Steps

/-! ### The footprint -/

/-- Variables have changed under some keys only: all other keys are bound as before, and the keys
that were there come first, in their order. -/
structure Environment.Extends (keys : List String) (env env' : Environment) : Prop where
  kept : ∀ key ∉ keys, env'.get? key = env.get? key
  order : env.vars.keys <+: env'.vars.keys

namespace Environment.Extends

variable {keys : List String} {env env' : Environment}

theorem refl (keys : List String) (env : Environment) : env.Extends keys env :=
  ⟨fun _ _ => rfl, List.prefix_rfl⟩

theorem set (h : env.Extends keys env') {key : String} (hkey : key ∈ keys) (v : Value) :
    env.Extends keys (env'.set key v) where
  kept other hother := by
    have hne : other ≠ key := fun he => hother (he ▸ hkey)
    exact (Bindings.get?_set_of_ne env'.vars v hne).trans (h.kept other hother)
  order := by
    refine h.order.trans ?_
    by_cases hmem : key ∈ env'.vars.keys
    · have hkeys : (env'.set key v).vars.keys = env'.vars.keys :=
        Bindings.keys_set_of_mem env'.vars v hmem
      exact hkeys ▸ List.prefix_rfl
    · rw [Environment.set, Bindings.keys_set_of_not_mem _ v hmem]
      exact List.prefix_append _ _

theorem stamp (h : env.Extends keys env') (hkeys : ∀ key ∈ Key.identity, key ∈ keys)
    (identity : Identity) : env.Extends keys (env'.stamp identity) :=
  ((h.set (hkeys _ (by simp [Key.identity])) _).set (hkeys _ (by simp [Key.identity])) _).set
    (hkeys _ (by simp [Key.identity])) _

end Environment.Extends

/-- A step without scripts outside of branches writes its footprint only, whatever it is answered
and however it ends: what it is attempted with, how often, and what goes on in branches and
sub-workflows makes no difference. -/
theorem extends_runStep (config : Config) (runner : Option FrameRunner) (scope : Scope)
    (location : Location) (env : Environment) {step : Step} (hs : step.isScripted = false)
    {l : List Stroke} {y : Strand (Except StepError Value × Environment)}
    {r : Except StepError Value} {env' : Environment}
    (h : Follows (.line ((runStep config runner step scope location).run.run env)) l y)
    (he : y.ended? = some (.ok (r, env'))) : env.Extends step.footprint env' := by
  let I := env.Extends step.footprint
  have hspares : step.Spares I := by
    refine ⟨fun key hkey v _ hI => hI.set (List.mem_append_right _ hkey) v, fun hscript => ?_⟩
    rw [hs] at hscript
    exact nomatch hscript
  have hupholds : Upholds .free I (runStep config runner step scope location) :=
    upholds_runStep (fun _ _ _ => trivial) (fun _ _ => trivial)
      (fun run _ definition id env _ => Flow.tracks_free _)
      (fun _ hI => hI.stamp (fun _ hkey => List.mem_append_left _ hkey) _) hspares
  have hflow : ((runStep config runner step scope location).run.run env).Keeps .free
      fun p => I p.2 := by
    refine Flow.Tracks.keeps (k := .free) (g := ()) _ ((hupholds env () (.refl _ env)).mono ?_)
    rintro ⟨e | v, env'⟩ _ hI
    · exact hI
    · exact hI
  have hended := keeps_ended y (keeps_follows h
    (fun _ _ => Contract.reckons_of_cancels trivial _) hflow).1 he
  exact hended

/-- A script in a branch, whose results are kept. -/
private def sideScript : Step := (Step.parallel Step.plain [[.ofScript "x = 2"]]).output "out"

private def sideScope : Scope := ⟨⟨"side", .ofNat 0, none⟩, .stop, 0, 0⟩

private def sideEnv : Environment := ⟨[("x", .ofNat 1)]⟩

/-- The script in the branch writes a variable, which the step does not. -/
private def sideTurns : List Stroke :=
  let stamped := sideEnv.stamp sideScope.identity
  let inner := (stamped.forkBranch 0).stamp sideScope.identity
  let run := sideScope.identity.executionId
  let place : Location := .top 0
  let there := (place.child (.branch 0)).child (.step 0)
  let script : ScriptRequest :=
    ⟨"x = 2", inner.vars, Config.default.scriptLimit, sideScope.token, run, there⟩
  let does (r : Request) (a : r.Answer) : Stroke := ⟨0, .initial, .answer r a⟩
  let aside (r : Request) (a : r.Answer) : Stroke := ⟨0, .initial, .aside 0 0 (.answer r a)⟩
  [does .boundary true,
    does (.publish (.stepStarted run place.forEvents "parallel" "parallel")) (),
    does (.attempt ⟨sideScript, sideScope, place, stamped⟩) (), ⟨0, .initial, .fork⟩,
    aside .boundary true,
    aside (.publish (.stepStarted run there.forEvents "script" "script")) (),
    aside (.attempt ⟨.ofScript "x = 2", sideScope, there, inner⟩) (),
    aside (.evaluate script) (.ok ⟨.null, [("x", .ofNat 2)]⟩),
    aside (.publish (.stepCompleted run there.forEvents "script" .null 0)) (),
    ⟨0, .initial, .join⟩,
    does (.publish (.stepCompleted run place.forEvents "parallel"
      (.list [branchEntry 0 (.finished (.ok [.null]))]) 0)) ()]

private theorem follows_sideTurns : ∃ y r env', Follows (.line ((runStep .default none sideScript
    sideScope (.top 0)).run.run sideEnv)) sideTurns y ∧ y.ended? = some (.ok (r, env')) :=
  ⟨_, _, _, .head (.answer ⟨rfl, rfl⟩) <| .head (.answer rfl) <| .head (.answer rfl) <|
    .head .fork <| .head (.branch (b := (0 : Fin 1)) (.answer ⟨rfl, rfl⟩)) <|
    .head (.branch (b := (0 : Fin 1)) (.answer rfl)) <|
    .head (.branch (b := (0 : Fin 1)) (.answer rfl)) <|
    .head (.branch (b := (0 : Fin 1)) (.answer rfl)) <|
    .head (.branch (b := (0 : Fin 1)) (.answer rfl)) <|
    .head (@Turn.join _ _ _ _ _ _ (fun _ => .ok (.ok [.null])) fun b => by
      obtain rfl := Fin.fin_one_eq_zero b
      rfl) <| .head (.rest (d := .answer (.publish _) ()) (.answer rfl)) <| .refl _, rfl⟩

/-- A script in a branch has written what the step has not. -/
theorem extends_sideScript : ∃ y r env', Follows (.line ((runStep .default none sideScript
    sideScope (.top 0)).run.run sideEnv)) sideTurns y ∧ y.ended? = some (.ok (r, env')) ∧
      sideEnv.Extends ["_targetId", "_workflowId", "_executionId", "out"] env' := by
  obtain ⟨y, r, env', h, he⟩ := follows_sideTurns
  exact ⟨y, r, env', h, he, extends_runStep .default none sideScope (.top 0) sideEnv rfl h he⟩

end Workflow

import Mathlib.Order.Interval.Set.Basic
import Workflow.Proofs.Opening.Flow
import Workflow.Proofs.Pact.Frame
import Workflow.Proofs.Protocol.Step

/-!
# Which steps a step starts

A step starts itself and the steps that stand below it: the steps of its lists, each at the place
that its list and its index give it. The steps of a list stand at different places, and so do those
of different iterations and branches; so no place is come to twice unless a step that holds others
is tried again. A sub-workflow starts the steps of its definition, under an identifier of its own.

## Main definitions

* `Workflow.Path.beyond` — the paths that go on with some segments.
* `Workflow.Step.region` — the paths of the steps that an attempt at a step may start.
* `Workflow.Scope.Calls` — the frames of sub-workflows start the steps of their definitions.

## Main results

* `Workflow.opens_runStep` — a step starts what stands at its path and below.
* `Workflow.opens_frame` — a frame starts the steps of its definition.
-/

namespace Workflow

open Exec

/-! ### Regions of paths -/

namespace Path

/-- The paths that go on behind a path with some segments. -/
def beyond (p : Path) (S : Set Segment) : Set Path := {q | ∃ s ∈ S, p ++ [s] <+: q}

variable {p : Path} {S T : Set Segment}

theorem beyond_mono (h : S ⊆ T) : p.beyond S ⊆ p.beyond T := by
  rintro q ⟨s, hs, hq⟩
  exact ⟨s, h hs, hq⟩

theorem beyond_union : p.beyond S ∪ p.beyond T ⊆ p.beyond (S ∪ T) :=
  Set.union_subset (beyond_mono Set.subset_union_left) (beyond_mono Set.subset_union_right)

/-- What goes on behind a longer path goes on as that path does. -/
theorem beyond_child (s : Segment) (T : Set Segment) :
    (Path.beyond (p ++ [s]) T) ⊆ p.beyond {s} := by
  rintro q ⟨t, -, hq⟩
  exact ⟨s, rfl, (List.prefix_append _ _).trans hq⟩

theorem disjoint_beyond (h : Disjoint S T) : Disjoint (p.beyond S) (p.beyond T) := by
  refine Set.disjoint_left.mpr ?_
  rintro q ⟨s, hs, hq⟩ ⟨t, ht, hq'⟩
  have hsame : p ++ [s] = p ++ [t] :=
    (List.prefix_of_prefix_length_le hq hq' (by simp)).eq_of_length (by simp)
  obtain rfl := List.singleton_inj.mp (List.append_cancel_left hsame)
  exact Set.disjoint_left.mp h hs ht

theorem notMem_beyond : p ∉ p.beyond S := by
  rintro ⟨s, -, hq⟩
  have hlength := hq.length_le
  rw [List.length_append, List.length_singleton] at hlength
  exact Nat.not_succ_le_self _ hlength

section

variable {f : Nat → Segment} (hf : Function.Injective f) (i : Nat)

include hf

/-- What goes on at a number does not go on at a later one. -/
theorem disjoint_beyond_succ :
    Disjoint (p.beyond {f i}) (p.beyond (f '' Set.Ici (i + 1))) := by
  refine disjoint_beyond (Set.disjoint_left.mpr ?_)
  rintro _ rfl ⟨j, hj, hij⟩
  rw [hf hij] at hj
  exact Nat.not_succ_le_self i hj

omit hf in
theorem beyond_succ : p.beyond {f i} ∪ p.beyond (f '' Set.Ici (i + 1)) ⊆
    p.beyond (f '' Set.Ici i) := by
  refine beyond_union.trans (beyond_mono ?_)
  rintro _ (rfl | ⟨j, hj, rfl⟩)
  · exact ⟨i, Nat.le_refl i, rfl⟩
  · exact ⟨j, Nat.le_of_succ_le hj, rfl⟩

end

end Path

/-- The paths of the steps that an attempt at a step at a path may start. -/
def Step.region (step : Step) (p : Path) : Set Path :=
  if step.isCompound then p.beyond Set.univ else ∅

section Steps

variable {config : Config} {once : Prop} {runner : Option FrameRunner} {scope : Scope}
  {d : Definition} {run : RunId} {location : Location} {Y Z : Set Path}

/-! ### What surrounds attempts -/

theorem opens_mute_bind {α β : Type} {x : Exec α} {f : α → Exec β}
    (hx : x.Opens config once d run ∅) (hf : ∀ a, (f a).Opens config once d run Z) :
    (x >>= f).Opens config once d run Z :=
  (opens_bind hx hf fun _ => disjoint_bot_left).mono (Set.empty_union Z).subset

/-- A step starts at its place, and then others may. -/
theorem opens_started_bind {α : Type} {step : Step} {f : Unit → Exec α}
    (hp : d.Places location step) (hf : (f ()).Opens config once d run Y) (hY : Y ⊆ Z)
    (hmem : location.path ∈ Z) (hnot : location.path ∉ Y) :
    (publish (.stepStarted run location.forEvents step.label step.kindName) >>= f).Opens config once
      d run Z := by
  let o : Opening := ⟨run, location, step⟩
  refine fun env g hrun hg => ⟨fun s _ => ⟨o, hg ⟨rfl, hp, hmem⟩, rfl⟩, fun _ _ => ?_⟩
  refine hf env _ hrun fun o' ho' => ⟨hg (Definition.openings_mono hY ho'), fun _ hs => hnot ?_⟩
  obtain hspot : o.spot = o'.spot := (Prod.mk.inj (Option.some.inj hs)).2
  exact (Opening.path_eq_of_spot hspot : location.path = _) ▸ ho'.2.2

/-- What is tried again starts no steps if steps are to be started once only. -/
theorem opens_attemptsFrom {schedule : RetrySchedule} {attempt : Exec Value}
    (h : attempt.Opens config once d run Z) (hZ : once → Z = ∅) : (remaining done : Nat) →
      (attemptsFrom scope location schedule attempt remaining done).Opens config once d run Z
  | 0, _ => h
  | remaining + 1, done => by
    have hdisjoint (honce : once) : Disjoint Z Z := by
      rw [hZ honce]
      exact disjoint_bot_left
    refine Opens.mono (opens_observe_bind h (fun r => ?_) hdisjoint) (Set.union_self Z).subset
    cases r with
    | ok v => exact opens_pure v
    | error e =>
      dsimp only
      split
      · refine opens_request_bind (fun _ => opens_request_bind (fun slept => ?_) trivial) nofun
        exact opens_mute_bind (opens_orCancelled slept) fun _ =>
          opens_attemptsFrom h hZ remaining (done + 1)
      · exact opens_throw e

theorem opens_attempts {schedule : Option RetrySchedule} {attempt : Exec Value}
    (h : attempt.Opens config once d run Z) (hZ : once → schedule ≠ none → Z = ∅) :
    (attempts scope location schedule attempt).Opens config once d run Z := by
  cases schedule with
  | none => exact h
  | some schedule => exact opens_attemptsFrom h (fun honce => hZ honce nofun) _ 0

/-- What follows the attempts at a step starts nothing. -/
theorem opens_conclude (step : Step) (r : Except StepError Value) :
    (step.conclude scope location r).Opens config once d run Z := by
  have hclosing {f : Unit → Exec Value} (hf : (f ()).Opens config once d run Z) :
      (publish (step.closing scope location r) >>= f).Opens config once d run Z := by
    refine opens_request_bind (fun _ => hf) ?_
    cases r <;> exact nofun
  rcases r with e | v
  · cases e with
    | cancelled => exact opens_throw _
    | _ => exact hclosing (opens_throw _)
  · exact opens_modify_bind (hclosing (opens_pure v))

/-- A step starts at its place, and its attempts start steps below. -/
theorem opens_enter {step : Step} {dispatch : Exec Value} (hd : once → d.IsSteady config)
    (hp : d.Places location step)
    (h : dispatch.Opens config once d scope.identity.executionId (step.region location.path)) :
    (enter config step scope location dispatch).Opens config once d scope.identity.executionId
      {q | location.path <+: q} := by
  have hbelow : step.region location.path ⊆ location.path.beyond Set.univ := by
    unfold Step.region
    split
    · exact Set.Subset.rfl
    · exact Set.empty_subset _
  have hretry (honce : once)
      (hsome : RetrySchedule.ofPolicy? step.info.retry config ≠ none) :
      step.region location.path = ∅ := by
    refine if_neg fun hcompound => hsome ?_
    exact hd honce _ hp.visited hcompound
  have hmarked : (step.marked scope location dispatch).Opens config once d
      scope.identity.executionId (step.region location.path) :=
    opens_get_bind fun env => opens_request_bind (fun _ => h) trivial
  rw [enter_eq]
  refine opens_request_bind (fun goesOn => opens_mute_bind (opens_orCancelled goesOn) fun _ =>
    opens_modify_bind (opens_started_bind hp ?_ ?_ List.prefix_rfl
      fun hmem => Path.notMem_beyond (hbelow hmem))) trivial
  · exact Opens.mono (opens_observe_bind (opens_attempts hmarked hretry) (opens_conclude step)
      fun _ => disjoint_bot_right) (Set.union_empty _).subset
  · rintro q hq
    obtain ⟨s, -, hq⟩ := hbelow hq
    exact (List.prefix_append _ _).trans hq

/-! ### Actions, waits, scripts and tests -/

theorem opens_performAction (payload : Value) :
    (performAction payload scope location).Opens config once d run Z := by
  refine opens_get_bind fun env => opens_request_bind (fun r => ?_) trivial
  cases r with
  | ok v => exact opens_pure v
  | error e => exact opens_throw _

theorem opens_waitFor (duration : Value) : (waitFor duration scope).Opens config once d run Z := by
  refine opens_get_bind fun env => ?_
  dsimp only
  split
  · exact opens_throw _
  · exact opens_request_bind (fun slept => opens_mute_bind (opens_orCancelled slept)
      fun _ => opens_pure _) trivial

theorem opens_evaluateScript (source : String) (timeout : Option UInt64) :
    (evaluateScript config source timeout scope location).Opens config once d run Z := by
  refine opens_get_bind fun env => opens_request_bind (fun r => ?_) trivial
  cases r with
  | ok outcome => exact opens_modify_bind (opens_pure _)
  | error e =>
    dsimp only
    split
    · exact opens_request_bind (fun _ => opens_throw _) trivial
    · exact opens_throw _

theorem opens_holds (c : Condition) : (holds c).Opens config once d run Z := by
  refine opens_get_bind fun env => ?_
  split
  · exact opens_pure _
  · exact opens_throw _

theorem opens_loopItems (items : Option Value) : (loopItems items).Opens config once d run Z := by
  refine opens_get_bind fun env => ?_
  split
  · exact opens_pure _
  · exact opens_pure _
  · split
    · exact opens_pure _
    · exact opens_throw _
  · exact opens_throw _

/-! ### Loops -/

section Loops

variable {p : Path} {body : Nat → Exec (List Value)}
  (h : ∀ i, (body i).Opens config once d run (p.beyond {.iteration i}))

include h

theorem opens_iteration (prepare : Environment → Environment) (i : Nat) :
    (iteration scope prepare body i).Opens config once d run (p.beyond {.iteration i}) :=
  opens_request_bind (fun cancelled => opens_mute_bind (opens_orCancelled (!cancelled)) fun _ =>
    opens_modify_bind (opens_map _ (h i))) trivial

/-- An iteration and those that follow start the steps of different places. -/
theorem opens_iteration_bind {α : Type} (prepare : Environment → Environment) (i : Nat)
    {f : Value → Exec α} (hf : ∀ v, (f v).Opens config once d run
      (p.beyond (Segment.iteration '' Set.Ici (i + 1)))) :
    (iteration scope prepare body i >>= f).Opens config once d run
      (p.beyond (Segment.iteration '' Set.Ici i)) :=
  (opens_bind (opens_iteration h prepare i) hf fun _ => Path.disjoint_beyond_succ
    (fun _ _ => Segment.iteration.inj) i).mono (Path.beyond_succ i)

theorem opens_forItems (key : String) : (items : List Value) → (i : Nat) → (acc : List Value) →
    (forItems scope key body items i acc).Opens config once d run
      (p.beyond (Segment.iteration '' Set.Ici i))
  | [], _, _ => opens_pure _
  | _ :: rest, i, _ => opens_iteration_bind h _ i fun _ => opens_forItems key rest (i + 1) _

theorem opens_forTimes : (remaining i : Nat) → (acc : List Value) →
    (forTimes scope body remaining i acc).Opens config once d run
      (p.beyond (Segment.iteration '' Set.Ici i))
  | 0, _, _ => opens_pure _
  | remaining + 1, i, _ => opens_iteration_bind h _ i fun _ => opens_forTimes remaining (i + 1) _

theorem opens_whileHolds (test : Condition) : (remaining i : Nat) → (acc : List Value) →
    (whileHolds scope (holds test) body remaining i acc).Opens config once d run
      (p.beyond (Segment.iteration '' Set.Ici i))
  | 0, _, _ => opens_mute_bind (opens_holds test) fun _ => opens_pure _
  | remaining + 1, i, _ => by
    refine opens_mute_bind (opens_holds test) fun met => ?_
    cases met with
    | true =>
      rw [if_pos rfl]
      exact opens_iteration_bind h _ i fun _ => opens_whileHolds test remaining (i + 1) _
    | false => exact opens_pure _

/-- A loop starts the steps of its iterations. -/
theorem opens_loopResults (spec : LoopSpec) : (loopResults config spec scope body).Opens config once
    d run (p.beyond (Segment.iteration '' Set.Ici 0)) := by
  unfold loopResults
  cases spec.kind with
  | forEach => exact opens_mute_bind (opens_loopItems _) fun items =>
      opens_bind_mute (opens_forItems h _ _ 0 []) fun _ => opens_pure _
  | whileTrue =>
    dsimp only
    split
    · exact opens_throw _
    · exact opens_whileHolds h _ _ 0 []
  | times =>
    refine opens_get_bind fun env => ?_
    dsimp only
    split
    · exact opens_throw _
    · exact opens_bind_mute (opens_forTimes h _ 0 []) fun _ => opens_pure _

end Loops

/-! ### Branches and sub-workflows -/

/-- Branches start the steps of different places. -/
theorem opens_runBranches {p : Path} {branches : List (Flow BranchResult)}
    (h : ∀ b (hb : b < branches.length) (g : Agenda), run ∈ g.known →
      d.openings run (p.beyond {.branch b}) ⊆ g.openings → branches[b].Opens config once g) :
    (runBranches scope branches).Opens config once d run (p.beyond Set.univ) := by
  let share : Option (Fin branches.length) → Set Opening
    | none => ∅
    | some b => d.openings run (p.beyond {.branch b})
  intro env g hrun hg
  refine ⟨share, ⟨?_, fun _ => ?_⟩, fun b => h b b.isLt _ hrun Set.Subset.rfl, fun ends => ?_⟩
  · rintro (_ | b)
    · exact Set.empty_subset _
    · exact (Definition.openings_mono (Path.beyond_mono (Set.subset_univ _))).trans hg
  · rintro (_ | b) (_ | b') hne
    · exact absurd rfl hne
    · exact fun o ho => ho.elim
    · exact fun o _ o' ho' => ho'.elim
    · refine Definition.apart_openings (Path.disjoint_beyond ?_)
      refine Set.disjoint_singleton.mpr fun hsame => hne ?_
      rw [Fin.ext (Segment.branch.inj hsame)]
  · cases ends with
    | none => trivial
    | some ends => trivial

/-- The frames of the sub-workflows of a scope start the steps of their definitions, under the
identifiers that they are given. -/
def Scope.Calls (config : Config) (once : Prop) (scope : Scope) (runner : Option FrameRunner) :
    Prop :=
  ∀ run ∈ runner, ∀ (definition : Definition) (id : RunId) (env : Environment) (g : Agenda),
    (once → definition.IsSteady config) → id ∈ g.known →
      definition.openings id Set.univ ⊆ g.openings →
        (run definition (scope.child definition id) env).Opens config once g

theorem opens_subWorkflowId (workflowId : Value) :
    (subWorkflowId workflowId).Opens config once d run Z := by
  refine opens_get_bind fun env => ?_
  split
  · exact opens_throw _
  · exact opens_pure _

/-- With the identifier of a sub-workflow come the steps of the definition that was looked up. -/
theorem opens_callWorkflow (hr : scope.Calls config once runner) (workflowId : Value)
    (vars : Bindings Value) :
    (callWorkflow config runner workflowId vars scope).Opens config once d run Z := by
  refine opens_mute_bind (opens_subWorkflowId workflowId) fun id env g hrun hg =>
    ⟨trivial, fun found hfound => ?_⟩
  cases found with
  | none => trivial
  | some definition =>
    cases runner with
    | none => trivial
    | some runFrame =>
      refine ⟨trivial, fun child _ => ?_⟩
      change Flow.Opens config once _ ((liftM _ >>= _ : Exec Value).run.run env)
      rw [run_lift_bind]
      let g' : Agenda := (g.after once (.lookup id) (some definition)).after once .freshId child
      have hframe := hr runFrame rfl definition child
        ((Environment.seed definition.vars (Template.resolveFields env vars)).stamp
          ⟨definition.id, child, scope.identity.target⟩) g'
        (fun honce => hfound honce definition rfl) (Set.mem_insert _ _)
        fun o ho => .inr ⟨definition, rfl, ho⟩
      refine Flow.Opens.bind_mute hframe fun ended _ => ?_
      obtain ⟨record, failure, env'⟩ := ended
      rcases failure with _ | ⟨index, e⟩
      · trivial
      · cases e <;> trivial

/-! ### Steps and lists -/

/-- The steps of a list, counted from a number, stand at the places that the list gives them. -/
def Definition.Lists (d : Definition) (location : Location) (i : Nat) (steps : List Step) : Prop :=
  ∀ j step, steps[j]? = some step → d.Places (location.child (.step (i + j))) step

/-- The lists of a step stand behind the parts that lead to them. -/
theorem lists_of_places {step : Step} (hp : d.Places location step) (s : Segment) (hs : s ≠ .body)
    {list : List Step} (hlist : step.listAt? s = some list) :
    d.Lists (location.child s) 0 list := by
  intro j step' hj
  rw [Nat.zero_add]
  exact hp.child hs hlist hj

theorem Definition.Lists.head {i : Nat} {step : Step} {rest : List Step}
    (h : d.Lists location i (step :: rest)) : d.Places (location.child (.step i)) step :=
  h 0 step rfl

theorem Definition.Lists.tail {i : Nat} {step : Step} {rest : List Step}
    (h : d.Lists location i (step :: rest)) : d.Lists location (i + 1) rest := by
  intro j step' hj
  rw [Nat.succ_add]
  exact h (j + 1) step' hj

/-- A list that stands behind one part of the path of a step starts steps behind that path. -/
theorem region_of_list {step : Step} (hstep : step.isCompound = true) (p : Path) (s : Segment)
    (S : Set Segment) : Path.beyond (p ++ [s]) S ⊆ step.region p := by
  rw [Step.region, if_pos hstep]
  exact (Path.beyond_child s S).trans (Path.beyond_mono (Set.subset_univ _))

mutual

/-- An attempt at a step starts steps below the step. -/
theorem opens_dispatch (hd : once → d.IsSteady config) (hr : scope.Calls config once runner) :
    (location : Location) → (step : Step) → d.Places location step →
      (dispatch config runner scope location step).Opens config once d scope.identity.executionId
        (step.region location.path)
  | _, .action _ payload, _ => opens_performAction payload
  | location, .condition info test whenTrue whenFalse, hp => by
    refine opens_mute_bind (opens_holds test) fun met => ?_
    cases met with
    | true => exact opens_map _ ((opens_runItems hd hr (location.child .whenTrue) 0 [] whenTrue
        (lists_of_places hp .whenTrue nofun rfl)).mono (region_of_list rfl _ _ _))
    | false => exact opens_map _ ((opens_runItems hd hr (location.child .whenFalse) 0 [] whenFalse
        (lists_of_places hp .whenFalse nofun rfl)).mono (region_of_list rfl _ _ _))
  | location, .loop info spec body, hp => by
    have hbody (i : Nat) := (opens_runItems hd hr (location.child (.iteration i)) 0 [] body
      (lists_of_places hp (.iteration i) nofun rfl)).mono (Path.beyond_child (.iteration i) _)
    exact Opens.mono (opens_bind_mute (opens_loopResults hbody spec) fun _ => opens_pure _)
      (Path.beyond_mono (Set.subset_univ _))
  | _, .wait _ duration, _ => opens_waitFor duration
  | location, .parallel info branches, hp => by
    refine opens_get_bind fun env => opens_runBranches fun b hb g hrun hg => ?_
    refine opens_branchFlows hd hr location 0 env branches (fun b' steps hsteps => ?_) b hb g hrun
      ?_
    · exact lists_of_places hp (.branch (0 + b')) nofun ((Nat.zero_add b').symm ▸ hsteps)
    · rwa [Nat.zero_add]
  | _, .subWorkflow _ workflowId vars, _ => opens_callWorkflow hr workflowId vars
  | _, .script _ source timeout, _ => opens_evaluateScript source timeout

/-- A list starts its steps, from one on, and what is below them. -/
theorem opens_runItems (hd : once → d.IsSteady config) (hr : scope.Calls config once runner) :
    (location : Location) → (i : Nat) → (acc : List Value) → (steps : List Step) →
      d.Lists location i steps → (runItems config runner scope location i acc steps).Opens config
        once d scope.identity.executionId (location.path.beyond (Segment.step '' Set.Ici i))
  | _, _, _, [], _ => opens_pure _
  | location, i, acc, step :: rest, hl => by
    have hstep : (runStep config runner step scope (location.child (.step i))).Opens config once d
        scope.identity.executionId (location.path.beyond {.step i}) :=
      (opens_enter hd hl.head (opens_dispatch hd hr (location.child (.step i)) step hl.head)).mono
        fun q hq => ⟨.step i, rfl, hq⟩
    have hrest (acc : List Value) := opens_runItems hd hr location (i + 1) acc rest hl.tail
    refine (opens_observe_bind hstep (fun r => ?_) fun _ => Path.disjoint_beyond_succ
      (fun _ _ => Segment.step.inj) i).mono (Path.beyond_succ i)
    rcases r with e | v
    · cases e with
      | cancelled => exact opens_throw _
      | _ =>
        dsimp only
        split
        · exact opens_throw _
        · exact hrest _
    · exact hrest _

/-- Each branch starts the steps of its list, and what is below them. -/
theorem opens_branchFlows (hd : once → d.IsSteady config) (hr : scope.Calls config once runner) :
    (location : Location) → (b : Nat) → (env : Environment) → (branches : List (List Step)) →
      (∀ j steps, branches[j]? = some steps →
        d.Lists (location.child (.branch (b + j))) 0 steps) →
      ∀ j (hj : j < (branchFlows config runner scope location b env branches).length) (g : Agenda),
        scope.identity.executionId ∈ g.known →
          d.openings scope.identity.executionId (location.path.beyond {.branch (b + j)}) ⊆
            g.openings →
          (branchFlows config runner scope location b env branches)[j].Opens config once g
  | _, _, _, [], _, _, hj, _, _, _ => absurd hj (Nat.not_lt_zero _)
  | location, b, env, steps :: rest, hl, 0, _, g, hrun, hg => by
    have hlist := opens_runItems hd hr (location.child (.branch b)) 0 [] steps (hl 0 steps rfl)
    exact Flow.Opens.bind_mute (hlist (env.forkBranch b) g hrun
      ((Definition.openings_mono (Path.beyond_child (.branch b) _)).trans hg)) fun _ _ => trivial
  | location, b, env, _ :: rest, hl, j + 1, hj, g, hrun, hg => by
    refine opens_branchFlows hd hr location (b + 1) env rest (fun j steps hsteps => ?_) j
      (Nat.lt_of_succ_lt_succ hj) g hrun ?_
    · rw [Nat.succ_add]
      exact hl (j + 1) steps hsteps
    · rwa [Nat.succ_add]

end

/-- A step starts what stands at its place and below. -/
theorem opens_runStep (hd : once → d.IsSteady config) (hr : scope.Calls config once runner)
    {step : Step} (hp : d.Places location step) :
    (runStep config runner step scope location).Opens config once d scope.identity.executionId
      {q | location.path <+: q} :=
  opens_enter hd hp (opens_dispatch hd hr location step hp)

/-! ### Frames -/

/-- The steps of a frame, from one on, start themselves and what is below them. -/
private theorem opens_frameFrom (hd : once → d.IsSteady config)
    (hr : scope.Calls config once runner) : (steps : List Step) → (index : Nat) →
      (record : RunRecord) → (env : Environment) → (g : Agenda) →
        (∀ j step, steps[j]? = some step → d.Places (.top (index + j)) step) →
          scope.identity.executionId ∈ g.known →
            d.openings scope.identity.executionId
              (Path.beyond [] (Segment.step '' Set.Ici index)) ⊆ g.openings →
              ((frameFrom config runner scope index record steps).run env).Opens config once g
  | [], _, _, _, _, _, _, _ => trivial
  | step :: rest, index, record, env, g, hp, hrun, hg => by
    have hnext (record : RunRecord) (env : Environment) (g : Agenda) :=
      opens_frameFrom hd hr rest (index + 1) record env g fun j step' hj => by
        rw [Nat.succ_add]
        exact hp (j + 1) step' hj
    have hstep : (runStep config runner step scope (.top index)).Opens config once d
        scope.identity.executionId (Path.beyond [] {.step index}) :=
      (opens_runStep hd hr (hp 0 step rfl)).mono fun q hq => ⟨.step index, rfl, hq⟩
    unfold frameFrom
    dsimp only
    split
    case' isTrue => refine ⟨trivial, fun _ _ => ?_⟩
    all_goals
      refine opens_bind_flow (x := (runStep config runner step scope (.top index)).run.run env)
        hrun (hstep env) ?_ (fun _ => Path.disjoint_beyond_succ (fun _ _ => Segment.step.inj) index)
        ((Definition.openings_mono (Path.beyond_succ index)).trans hg)
      rintro ⟨e | v, env'⟩ g' hrun' hg'
      · cases e with
        | cancelled => trivial
        | _ =>
          generalize scope.onError = policy
          cases policy with
          | stop => trivial
          | «continue» => exact hnext _ env' g' hrun' hg'
      · exact hnext _ env' g' hrun' hg'

/-- A frame starts the steps of its definition. -/
theorem opens_runFrame (hr : scope.Calls config once runner) (hd : once → d.IsSteady config)
    {env : Environment} {g : Agenda} (hrun : scope.identity.executionId ∈ g.known)
    (hg : d.openings scope.identity.executionId Set.univ ⊆ g.openings) :
    (runFrame config runner d scope env).Opens config once g := by
  refine Flow.Opens.bind_mute (opens_frameFrom hd hr d.steps 0 _ env g (fun j step hj => ?_) hrun
    ((Definition.openings_mono (Set.subset_univ _)).trans hg)) fun _ _ => trivial
  rw [Nat.zero_add]
  exact Definition.places_top hj

theorem calls_within : (depths : Nat) → (scope : Scope) →
    scope.Calls config once (runnerWithin config depths)
  | 0, _ => fun _ hrun => nomatch hrun
  | depths + 1, scope => by
    rintro run ⟨⟩ definition id env g hd hrun hg
    rw [frameWithin_eq]
    exact opens_runFrame (calls_within depths (scope.child definition id)) hd hrun hg

/-- A frame starts the steps of its definition, and each of them once if steps are to be started
once only. -/
theorem opens_frame (depths : Nat) (hd : once → d.IsSteady config) {env : Environment} {g : Agenda}
    (hrun : scope.identity.executionId ∈ g.known)
    (hg : d.openings scope.identity.executionId Set.univ ⊆ g.openings) :
    (frameWithin config depths d scope env).Opens config once g := by
  rw [frameWithin_eq]
  exact opens_runFrame (calls_within depths scope) hd hrun hg

end Steps

end Workflow

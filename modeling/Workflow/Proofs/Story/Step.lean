import Workflow.Proofs.Story.Flow

/-!
# Steps open and close in order

Every step opens itself below the innermost open step, tells of itself only while it is the
innermost one, and closes itself when it is done; what it opens in between is closed by then. It is
closed by an event that carries what it has come to. The attempts at a step, the iterations of a
loop, the branches of a parallel step and the frames of sub-workflows all go on while the step is
open.

## Main definitions

* `Workflow.Terms.Admits`, `Workflow.Terms.Inside` — a step may be opened, or is the innermost one.
* `Workflow.Step.Closes` — what is open when a step has come to something.

## Main results

* `Workflow.obeys_enter` — a step is opened and closed in order, whatever its attempts do.
* `Workflow.obeys_runStep` — every step obeys if the frames of sub-workflows do.
-/

namespace Workflow

open Exec

/-! ### Where a step may be opened -/

namespace Terms

variable {t : Terms} {scope : Scope} {location : Location} {g g' : Standing}

/-- The standings that are like one, unless the flow is cancelled. -/
def Near (t : Terms) (g g' : Standing) : Prop := ¬ t.cancels → g.Like g'

theorem Near.refl (t : Terms) (g : Standing) : t.Near g g := fun _ => .refl g

/-- The step at a location may be opened. -/
def Admits (t : Terms) (scope : Scope) (location : Location) (g : Standing) : Prop :=
  ∃ home, t.home scope.identity.executionId home ∧
    (¬ t.cancels → g.top.Opens (location.site scope.identity.executionId home).address)

/-- The step at a location is the innermost open one. -/
def Inside (t : Terms) (scope : Scope) (location : Location) (g : Standing) : Prop :=
  ∃ home, t.home scope.identity.executionId home ∧
    (¬ t.cancels → ∃ rest, g.opened = location.site scope.identity.executionId home :: rest)

theorem Admits.near (h : t.Admits scope location g) (hg : t.Near g g') :
    t.Admits scope location g' := by
  obtain ⟨home, hhome, hopens⟩ := h
  exact ⟨home, hhome, fun hn => (hg hn).top_eq ▸ hopens hn⟩

theorem Inside.near (h : t.Inside scope location g) (hg : t.Near g g') :
    t.Inside scope location g' := by
  obtain ⟨home, hhome, hopened⟩ := h
  exact ⟨home, hhome, fun hn => (hg hn).opened ▸ hopened hn⟩

theorem Inside.opened_ne_nil (h : t.Inside scope location g) (hn : ¬ t.cancels) :
    g.opened ≠ [] := by
  obtain ⟨home, -, hopened⟩ := h
  obtain ⟨rest, hrest⟩ := hopened hn
  rw [hrest]
  exact List.cons_ne_nil _ _

/-- While a step is open, what is closed inside of it leaves no trace. -/
theorem Inside.eq_of_near (h : t.Inside scope location g) (hg : t.Near g g') (hn : ¬ t.cancels) :
    g' = g := (hg hn).eq (h.opened_ne_nil hn)

/-- Inside a step those of its lists may be opened. -/
theorem Inside.admits (h : t.Inside scope location g) {s : Segment} (hs : ¬ (Leg.part s).IsStep)
    (i : Nat) : t.Admits scope ((location.child s).child (.step i)) g := by
  obtain ⟨home, hhome, hopened⟩ := h
  refine ⟨home, hhome, fun hn => ?_⟩
  obtain ⟨rest, hrest⟩ := hopened hn
  refine ⟨[.part s], i, ?_, ?_⟩
  · rw [Location.address_child, Location.address_child, Standing.top_of_cons hrest]
  · intro leg hleg
    rw [List.mem_singleton.mp hleg]
    exact hs

/-- On the line of a branch of a step those of the branch may be opened. -/
theorem Inside.admits_branch (h : t.Inside scope location g) (b i : Nat) (closed : List Event) :
    t.Admits scope ((location.child (.branch b)).child (.step i))
      ⟨g.top ++ [.part (.branch b)], [], closed⟩ := by
  obtain ⟨home, hhome, hopened⟩ := h
  refine ⟨home, hhome, fun hn => ?_⟩
  obtain ⟨rest, hrest⟩ := hopened hn
  refine ⟨[], i, ?_, fun _ hleg => nomatch hleg⟩
  rw [Location.address_child, Location.address_child, List.append_nil, Standing.top_nil,
    Standing.top_of_cons hrest]

end Terms

section Steps

variable {t : Terms} {config : Config} {scope : Scope} {location : Location} {g : Standing}

/-! ### Attempts -/

theorem stays_attemptsFrom {schedule : RetrySchedule} {attempt : Exec Value}
    (hin : t.Inside scope location g) (h : Stays t (t.Near g) attempt) : (remaining done : Nat) →
      Stays t (t.Near g) (attemptsFrom scope location schedule attempt remaining done)
  | 0, _ => h
  | remaining + 1, done => by
    refine stays_observe_bind h stays_pure fun e he => ?_
    dsimp only
    split
    · have ⟨home, hhome, hopened⟩ := hin
      refine stays_bind (stays_publish ⟨home, hhome⟩ fun hn g' hg => ?_) fun _ => ?_
      · obtain ⟨rest, hrest⟩ := hopened hn
        rw [hin.eq_of_near hg hn]
        exact .retries rfl hrest
      · exact stays_request_bind (r := .sleep _ _) trivial fun _ hs =>
          stays_bind (stays_orCancelled hs) fun _ => stays_attemptsFrom hin h remaining (done + 1)
    · exact stays_throw he

theorem stays_attempts {attempt : Exec Value} (hin : t.Inside scope location g)
    (h : Stays t (t.Near g) attempt) (schedule : Option RetrySchedule) :
    Stays t (t.Near g) (attempts scope location schedule attempt) := by
  cases schedule with
  | none => exact h
  | some s => exact stays_attemptsFrom hin h s.maxRetries.toNat 0

/-! ### What surrounds a step -/

/-- What a step that may be opened comes to, with what is open then. -/
def Step.Closes (t : Terms) (step : Step) (scope : Scope) (location : Location) (g : Standing)
    (p : Except StepError Value × Environment) (g' : Standing) : Prop :=
  (p.1 = .error .cancelled → t.cancels) ∧
    (¬ t.cancels → g' = g.close (step.closing scope location p.1))

/-- What follows the attempts at a step closes the step, which is the innermost open one. -/
private theorem obeys_conclude {step : Step} {home : Address} {r : Except StepError Value}
    {g₁ : Standing} (hhome : t.home scope.identity.executionId home)
    (hg : t.Near { g with opened := location.site scope.identity.executionId home :: g.opened } g₁)
    (hr : r = .error .cancelled → t.cancels) (env : Environment) :
    ((step.conclude scope location r).run.run env).Obeys t (step.Closes t scope location g) g₁ := by
  have hrun : ∀ r, (step.closing scope location r).run = scope.identity.executionId := by
    rintro (e | v) <;> rfl
  have hphase : ∀ r, (step.closing scope location r).phase? =
      some (.ends, (location.site scope.identity.executionId home).spot) := by
    rintro (e | v) <;> rfl
  by_cases hcancelled : r = .error .cancelled
  · subst hcancelled
    exact ⟨hr, fun hn => absurd (hr rfl) hn⟩
  · rw [Step.run_conclude _ _ _ hcancelled]
    refine ⟨g.close (step.closing scope location r), ⟨⟨home, (hrun r).symm ▸ hhome⟩, fun hn => ?_⟩,
      fun _ _ => ⟨hr, fun _ => rfl⟩⟩
    rw [(hg hn).eq (List.cons_ne_nil _ _)]
    exact .ends (hphase r) rfl

/-- A step is opened and closed in order, whatever its attempts do. -/
theorem obeys_enter {step : Step} {dispatch : Exec Value} (h : t.Admits scope location g)
    (hd : ∀ g', t.Inside scope location g' → Stays t (t.Near g') dispatch) (env : Environment) :
    ((enter config step scope location dispatch).run.run env).Obeys t
      (step.Closes t scope location g) g := by
  obtain ⟨home, hhome, hopens⟩ := h
  let g₁ : Standing :=
    { g with opened := location.site scope.identity.executionId home :: g.opened }
  have hin : t.Inside scope location g₁ := ⟨home, hhome, fun _ => ⟨g.opened, rfl⟩⟩
  have hmarked : Stays t (t.Near g₁) (step.marked scope location dispatch) :=
    stays_get_bind fun env => stays_bind
      (stays_request (r := .attempt ⟨step, scope, location, env⟩) trivial) fun _ => hd g₁ hin
  rw [run_enter]
  refine Flow.obeys_ask (r := .boundary) trivial fun goesOn hb => ?_
  cases goesOn with
  | false => exact ⟨fun _ => hb rfl, fun hn => absurd (hb rfl) hn⟩
  | true =>
    refine ⟨g₁, ⟨⟨home, hhome⟩, fun hn => .starts rfl hhome (hopens hn)⟩, fun _ _ => ?_⟩
    exact Flow.Obeys.bind (fun p _ hp => obeys_conclude hhome hp.2 hp.1 p.2) _
      (stays_attempts hin hmarked _ (env.stamp scope.identity) g₁ (.refl t g₁))

/-- A step leaves open what it has found open. -/
theorem stays_enter {step : Step} {dispatch : Exec Value} (h : t.Admits scope location g)
    (hd : ∀ g', t.Inside scope location g' → Stays t (t.Near g') dispatch) :
    Stays t (t.Near g) (enter config step scope location dispatch) := by
  intro env g₁ hg₁
  refine (obeys_enter (h.near hg₁) hd env).mono fun p g' hp => ⟨hp.1, fun hn => ?_⟩
  rw [hp.2 hn]
  exact (hg₁ hn).trans (.close g₁ _)

/-! ### Actions, waits, conditions and loops -/

section

variable {G : Standing → Prop}

theorem stays_performAction (payload : Value) :
    Stays t G (performAction payload scope location) := by
  refine stays_get_bind fun env => stays_request_bind (r := .perform _) trivial fun r _ => ?_
  cases r with
  | ok v => exact stays_pure v
  | error e => exact stays_throw fun h => nomatch h

theorem stays_waitFor (duration : Value) : Stays t G (waitFor duration scope) := by
  refine stays_get_bind fun env => ?_
  dsimp only
  split
  · exact stays_throw fun h => nomatch h
  · exact stays_request_bind (r := .sleep _ _) trivial fun _ hs =>
      stays_bind (stays_orCancelled hs) fun _ => stays_pure _

theorem stays_holds (c : Condition) : Stays t G (holds c) := by
  refine stays_get_bind fun env => ?_
  split
  · exact stays_pure _
  · exact stays_throw fun h => nomatch h

theorem stays_iteration {body : Nat → Exec (List Value)} (h : ∀ i, Stays t G (body i))
    (prepare : Environment → Environment) (i : Nat) :
    Stays t G (iteration scope prepare body i) := by
  refine stays_request_bind (r := .isCancelled _) trivial fun stopped hs =>
    stays_bind (stays_orCancelled fun hn => ?_) fun _ => stays_bind (stays_modify _) fun _ =>
      stays_bind (h i) fun results => stays_pure _
  exact hs (show stopped = true by simpa using hn)

theorem stays_forItems {body : Nat → Exec (List Value)} (h : ∀ i, Stays t G (body i))
    (key : String) : (items : List Value) → (i : Nat) → (acc : List Value) →
      Stays t G (forItems scope key body items i acc)
  | [], _, _ => stays_pure _
  | _ :: rest, i, _ => stays_bind (stays_iteration h _ i) fun _ =>
    stays_forItems h key rest (i + 1) _

theorem stays_forTimes {body : Nat → Exec (List Value)} (h : ∀ i, Stays t G (body i)) :
    (remaining i : Nat) → (acc : List Value) → Stays t G (forTimes scope body remaining i acc)
  | 0, _, _ => stays_pure _
  | remaining + 1, i, _ => stays_bind (stays_iteration h _ i) fun _ =>
    stays_forTimes h remaining (i + 1) _

theorem stays_whileHolds {body : Nat → Exec (List Value)} (h : ∀ i, Stays t G (body i))
    (c : Condition) : (remaining i : Nat) → (acc : List Value) →
      Stays t G (whileHolds scope (holds c) body remaining i acc)
  | 0, _, _ => stays_bind (stays_holds c) fun _ => stays_pure _
  | remaining + 1, i, _ => by
    refine stays_bind (stays_holds c) fun met => ?_
    cases met with
    | true =>
      exact stays_bind (stays_iteration h _ i) fun _ => stays_whileHolds h c remaining (i + 1) _
    | false => exact stays_pure _

theorem stays_loopItems (items : Option Value) : Stays t G (loopItems items) := by
  refine stays_get_bind fun env => ?_
  split
  · exact stays_pure _
  · exact stays_pure _
  · split
    · exact stays_pure _
    · exact stays_throw fun h => nomatch h
  · exact stays_throw fun h => nomatch h

/-- A loop leaves open what its iterations leave open. -/
theorem stays_loopResults {body : Nat → Exec (List Value)} (h : ∀ i, Stays t G (body i))
    (spec : LoopSpec) : Stays t G (loopResults config spec scope body) := by
  unfold loopResults
  cases spec.kind with
  | forEach =>
    exact stays_bind (stays_loopItems _) fun items =>
      stays_bind (stays_forItems h _ _ 0 []) fun _ => stays_pure _
  | whileTrue =>
    dsimp only
    split
    · exact stays_throw fun h => nomatch h
    · exact stays_whileHolds h _ _ 0 []
  | times =>
    refine stays_get_bind fun env => ?_
    dsimp only
    split
    · exact stays_throw fun h => nomatch h
    · exact stays_bind (stays_forTimes h _ 0 []) fun _ => stays_pure _

theorem stays_evaluateScript (source : String) (timeout : Option UInt64) :
    Stays t G (evaluateScript config source timeout scope location) := by
  refine stays_get_bind fun env => stays_request_bind (r := .evaluate _) trivial fun r _ => ?_
  cases r with
  | ok outcome => exact stays_bind (stays_modify _) fun _ => stays_pure _
  | error e =>
    dsimp only
    split
    · refine stays_request_bind (r := .isCancelled _) trivial fun stopped hs =>
        stays_throw fun h => ?_
      cases stopped with
      | true => exact hs rfl
      | false => exact nomatch h
    · exact stays_throw (t := t) (e := .scriptFailed e.message) fun h => nomatch h

theorem stays_subWorkflowId (workflowId : Value) : Stays t G (subWorkflowId workflowId) := by
  refine stays_get_bind fun env => ?_
  split
  · exact stays_throw fun h => nomatch h
  · exact stays_pure _

end

/-! ### Branches and sub-workflows -/

/-- Branches go on below the innermost open step, which stays open. -/
theorem stays_runBranches {branches : List (Flow BranchResult)}
    (h : ∀ b (hb : b < branches.length) (g' : Standing), t.Near g g' → ∀ closed,
      branches[b].Obeys t (fun _ g'' => ¬ t.cancels → g''.opened = [])
        ⟨g'.top ++ [.part (.branch b)], [], closed⟩) :
    Stays t (t.Near g) (runBranches scope branches) := by
  refine stays_lift_bind (q := fun ends => ends = none → t.cancels) (fun g' hg' => ?_)
    fun ends he => ?_
  · exact ⟨fun b closed => h b b.isLt g' hg' closed, fun ends he => ⟨he, hg'⟩⟩
  · cases ends with
    | none => exact stays_throw fun _ => he rfl
    | some ends => exact stays_pure _

/-- The steps of a frame may be opened: those of the run itself, or those of a run that the
innermost open step has called. -/
def Terms.Hosts (t : Terms) (scope : Scope) (g : Standing) : Prop :=
  ∀ i, t.Admits scope (.top i) g

theorem hosts_called (child : Scope) {home : Address} (hhome : t.home child.identity.executionId
    (home ++ [.call child.identity.executionId])) (htop : ¬ t.cancels → g.top = home) :
    t.Hosts child g := by
  refine fun i => ⟨_, hhome, fun hn => ⟨[.call child.identity.executionId], i, ?_, ?_⟩⟩
  · rw [htop hn]
    rfl
  · intro leg hleg
    rw [List.mem_singleton.mp hleg]
    exact id

/-- The frames that sub-workflows are run as open and close steps in order, and leave open what they
have found open. -/
def Terms.Runs (t : Terms) (runner : Option FrameRunner) : Prop :=
  ∀ run ∈ runner, ∀ (definition : Definition) (scope : Scope) (env : Environment) (g : Standing),
    t.Hosts scope g → (run definition scope env).Obeys t
      (fun ended g' => FrameEnd.Abides t.cancels ended ∧ t.Near g g') g

/-- A sub-workflow is run below the innermost open step. -/
theorem stays_callWorkflow {runner : Option FrameRunner} (hr : t.Runs runner)
    (hin : t.Inside scope location g) (workflowId : Value) (vars : Bindings Value) :
    Stays t (t.Near g) (callWorkflow config runner workflowId vars scope) := by
  refine stays_bind (stays_subWorkflowId workflowId) fun id =>
    stays_request_bind (r := .lookup _) trivial fun found _ => ?_
  cases found with
  | none => exact stays_throw fun h => nomatch h
  | some definition =>
    cases runner with
    | none => exact stays_throw fun h => nomatch h
    | some run =>
      refine stays_get_bind fun parent env g' hg' => ?_
      have hne : ¬ t.cancels → g'.opened ≠ [] ∧ g' = g' :=
        fun hn => ⟨hin.eq_of_near hg' hn ▸ hin.opened_ne_nil hn, rfl⟩
      refine ⟨g', hne, fun runId home => ?_⟩
      -- the run has an identifier now, and is known to be called from here
      let child : Scope := ⟨⟨definition.id, runId, scope.identity.target⟩, definition.onError,
        scope.token, scope.depth + 1⟩
      suffices hrest : Stays t (t.Near g) _ from hrest env g' hg'
      refine stays_lift_bind (q := FrameEnd.Abides t.cancels) (fun g₁ hg₁ => ?_) fun ended he => ?_
      · have hhosts : t.Hosts child g₁ := hosts_called child home fun hn => by
          rw [hin.eq_of_near hg' hn, hin.eq_of_near hg₁ hn]
        refine (hr run rfl definition child _ g₁ hhosts).mono fun ended g₂ h => ⟨h.1, fun hn => ?_⟩
        exact (hg₁ hn).trans (h.2 hn)
      · refine stays_bind (stays_modify _) fun _ => ?_
        split
        · exact stays_pure _
        · exact stays_throw fun _ => he _ ‹_› rfl
        · exact stays_throw fun h => nomatch h

/-! ### Kinds of step and lists -/

mutual

/-- What a step does in an attempt leaves open what is open. -/
theorem stays_dispatch {runner : Option FrameRunner} (hr : t.Runs runner) :
    (location : Location) → (step : Step) → (g : Standing) → t.Inside scope location g →
      Stays t (t.Near g) (dispatch config runner scope location step)
  | _, .action _ payload, _, _ => stays_performAction payload
  | location, .condition _ test whenTrue whenFalse, g, hin => by
    refine stays_bind (stays_holds test) fun met => ?_
    cases met with
    | true => exact stays_map _ (stays_runItems hr (location.child .whenTrue) g
        (hin.admits id) 0 [] whenTrue)
    | false => exact stays_map _ (stays_runItems hr (location.child .whenFalse) g
        (hin.admits id) 0 [] whenFalse)
  | location, .loop _ spec body, g, hin =>
    stays_bind (stays_loopResults (fun i => stays_runItems hr (location.child (.iteration i)) g
      (hin.admits id) 0 [] body) spec) fun _ => stays_pure _
  | _, .wait _ duration, _, _ => stays_waitFor duration
  | location, .parallel _ branches, g, hin => stays_get_bind fun env =>
    stays_runBranches fun b hb g' hg' closed => by
      have hbranch := obeys_branchFlows hr location g' (hin.near hg') 0 env branches b hb closed
      rwa [Nat.zero_add] at hbranch
  | _, .subWorkflow _ workflowId vars, _, hin => stays_callWorkflow hr hin workflowId vars
  | _, .script _ source timeout, _, _ => stays_evaluateScript source timeout

/-- A list of steps leaves open what is open. -/
theorem stays_runItems {runner : Option FrameRunner} (hr : t.Runs runner) :
    (location : Location) → (g : Standing) →
      (∀ i, t.Admits scope (location.child (.step i)) g) → (i : Nat) → (acc : List Value) →
      (steps : List Step) →
      Stays t (t.Near g) (runItems config runner scope location i acc steps)
  | _, _, _, _, _, [] => stays_pure _
  | location, g, ha, i, acc, step :: rest => by
    refine stays_observe_bind (stays_enter (ha i) fun g' hin =>
      stays_dispatch hr (location.child (.step i)) step g' hin)
      (fun v => stays_runItems hr location g ha (i + 1) (v :: acc) rest) fun e he => ?_
    cases e with
    | cancelled => exact stays_throw he
    | _ =>
      dsimp only
      split
      · exact stays_throw he
      · exact stays_runItems hr location g ha (i + 1) _ rest

/-- A branch leaves nothing open. -/
theorem obeys_branchFlows {runner : Option FrameRunner} (hr : t.Runs runner)
    (location : Location) (g : Standing) (hin : t.Inside scope location g) (b : Nat)
    (env : Environment) : (branches : List (List Step)) → (i : Nat) →
      (hi : i < (branchFlows config runner scope location b env branches).length) →
      (closed : List Event) →
      (branchFlows config runner scope location b env branches)[i].Obeys t
        (fun _ g' => ¬ t.cancels → g'.opened = [])
        ⟨g.top ++ [.part (.branch (b + i))], [], closed⟩
  | [], _, hi, _ => absurd hi (Nat.not_lt_zero _)
  | steps :: rest, 0, _, closed => by
    have hitems := stays_runItems hr (location.child (.branch b)) _
      (fun i => hin.admits_branch b i closed) 0 [] steps (env.forkBranch b) _ (.refl t _)
    refine Flow.Obeys.bind (fun p g' hp => ?_) _ hitems
    exact fun hn => (hp.2 hn).opened
  | steps :: rest, i + 1, hi, closed => by
    have hrest := obeys_branchFlows hr location g hin (b + 1) env rest i
      (Nat.lt_of_succ_lt_succ hi) closed
    rwa [Nat.add_right_comm] at hrest

end

/-- Every step is opened and closed in order. -/
theorem obeys_runStep {runner : Option FrameRunner} (hr : t.Runs runner) {step : Step}
    (h : t.Admits scope location g) (env : Environment) :
    ((runStep config runner step scope location).run.run env).Obeys t
      (step.Closes t scope location g) g :=
  obeys_enter h (fun g' hin => stays_dispatch hr location step g' hin) env

end Steps

end Workflow

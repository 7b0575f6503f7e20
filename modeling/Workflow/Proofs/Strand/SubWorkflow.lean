import Workflow.Proofs.Contract.Step
import Workflow.Proofs.Strand.Doings

/-!
# Sub-workflows are kept apart from the variables around them

The attempt at a sub-workflow step reads of the variables of its frame only what its identifier and
its variables resolve to, and of its frame only the target, the token and the depth. From then on it
is one flow, the same for all frames that agree on these: it asks for the same in the same order,
whatever it is answered, wherever it is cancelled and however its branches take turns. What it comes
to is written behind: the summary of the frame that was run goes into one variable, and all others
stay as they are.

## Main definitions

* `Workflow.SubCall` — what is read to call a sub-workflow.
* `Workflow.CallEnd` — what a call comes to, before anything of it is kept.
* `Workflow.SubCall.Goes` — which frame was run in the turns of a call, and how it has ended.
* `Workflow.CallEnd.Leaves` — what is kept of the end of a call.

## Main results

* `Workflow.run_callWorkflow` — the attempt at a sub-workflow step as a call and what is kept of it.
* `Workflow.subWorkflow_isolated` — what else the variables hold makes no difference to the call,
  and the call makes none to them beside its summary.
-/

namespace Workflow

open Exec

/-! ### Calls -/

/-- The identifier that a value names a workflow by; null names none. -/
def Template.subWorkflowId? (env : Environment) (workflowId : Value) : Option String :=
  match resolve workflowId env with
  | .null => none
  | v => some v.toText

/-- What is read to call a sub-workflow. -/
structure SubCall where
  id? : Option String
  /-- The variables that win over those of its definition. -/
  overrides : Bindings Value
  target : Option Value
  token : Token
  /-- How deep the calling frame is nested. -/
  depth : Nat

/-- What a call comes to. -/
inductive CallEnd where
  /-- No frame was run. -/
  | refused (e : StepError)
  | ran (id : String) (run : RunId) (ended : FrameEnd)

namespace CallEnd

/-- The result of the attempt. -/
def result : CallEnd → Except StepError Value
  | refused e => .error e
  | ran id run ended =>
    match ended.failure with
    | none => .ok (subWorkflowSummary id run ended)
    | some ⟨_, .cancelled⟩ => .error .cancelled
    | some f => .error (.subWorkflowFailed id f.error.message)

/-- The variables of the calling frame behind the call. -/
def leave : CallEnd → Environment → Environment
  | refused _, env => env
  | ran id run ended, env => env.set Key.subWorkflowResult (subWorkflowSummary id run ended)

/-- The result with the variables. -/
def keep (env : Environment) (e : CallEnd) : Except StepError Value × Environment :=
  (e.result, e.leave env)

end CallEnd

namespace SubCall

/-- What a step reads of its frame and of its variables. -/
def read (workflowId : Value) (vars : Bindings Value) (scope : Scope) (env : Environment) :
    SubCall :=
  ⟨Template.subWorkflowId? env workflowId, Template.resolveFields env vars, scope.identity.target,
    scope.token, scope.depth⟩

/-- The frame of the workflow that is called, on variables of its own. -/
def frame (call : SubCall) (run : FrameRunner) (definition : Definition) (runId : RunId) :
    Flow FrameEnd :=
  let identity : Identity := ⟨definition.id, runId, call.target⟩
  run definition ⟨identity, definition.onError, call.token, call.depth + 1⟩
    ((Environment.seed definition.vars call.overrides).stamp identity)

/-- The call as a flow. -/
def flow (config : Config) (runner : Option FrameRunner) (call : SubCall) : Flow CallEnd :=
  match call.id? with
  | none => .done (.refused (.invalidParameter "subWorkflow id resolved to null"))
  | some id => .ask (.lookup id) fun
    | none => .done (.refused (.workflowNotFound id))
    | some definition =>
      match runner with
      | none => .done (.refused (.tooDeep (call.depth + 1) config.maxDepth))
      | some run => .ask .freshId fun runId =>
        (call.frame run definition runId).bind fun ended => .done (.ran id runId ended)

end SubCall

/-! ### What a call comes to -/

/-- Which frame was run in the turns of a call, if one was, and what the call has come to by it. -/
inductive SubCall.Goes (config : Config) (runner : Option FrameRunner) (call : SubCall) :
    List Stroke → CallEnd → Prop
  | unnamed (hid : call.id? = none) :
      Goes config runner call [] (.refused (.invalidParameter "subWorkflow id resolved to null"))
  | unknown {id : String} {s : Stroke} (hid : call.id? = some id)
      (hs : s.deed = .answer (.lookup id) none) :
      Goes config runner call [s] (.refused (.workflowNotFound id))
  | tooDeep {id : String} {s : Stroke} {definition : Definition} (hid : call.id? = some id)
      (hs : s.deed = .answer (.lookup id) (some definition)) (hr : runner = none) :
      Goes config runner call [s] (.refused (.tooDeep (call.depth + 1) config.maxDepth))
  | ran {id : String} {s s' : Stroke} {definition : Definition} {run : FrameRunner} {runId : RunId}
      {l : List Stroke} {y : Strand FrameEnd} {ended : FrameEnd} (hid : call.id? = some id)
      (hs : s.deed = .answer (.lookup id) (some definition)) (hr : runner = some run)
      (hs' : s'.deed = .answer .freshId runId)
      (h : Follows (.line (call.frame run definition runId)) l y)
      (he : y.ended? = some (.ok ended)) :
      Goes config runner call (s :: s' :: l) (.ran id runId ended)

/-- A summary tells how a frame has ended. -/
structure FrameEnd.Summarized (id : String) (run : RunId) (ended : FrameEnd) (summary : Value) :
    Prop where
  workflow : summary.get? "workflowId" = some (.text id)
  execution : summary.get? "executionId" = some (.text run.text)
  success : summary.get? "success" = some (.bool true) ↔ ended.failure = none
  results : summary.get? "results" = some (.list (ended.record.steps.map StepRecord.toValue))
  vars : summary.get? "variables" =
    some (.record (ended.env.vars.filter fun e => e.1 ∉ ["_targetId", "_workflowId", "_executionId",
      "_loopIndex", "_branchIndex", "_subWorkflowResult"]))

/-- What the end of a call leaves of the variables of the calling frame, and what the attempt at the
step comes to: without a frame the variables are left as they are, otherwise one of them becomes the
summary. -/
def CallEnd.Leaves (env : Environment) :
    CallEnd → Except StepError Value → Environment → Prop
  | refused e, r, env' => r = .error e ∧ env' = env
  | ran id run ended, r, env' => ∃ summary, ended.Summarized id run summary ∧
    env' = env.set "_subWorkflowResult" summary ∧
      (ended.failure = none → r = .ok summary) ∧
        ∀ f, ended.failure = some f →
          r = .error (if f.error = .cancelled then .cancelled
            else .subWorkflowFailed id f.error.message)

theorem summarized_subWorkflowSummary (id : String) (run : RunId) (ended : FrameEnd) :
    ended.Summarized id run (subWorkflowSummary id run ended) where
  workflow := rfl
  execution := rfl
  success := by
    have hget : (subWorkflowSummary id run ended).get? "success" =
        some (.bool ended.failure.isNone) := rfl
    rw [hget]
    simp
  results := rfl
  vars := by
    have hget : (subWorkflowSummary id run ended).get? "variables" =
        some (.record ended.env.userVariables) := rfl
    rw [hget, Environment.userVariables]
    simp [Key.isReserved, Key.reserved, Key.target, Key.workflow, Key.execution, Key.loopIndex,
      Key.branchIndex, Key.subWorkflowResult]

variable {config : Config} {runner : Option FrameRunner} {scope : Scope} {call : SubCall}

/-- What is kept of a call is what its end leaves. -/
theorem leaves_keep (env : Environment) :
    (e : CallEnd) → e.Leaves env (e.keep env).1 (e.keep env).2
  | .refused _ => ⟨rfl, rfl⟩
  | .ran id run ended => by
    refine ⟨_, summarized_subWorkflowSummary id run ended, rfl, fun hf => ?_, fun f hf => ?_⟩
    · simp only [CallEnd.keep, CallEnd.result, hf]
    · obtain ⟨index, e⟩ := f
      simp only [CallEnd.keep, CallEnd.result, hf]
      cases e <;> rfl

/-- A call that has ended has gone so. -/
theorem goes_of_ended {l : List Stroke} {y : Strand CallEnd} {e : CallEnd}
    (h : Follows (.line (call.flow config runner)) l y) (he : y.ended? = some (.ok e)) :
    call.Goes config runner l e := by
  have hended : y.ended? ≠ none := by
    rw [he]
    exact Option.some_ne_none _
  -- a flow that is done is at rest, so nothing follows it
  have hdone : ∀ {l : List Stroke} {e' : CallEnd}, Follows (.line (.done e')) l y →
      l = [] ∧ e' = e := by
    intro l e' h
    obtain ⟨hl, rfl⟩ := follows_of_atRest (x := .line (.done e')) trivial h
    exact ⟨hl, Except.ok.inj (Option.some.inj he)⟩
  unfold SubCall.flow at h
  cases hid : call.id? with
  | none =>
    rw [hid] at h
    obtain ⟨rfl, rfl⟩ := hdone h
    exact .unnamed hid
  | some id =>
    rw [hid] at h
    obtain ⟨s, l, found, rfl, hs, h⟩ := follows_line_ask h not_false hended
    cases found with
    | none =>
      obtain ⟨rfl, rfl⟩ := hdone h
      exact .unknown hid hs
    | some definition =>
      cases runner with
      | none =>
        obtain ⟨rfl, rfl⟩ := hdone h
        exact .tooDeep hid hs rfl
      | some run =>
        obtain ⟨s', l, runId, rfl, hs', h⟩ := follows_line_ask h not_false hended
        obtain ⟨z, hz, rfl⟩ := follows_bind_done.mp
          (show Follows (Strand.bind (.line (call.frame run definition runId)) _) l y from h)
        rw [ended?_bind_done, Option.map_eq_some_iff] at he
        obtain ⟨_ | ended, hends, heq⟩ := he
        · exact nomatch heq
        · cases heq
          exact .ran hid hs rfl hs' hz hends

/-! ### Attempts at sub-workflow steps -/

private theorem run_get_bind {α β : Type} (g : Environment → Exec α) (f : α → Exec β)
    (env : Environment) :
    ((get >>= g) >>= f).run.run env = (g env >>= f).run.run env := rfl

/-- The attempt at a sub-workflow step is the call for what it reads; what the call comes to is
kept. -/
theorem run_callWorkflow (workflowId : Value) (vars : Bindings Value) (env : Environment) :
    (callWorkflow config runner workflowId vars scope).run.run env =
      ((SubCall.read workflowId vars scope env).flow config runner).bind
        fun e => .done (e.keep env) := by
  rw [callWorkflow, subWorkflowId, run_get_bind]
  unfold SubCall.flow SubCall.read Template.subWorkflowId?
  generalize Template.resolve workflowId env = v
  cases v with
  | null => rfl
  | _ =>
    refine congrArg (Flow.ask _) (funext fun found => ?_)
    cases found with
    | none => rfl
    | some definition =>
      cases runner with
      | none => rfl
      | some run =>
        refine congrArg (Flow.ask _) (funext fun runId => ?_)
        refine (run_lift_bind _ _ env).trans ?_
        rw [Flow.bind_assoc]
        refine congrArg (Flow.bind _) (funext fun ended => ?_)
        obtain ⟨record, failure, child⟩ := ended
        rcases failure with _ | ⟨index, e⟩
        · rfl
        · cases e <;> rfl

theorem resolveFields_congr {env₁ env₂ : Environment} :
    {vars : Bindings Value} →
      (∀ e ∈ vars, Template.resolveDeep env₁ e.2 = Template.resolveDeep env₂ e.2) →
        Template.resolveFields env₁ vars = Template.resolveFields env₂ vars
  | [], _ => rfl
  | (key, v) :: rest, h => by
    obtain ⟨hv, hrest⟩ := List.forall_mem_cons.mp h
    rw [Template.resolveFields, Template.resolveFields, hv, resolveFields_congr hrest]

/-- An attempt at a step keeps the contract of its frame with the depths that are left. -/
theorem keeps_attempt (config : Config) (depths : Nat) (scope : Scope) (location : Location)
    (step : Step) (env : Environment) :
    ((dispatch config (runnerWithin config depths) scope location step).run.run env).Keeps
      (.frame scope.token (scope.depth + depths) False) fun _ => True :=
  Flow.Keeps.mono (fun _ _ => trivial) _ (abides_dispatch (Nat.le_add_right _ _)
    (runnerAbides_within (Nat.le_refl _)) location step env)

/-- The attempt at a sub-workflow step makes the same requests, in the same order on every line and
with the same answers, whatever the variables hold beside what the step resolves and whatever the
frame is beside its target, token and depth. However it is answered, cancelled and scheduled, it
comes to the same end, of which it leaves the summary of the child frame and nothing else. -/
theorem subWorkflow_isolated (config : Config) (depths : Nat) {scope₁ scope₂ : Scope}
    (location₁ location₂ : Location) (info : StepInfo) (workflowId : Value) (vars : Bindings Value)
    {env₁ env₂ : Environment} (htarget : scope₁.identity.target = scope₂.identity.target)
    (htoken : scope₁.token = scope₂.token) (hdepth : scope₁.depth = scope₂.depth)
    (hid : Template.subWorkflowId? env₁ workflowId = Template.subWorkflowId? env₂ workflowId)
    (hvars : ∀ e ∈ vars, Template.resolveDeep env₁ e.2 = Template.resolveDeep env₂ e.2) :
    let runner := runnerWithin config depths
    let call := SubCall.read workflowId vars scope₁ env₁
    let step := Step.subWorkflow info workflowId vars
    let attempt₁ := (dispatch config runner scope₁ location₁ step).run.run env₁
    let attempt₂ := (dispatch config runner scope₂ location₂ step).run.run env₂
    -- whatever is answered, whenever the run is cancelled, and whichever branch takes a turn
    (∀ l z₁, Follows (.line attempt₁) l z₁ → ∃ z₂, Follows (.line attempt₂) l z₂ ∧
      (z₁.ended? = none ↔ z₂.ended? = none) ∧
        ∀ r env₁', z₁.ended? = some (.ok (r, env₁')) → ∃ e env₂', call.Goes config runner l e ∧
          z₂.ended? = some (.ok (r, env₂')) ∧ e.Leaves env₁ r env₁' ∧ e.Leaves env₂ r env₂') ∧
    -- while the collaborators answer as functions and nothing is cancelled
    ∀ w names, ∃ (e : CallEnd) (doings : Doings) (r : Except StepError Value)
        (env₁' env₂' : Environment), attempt₁.ComesTo w scope₁.token names (r, env₁') ∧
      attempt₂.ComesTo w scope₁.token names (r, env₂') ∧ e.Leaves env₁ r env₁' ∧
        e.Leaves env₂ r env₂' ∧ ∀ l z, Follows (.line attempt₁) l z ∨ Follows (.line attempt₂) l z →
          w.Attend scope₁.token names l → z.ended? ≠ none →
            ∀ line, doneOn line l = doings line := by
  intro runner call step attempt₁ attempt₂
  have hcall : SubCall.read workflowId vars scope₂ env₂ = call := by
    simp only [call, SubCall.read, hid, htarget, htoken, hdepth, resolveFields_congr hvars]
  have hattempt₁ : attempt₁ = (call.flow config runner).bind fun e => .done (e.keep env₁) :=
    run_callWorkflow workflowId vars env₁
  have hattempt₂ : attempt₂ = (call.flow config runner).bind fun e => .done (e.keep env₂) := by
    rw [← hcall]
    exact run_callWorkflow workflowId vars env₂
  refine ⟨fun l z₁ h => ?_, fun w names => ?_⟩
  · rw [hattempt₁] at h
    obtain ⟨y, hy, rfl⟩ := follows_bind_done.mp
      (show Follows (Strand.bind (.line (call.flow config runner)) _) l z₁ from h)
    refine ⟨y.bind fun e => .done (e.keep env₂), ?_, ?_, fun r env₁' hr => ?_⟩
    · rw [hattempt₂]
      exact follows_bind_done.mpr ⟨y, hy, rfl⟩
    · rw [ended?_bind_done, ended?_bind_done, Option.map_eq_none_iff, Option.map_eq_none_iff]
    · rw [ended?_bind_done, Option.map_eq_some_iff] at hr
      obtain ⟨_ | e, he, heq⟩ := hr
      · exact nomatch heq
      · cases heq
        refine ⟨e, _, goes_of_ended hy he, ?_, leaves_keep env₁ e, leaves_keep env₂ e⟩
        rw [ended?_bind_done, he]
        rfl
  · let e := ((call.flow config runner).outcome w names).1
    have hkeeps₁ := keeps_attempt config depths scope₁ location₁ step env₁
    have hkeeps₂ := keeps_attempt config depths scope₂ location₂ step env₂
    rw [← htoken] at hkeeps₂
    have hcomes₁ := comesTo_outcome w names hkeeps₁
    have hcomes₂ := comesTo_outcome w names hkeeps₂
    have hdoings₁ : attempt₁.doings w names = (call.flow config runner).doings w names := by
      rw [hattempt₁, Flow.doings_bind_done]
    have hdoings₂ : attempt₂.doings w names = (call.flow config runner).doings w names := by
      rw [hattempt₂, Flow.doings_bind_done]
    have houtcome₁ : (attempt₁.outcome w names).1 = e.keep env₁ := by
      rw [hattempt₁, Flow.outcome_bind]
      rfl
    have houtcome₂ : (attempt₂.outcome w names).1 = e.keep env₂ := by
      rw [hattempt₂, Flow.outcome_bind]
      rfl
    rw [houtcome₁] at hcomes₁
    rw [houtcome₂] at hcomes₂
    refine ⟨e, (call.flow config runner).doings w names, e.result, e.leave env₁, e.leave env₂,
      hcomes₁, hcomes₂, leaves_keep env₁ e, leaves_keep env₂ e, fun l z h ha hz line => ?_⟩
    obtain ⟨e', he'⟩ := Option.ne_none_iff_exists'.mp hz
    rcases h with h | h
    · rw [doneOn_eq h hkeeps₁ ha he', hdoings₁]
    · rw [doneOn_eq h hkeeps₂ ha he', hdoings₂]

/-- The placeholder of the user stands for what the user is bound to. -/
private theorem resolveDeep_user (env : Environment) {v : Value} (h : env.get? "user" = some v) :
    Template.resolveDeep env (.text "$\x7buser\x7d") = v := by
  have hpieces : Template.pieces "$\x7buser\x7d" = [.hole ['u', 's', 'e', 'r']] := by
    change Template.scan ['$', '\x7b', 'u', 's', 'e', 'r', '\x7d'] = _
    rw [Template.scan]
    split
    · next hbehind =>
      cases hbehind
      rw [if_neg (by decide), Template.scan]
      rfl
    · next hbehind => cases hbehind
  have hsole : Template.sole? "$\x7buser\x7d" = some "user" := by
    rw [Template.sole?, hpieces]
    rfl
  rw [Template.resolveDeep, Template.resolve, Template.resolveText, hsole]
  · simp only [Environment.lookup?, h, Option.getD_some]
  · rintro _ ⟨⟩
  · rintro _ ⟨⟩

private def adaScope (run : Nat) : Scope := ⟨⟨"parent", .ofNat run, none⟩, .stop, 0, 0⟩

private def adaEnv : Environment := ⟨[("user", .text "ada")]⟩

private def busyEnv : Environment :=
  ⟨[("_workflowId", .text "forged"), ("greeting", .text "hello"), ("user", .text "ada")]⟩

private def adaCall : Step :=
  .subWorkflow Step.plain (.text "child") [("who", .text "$\x7buser\x7d")]

/-- The child is registered, and every action gives what it is handed. -/
private def adaHost : Collaborators :=
  ⟨fun r => .ok r.payload, fun _ => .error .disabled,
    fun _ => some (.named "child" [.ofAction (.text "$\x7bwho\x7d")])⟩

private def adaNames : Names := fun _ n => .ofNat (n + 3)

/-- A sub-workflow that is handed the user, called from two runs whose variables have nothing else
in common. -/
theorem subWorkflow_isolated_ada : ∃ (e : CallEnd) (r : Except StepError Value)
    (env₁ env₂ : Environment),
    let attempt (run place : Nat) (env : Environment) :=
      (dispatch .default (runnerWithin .default 8) (adaScope run) (.top place) adaCall).run.run env
    (attempt 1 0 adaEnv).ComesTo adaHost 0 adaNames (r, env₁) ∧
      (attempt 2 5 busyEnv).ComesTo adaHost 0 adaNames (r, env₂) ∧
        e.Leaves adaEnv r env₁ ∧ e.Leaves busyEnv r env₂ := by
  have hid : Template.subWorkflowId? adaEnv (.text "child") =
      Template.subWorkflowId? busyEnv (.text "child") := by
    have hpieces : Template.pieces "child" =
        [.literal 'c', .literal 'h', .literal 'i', .literal 'l', .literal 'd'] := by
      simp [Template.pieces, Template.scan]
    simp only [Template.subWorkflowId?, Template.resolve, Template.resolveText, Template.sole?,
      Template.render, hpieces]
    rfl
  have hvars : ∀ e ∈ [("who", Value.text "$\x7buser\x7d")],
      Template.resolveDeep adaEnv e.2 = Template.resolveDeep busyEnv e.2 := by
    intro e he
    rw [List.mem_singleton.mp he, resolveDeep_user adaEnv rfl, resolveDeep_user busyEnv rfl]
  obtain ⟨-, h⟩ := @subWorkflow_isolated .default 8 (adaScope 1) (adaScope 2) (.top 0) (.top 5)
    Step.plain (.text "child") [("who", .text "$\x7buser\x7d")] adaEnv busyEnv rfl rfl rfl hid hvars
  obtain ⟨e, -, r, env₁, env₂, h₁, h₂, hleaves₁, hleaves₂, -⟩ := h adaHost adaNames
  exact ⟨e, r, env₁, env₂, h₁, h₂, hleaves₁, hleaves₂⟩

end Workflow

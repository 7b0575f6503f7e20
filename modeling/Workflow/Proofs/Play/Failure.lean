import Workflow.Proofs.Play.Retry

/-!
# What a failed step leaves in the variables

In any world, also one that tells of cancellations, a step that runs no steps in its own variables
leaves only the identity of its run there when it fails, however often it was tried and for whatever
reason it fails; when it succeeds at last, the variables are changed by that attempt and its output
variable only. The call of a sub-workflow that fails leaves at most a summary beside, and not even
that if it fails before the other workflow has started.

## Main definitions

* `Workflow.Step.IsLeaf`, `Workflow.Step.IsCall` — kinds of steps by what they do to variables.
* `Workflow.Step.Effects` — what an attempt that succeeds does to the variables.
* `Workflow.Juncture.HasNamed` — a run was given an identifier since an earlier juncture.

## Main results

* `Workflow.play_attempts_cases` — what failed attempts keep holds when the last attempt begins.
* `Workflow.failure_leaves_no_trace` — what steps leave that fail, or succeed after failures.
-/

namespace Workflow

open Exec

/-! ### Kinds of steps -/

namespace Step

/-- The step is an action, a wait, a parallel step or a script. -/
def IsLeaf : Step → Prop
  | action .. => True
  | wait .. => True
  | parallel .. => True
  | script .. => True
  | _ => False

/-- The step calls another workflow. -/
def IsCall : Step → Prop
  | subWorkflow .. => True
  | _ => False

/-- What an attempt that comes to a value does to the variables: a script writes those that it hands
back with the value, any other step nothing. -/
def Effects (step : Step) (v : Value) (m m' : Juncture) : Prop :=
  match step with
  | script .. => ∃ request outcome,
      m'.past = m.past ++ [.answered (.evaluate request) (.ok outcome)] ∧ v = outcome.result ∧
        m'.env = m.env.replaceUserVariables outcome.vars
  | _ => m'.env = m.env

end Step

namespace Juncture

/-- A run was given an identifier since an earlier juncture. -/
def HasNamed (m' m : Juncture) (run : RunId) : Prop :=
  Exchange.answered .freshId run ∈ m'.since m

/-- The variables after some exchanges are as given, or have the summary of a run written into them
that was given its identifier there. -/
structure Called (m : Juncture) (env : Environment) (m' : Juncture) : Prop where
  later : m.past <+: m'.past
  env : m'.env = env ∨ ∃ id run ended, m'.HasNamed m run ∧
    m'.env = env.set Key.subWorkflowResult (subWorkflowSummary id run ended)

variable {w : World} {m m' m'' : Juncture} {env : Environment} {run : RunId}

theorem since_of_append {added : List Exchange} (h : m'.past = m.past ++ added) :
    m'.since m = added := by rw [since, h, List.drop_left]

/-- What was exchanged since a juncture was exchanged up to a later one, or since then. -/
theorem since_eq_append (hm : m.past <+: m'.past) (hm' : m'.past <+: m''.past) :
    m''.since m = m'.since m ++ m''.since m' := by
  obtain ⟨added, hadded⟩ := hm
  obtain ⟨more, hmore⟩ := hm'
  have hall : m''.past = m.past ++ (added ++ more) := by rw [← List.append_assoc, hadded, hmore]
  rw [since_of_append hall, since_of_append hadded.symm, since_of_append hmore.symm]

theorem HasNamed.mono (h : m'.HasNamed m run) (hm : m.past <+: m'.past)
    (hm' : m'.past <+: m''.past) : m''.HasNamed m run := by
  rw [HasNamed, since_eq_append hm hm']
  exact List.mem_append_left _ h

theorem HasNamed.of_later (h : m''.HasNamed m' run) (hm : m.past <+: m'.past)
    (hm' : m'.past <+: m''.past) : m''.HasNamed m run := by
  rw [HasNamed, since_eq_append hm hm']
  exact List.mem_append_right _ h

theorem hasNamed_freshId (w : World) (m : Juncture) :
    (m.ask w .freshId).HasNamed m (w.answer m.past .freshId) := by
  have hasked : (m.ask w .freshId).past = m.past ++ _ := rfl
  rw [HasNamed, since_of_append hasked]
  exact .head _

theorem prefix_ask (w : World) (m : Juncture) (r : Request) : m.past <+: (m.ask w r).past :=
  List.prefix_append _ _

theorem Called.ask (h : m.Called env m') (r : Request) : m.Called env (m'.ask w r) where
  later := h.later.trans (prefix_ask w m' r)
  env := h.env.imp id fun ⟨id, run, ended, hnamed, hsummary⟩ =>
    ⟨id, run, ended, hnamed.mono h.later (prefix_ask w m' r), hsummary⟩

/-- What is called after something was called leaves the last summary only. -/
theorem Called.trans (h : m.Called env m') (h' : m'.Called m'.env m'') : m.Called env m'' where
  later := h.later.trans h'.later
  env := by
    rcases h'.env with hsame | ⟨id, run, ended, hnamed, hsummary⟩
    · rw [hsame]
      exact h.env.imp (fun henv => henv) fun ⟨id, run, ended, hnamed, hsummary⟩ =>
        ⟨id, run, ended, hnamed.mono h.later h'.later, hsummary⟩
    · refine .inr ⟨id, run, ended, hnamed.of_later h.later h'.later, ?_⟩
      rcases h.env with hsame | ⟨_, _, _, _, hearlier⟩
      · rw [hsummary, hsame]
      · rw [hsummary, hearlier, Environment.set_set]

end Juncture

section Steps

variable {w : World} {config : Config} {depths : Nat} {step : Step} {scope : Scope}
  {location : Location} {m : Juncture}

/-! ### Attempts in any world -/

theorem play_orCancelled_bind {α : Type} (goesOn : Bool) (f : Unit → Exec α) :
    (orCancelled goesOn >>= f).play w m =
      if goesOn then (f ()).play w m else (.error .cancelled, m) := by
  cases goesOn <;> rfl

/-- What holds before the first attempt and is kept by attempts that fail, and by requests, holds
where all attempts have failed, and before the attempt that has succeeded. -/
theorem play_attemptsFrom_cases {I : Juncture → Prop} {schedule : RetrySchedule}
    {attempt : Exec Value} (hask : ∀ m r, I m → I (m.ask w r))
    (hfail : ∀ m e m', I m → attempt.play w m = (.error e, m') → I m') :
    (remaining done : Nat) → (m : Juncture) → I m →
      let p := (attemptsFrom scope location schedule attempt remaining done).play w m
      (∀ e, p.1 = .error e → I p.2) ∧
        ∀ v, p.1 = .ok v → ∃ last, I last ∧ attempt.play w last = (.ok v, p.2)
  | 0, _, m, hm =>
    ⟨fun e he => hfail m e _ hm (Prod.ext he rfl), fun v hv => ⟨m, hm, Prod.ext hv rfl⟩⟩
  | remaining + 1, done, m, hm => by
    intro p
    rcases hattempt : attempt.play w m with ⟨e | v, m'⟩
    · have hm' : I m' := hfail m e m' hm hattempt
      have hp : p = _ := play_observe_bind w m attempt _
      rw [hattempt] at hp
      dsimp only at hp
      split at hp
      · have hslept (event : Event) :
            I ((m'.ask w (.publish event)).ask w (.sleep scope.token schedule.delay)) :=
          hask _ _ (hask m' _ hm')
        rw [play_publish_bind, play_request_bind, play_orCancelled_bind] at hp
        split at hp
        · rw [hp]
          exact play_attemptsFrom_cases hask hfail remaining (done + 1) _ (hslept _)
        · rw [hp]
          exact ⟨fun _ _ => hslept _, fun _ hv => nomatch hv⟩
      · rw [hp]
        exact ⟨fun _ _ => hm', fun _ hv => nomatch hv⟩
    · have hp : p = (.ok v, m') := by
        refine (play_observe_bind w m attempt _).trans ?_
        rw [hattempt]
        rfl
      rw [hp]
      refine ⟨fun _ he => (nomatch he), fun v' hv => ⟨m, hm, ?_⟩⟩
      rw [hattempt, Except.ok.inj hv]

/-- A step that its boundary refuses does nothing. -/
theorem play_runStep_of_refused (h : w.answer m.past .boundary = false) :
    (runStep config (runnerWithin config depths) step scope location).play w m =
      (.error .cancelled, m.ask w .boundary) := by
  rw [runStep, enter_eq, play_request_bind, h]
  rfl

/-- A step that passes its boundary comes to what its attempts come to; a value is stored. -/
theorem play_runStep_of_passed (config : Config) (depths : Nat) (step : Step) (scope : Scope)
    (location : Location) (h : w.answer m.past .boundary = true) :
    let p := (runStep config (runnerWithin config depths) step scope location).play w m
    let q := (attempts scope location (RetrySchedule.ofPolicy? step.info.retry config)
      (step.attempt config scope location depths)).play w (step.opened scope location w m)
    p.1 = q.1 ∧ p.2.env = step.kept q.2.env q.1 ∧ q.2.past <+: p.2.past := by
  intro p q
  have hp : p = (step.conclude scope location q.1).play w q.2 := Step.play_runStep_eq_conclude h
  by_cases hcancelled : q.1 = .error .cancelled
  · rw [hp, hcancelled]
    exact ⟨rfl, rfl, List.prefix_rfl⟩
  · rw [hp, Step.play_conclude hcancelled]
    exact ⟨rfl, rfl, List.prefix_append _ _⟩

/-! ### Single attempts -/

theorem env_performAction (payload : Value) :
    ((performAction payload scope location).play w m).2.env = m.env := by
  rw [performAction, play_get_bind, play_request_bind]
  split <;> rfl

theorem env_waitFor (duration : Value) : ((waitFor duration scope).play w m).2.env = m.env := by
  rw [waitFor, play_get_bind]
  dsimp only
  split
  · rfl
  · rw [play_request_bind, play_orCancelled_bind]
    split <;> rfl

theorem env_runBranches (branches : List (Flow BranchResult)) :
    ((runBranches scope branches).play w m).2.env = m.env := by
  rw [runBranches, play_lift_bind, Flow.play]
  split <;> rfl

/-- A script that fails writes nothing, and one that succeeds what it hands back. -/
theorem play_evaluateScript_cases (source : String) (timeout : Option UInt64) :
    let p := (evaluateScript config source timeout scope location).play w m
    (∀ e, p.1 = .error e → p.2.env = m.env) ∧ ∀ v, p.1 = .ok v → ∃ request outcome,
      p.2.past = m.past ++ [.answered (.evaluate request) (.ok outcome)] ∧ v = outcome.result ∧
        p.2.env = m.env.replaceUserVariables outcome.vars := by
  intro p
  have hp : p = (evaluateScript config source timeout scope location).play w m := rfl
  rw [evaluateScript, play_get_bind, play_request_bind] at hp
  split at hp
  · next outcome houtcome =>
    rw [hp]
    refine ⟨fun _ he => (nomatch he), fun v hv =>
      ⟨⟨source, m.env.vars, scriptLimit config timeout, scope.token, scope.identity.executionId,
        location⟩, outcome, ?_, (Except.ok.inj hv).symm, rfl⟩⟩
    rw [← houtcome]
    rfl
  · split at hp
    · rw [play_request_bind] at hp
      rw [hp]
      exact ⟨fun _ _ => rfl, fun _ hv => nomatch hv⟩
    · rw [hp]
      exact ⟨fun _ _ => rfl, fun _ hv => nomatch hv⟩

/-- A single attempt at a step that runs no steps in its own variables. -/
theorem play_dispatch_of_isLeaf (hs : step.IsLeaf) :
    let p := (dispatch config (runnerWithin config depths) scope location step).play w m
    (∀ e, p.1 = .error e → p.2.env = m.env) ∧ ∀ v, p.1 = .ok v → step.Effects v m p.2 := by
  cases step with
  | action info payload =>
    exact ⟨fun _ _ => env_performAction payload, fun _ _ => env_performAction payload⟩
  | wait info duration => exact ⟨fun _ _ => env_waitFor duration, fun _ _ => env_waitFor duration⟩
  | parallel info branches => exact ⟨fun _ _ => env_runBranches _, fun _ _ => env_runBranches _⟩
  | script info source timeout => exact play_evaluateScript_cases source timeout
  | _ => exact hs.elim

/-- The identifier of a sub-workflow is found without asking for anything. -/
theorem play_subWorkflowId (w : World) (m : Juncture) (workflowId : Value) :
    ((subWorkflowId workflowId).play w m).2 = m := by
  rw [subWorkflowId, play_get_bind]
  split <;> rfl

/-- A single call of a workflow writes at most a summary, and nothing before the workflow has been
given its run. -/
theorem called_callWorkflow (w : World) (m : Juncture) (config : Config)
    (runner : Option FrameRunner) (workflowId : Value) (vars : Bindings Value) (scope : Scope) :
    m.Called m.env ((callWorkflow config runner workflowId vars scope).play w m).2 := by
  have hid := play_subWorkflowId w m workflowId
  have hstay : m.Called m.env m := ⟨List.prefix_rfl, .inl rfl⟩
  rw [callWorkflow, play_bind]
  rcases hfound : (subWorkflowId workflowId).play w m with ⟨e | id, m'⟩
  · rw [hfound] at hid
    exact hid ▸ hstay
  obtain rfl : m' = m := by rw [hfound] at hid; exact hid
  dsimp only
  rw [play_request_bind]
  split
  · exact hstay.ask _
  cases runner with
  | none => exact hstay.ask _
  | some run =>
    dsimp only
    rw [play_get_bind, play_request_bind, play_lift_bind, play_modify_bind]
    generalize run _ _ _ = frame
    set named := (m'.ask w (.lookup id)).ask w .freshId
    have hlater : m'.past <+: (frame.play w named.past).2 :=
      (((Juncture.prefix_ask w m' _).trans (Juncture.prefix_ask w _ _)).trans
        (Flow.prefix_play w frame named.past))
    have hfresh : Juncture.HasNamed ⟨m'.env, (frame.play w named.past).2⟩ m' _ :=
      ((Juncture.hasNamed_freshId w (m'.ask w (.lookup id))).of_later (Juncture.prefix_ask w m' _)
        (Juncture.prefix_ask w _ _)).mono
          ((Juncture.prefix_ask w m' _).trans (Juncture.prefix_ask w _ _))
          (Flow.prefix_play w frame named.past)
    split
    all_goals exact ⟨hlater, .inr ⟨_, _, _, hfresh, rfl⟩⟩

/-! ### Steps -/

/-- An attempt is marked with the variables it begins with. -/
theorem play_attempt :
    (step.attempt config scope location depths).play w m =
      (dispatch config (runnerWithin config depths) scope location step).play w
        (m.ask w (.attempt ⟨step, scope, location, m.env⟩)) := by
  rw [Step.attempt, play_get_bind, play_request_bind]

/-- What holds of a step that has started, and is kept by attempts that fail and by requests, holds
when its attempts have failed, and before the attempt that has succeeded. -/
theorem play_attempts_cases (w : World) (m : Juncture) (config : Config) (depths : Nat)
    (step : Step) (scope : Scope) (location : Location) (schedule : Option RetrySchedule)
    {I : Juncture → Prop} (hopened : I (step.opened scope location w m))
    (hask : ∀ m r, I m → I (m.ask w r))
    (hfail : ∀ m e m', I m →
      (step.attempt config scope location depths).play w m = (.error e, m') → I m') :
    let q := (attempts scope location schedule (step.attempt config scope location depths)).play w
      (step.opened scope location w m)
    (∀ e, q.1 = .error e → I q.2) ∧
      ∀ v, q.1 = .ok v → ∃ last, I last ∧
        (step.attempt config scope location depths).play w last = (.ok v, q.2) := by
  rw [attempts_eq]
  exact play_attemptsFrom_cases hask hfail _ 0 _ hopened

/-- Attempts at a leaf that fail leave the variables as they were when it started. -/
theorem play_attempts_of_isLeaf (w : World) (m : Juncture) (config : Config) (depths : Nat)
    (scope : Scope) (location : Location) (hleaf : step.IsLeaf) (schedule : Option RetrySchedule) :
    let opened := step.opened scope location w m
    let q := (attempts scope location schedule (step.attempt config scope location depths)).play w
      opened
    (∀ e, q.1 = .error e → q.2.env = opened.env) ∧
      ∀ v, q.1 = .ok v → ∃ before : Juncture, opened.past <+: before.past ∧
        before.env = opened.env ∧
        (step.attempt config scope location depths).play w before = (.ok v, q.2) := by
  intro opened q
  obtain ⟨hfailed, hdone⟩ := play_attempts_cases w m config depths step scope location schedule
    (I := fun m' => opened.past <+: m'.past ∧ m'.env = opened.env)
    ⟨List.prefix_rfl, rfl⟩
    (fun m' r hm' => ⟨hm'.1.trans (Juncture.prefix_ask w m' r), hm'.2⟩)
    (fun m' e m'' hm' hplay => by
      obtain ⟨hlater, henv⟩ := hm'
      have hadded := past_play_append w m' (step.attempt config scope location depths)
      rw [hplay] at hadded
      refine ⟨hlater.trans ⟨_, hadded.symm⟩, Eq.trans ?_ henv⟩
      rw [play_attempt] at hplay
      have hkept := (play_dispatch_of_isLeaf hleaf).1 e (congrArg Prod.fst hplay)
      rwa [hplay] at hkept)
  refine ⟨fun e he => (hfailed e he).2, fun v hv => ?_⟩
  obtain ⟨before, ⟨hlater, henv⟩, hplay⟩ := hdone v hv
  exact ⟨before, hlater, henv, hplay⟩

/-- Attempts at a call that fail leave at most the last summary. -/
theorem called_attempts_of_isCall (hcall : step.IsCall) (schedule : Option RetrySchedule) :
    let opened := step.opened scope location w m
    let q := (attempts scope location schedule (step.attempt config scope location depths)).play w
      opened
    ∀ e, q.1 = .error e → opened.Called opened.env q.2 := by
  intro opened q
  refine (play_attempts_cases w m config depths step scope location schedule
    (I := opened.Called opened.env) ⟨List.prefix_rfl, .inl rfl⟩ (fun m' r hm' => hm'.ask r)
    fun m' e m'' hm' hplay => ?_).1
  rw [play_attempt] at hplay
  cases step with
  | subWorkflow info workflowId vars =>
    have hcalled := called_callWorkflow w
      (m'.ask w (.attempt ⟨.subWorkflow info workflowId vars, scope, location, m'.env⟩)) config
      (runnerWithin config depths) workflowId vars scope
    rw [dispatch] at hplay
    rw [hplay] at hcalled
    exact (hm'.ask _).trans hcalled
  | _ => exact hcall.elim

end Steps

/-- What steps leave in the variables, in any world. A step that its boundary refuses leaves them as
they are. A leaf that fails leaves the identity of its run only; one that succeeds does so with an
attempt that begins with these variables, and leaves what this attempt writes and its value in its
output variable. The call of a workflow that fails leaves beside at most the summary of a run that
was given its identifier since the step began. -/
theorem failure_leaves_no_trace (w : World) (config : Config) (depths : Nat) (step : Step)
    (scope : Scope) (location : Location) (m : Juncture) :
    let p := (runStep config (runnerWithin config depths) step scope location).play w m
    let env := m.env.stamp scope.identity
    (w.answer m.past .boundary = false → p = (.error .cancelled, m.ask w .boundary)) ∧
    (w.answer m.past .boundary = true →
      (step.IsLeaf →
        (∀ e, p.1 = .error e → p.2.env = env) ∧
        ∀ v, p.1 = .ok v → ∃ before after : Juncture,
          (m.ask w .boundary).past <+: before.past ∧ before.env = env ∧
          (dispatch config (runnerWithin config depths) scope location step).play w
            (before.ask w (.attempt ⟨step, scope, location, env⟩)) = (.ok v, after) ∧
          step.Effects v (before.ask w (.attempt ⟨step, scope, location, env⟩)) after ∧
          p.2.env = step.info.store v after.env) ∧
      (step.IsCall → ∀ e, p.1 = .error e → p.2.env = env ∨ ∃ id run ended, p.2.HasNamed m run ∧
        p.2.env = env.set Key.subWorkflowResult (subWorkflowSummary id run ended))) := by
  intro p env
  refine ⟨play_runStep_of_refused, fun hpass => ?_⟩
  obtain ⟨hresult, henv, hpast⟩ := play_runStep_of_passed config depths step scope location hpass
  have hopened : (step.opened scope location w m).env = env := rfl
  refine ⟨fun hleaf => ?_, fun hcall e he => ?_⟩
  · obtain ⟨hfailed, hdone⟩ := play_attempts_of_isLeaf w m config depths scope location hleaf
      (RetrySchedule.ofPolicy? step.info.retry config)
    refine ⟨fun e he => ?_, fun v hv => ?_⟩
    · have hq := hresult.symm.trans he
      rw [henv, hq]
      exact hfailed e hq
    · have hq := hresult.symm.trans hv
      obtain ⟨before, hlater, hbefore, hplay⟩ := hdone v hq
      rw [play_attempt, hbefore, hopened] at hplay
      have heffects := (play_dispatch_of_isLeaf hleaf).2 v (congrArg Prod.fst hplay)
      rw [hplay] at heffects
      refine ⟨before, _, ?_, hbefore.trans hopened, hplay, heffects, ?_⟩
      · exact (Juncture.prefix_ask _ _ _).trans hlater
      · rw [henv, hq]
        rfl
  · have hq := hresult.symm.trans he
    have hstarted : m.past <+: (step.opened scope location w m).past :=
      (Juncture.prefix_ask w m .boundary).trans (List.prefix_append _ _)
    have hcalled := called_attempts_of_isCall hcall _ e hq
    rw [henv, hq]
    refine hcalled.env.imp id fun ⟨id, run, ended, hnamed, hsummary⟩ => ?_
    exact ⟨id, run, ended,
      (hnamed.of_later hstarted hcalled.later).mono (hstarted.trans hcalled.later) hpast, hsummary⟩

/-- A host whose scripts run out of time until one did, and then hand back a variable of theirs. -/
private def moody : World where
  answer past
    | .evaluate _ =>
      if past.any (fun | .answered (.evaluate _) _ => true | _ => false) then
        .ok ⟨.bool true, [("mood", .text "good")]⟩
      else .error (.timedOut 5)
    | r => (World.granting fun _ _ => .ok .null).answer past r
  join _ _ _ := some []

/-- A script that may be tried once more. -/
private def patient : Step :=
  .script { Step.plain with retry := some ⟨true, some 1, some 0⟩, outputVariable := some "done" } ""
    none

private def moodyScope : Scope := ⟨⟨"moody", .ofNat 0, none⟩, .stop, 0, 0⟩

/-- The script that succeeds at its second attempt begins that with nothing changed but the
identity of its run. -/
theorem failure_leaves_no_trace_moody :
    let m : Juncture := ⟨⟨[("x", .null)]⟩, []⟩
    let env := m.env.stamp moodyScope.identity
    let p := (runStep .default (runnerWithin .default 0) patient moodyScope (.top 0)).play moody m
    moody.answer m.past .boundary = true ∧ patient.IsLeaf ∧
    ∃ (v : Value) (before after : Juncture), p.1 = .ok v ∧ before.env = env ∧
      patient.Effects v (before.ask moody (.attempt ⟨patient, moodyScope, .top 0, env⟩)) after ∧
      p.2.env = after.env.set "done" v := by
  intro m env p
  have hpass : moody.answer m.past .boundary = true := rfl
  have hok : p.1.isOk := by decide +kernel
  obtain ⟨-, h⟩ := failure_leaves_no_trace moody .default 0 patient moodyScope (.top 0) m
  cases hp : p.1 with
  | error e => simp [hp, Except.isOk, Except.toBool] at hok
  | ok v =>
    obtain ⟨before, after, -, hbefore, -, heffects, henv⟩ := ((h hpass).1 trivial).2 v hp
    exact ⟨hpass, trivial, v, before, after, rfl, hbefore, heffects, henv⟩

end Workflow

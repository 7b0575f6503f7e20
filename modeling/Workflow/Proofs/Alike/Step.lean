import Workflow.Proofs.Alike.Flow
import Workflow.Proofs.Contract.Step
import Workflow.Run.Execution

/-!
# Lists and frames apply one error policy

A list of steps within a step and the frame of a workflow each decide for themselves whether a
failure ends them, and keep different accounts: the one leaves results, the other a log, and only a
frame notes its progress. But they decide alike. A step asks for the same wherever it stands, so a
list and a frame of the same steps ask for the same one after the other, whatever they are answered,
whichever steps fail and whenever they are cancelled; they leave the same variables, end with the
same error or none, and what the log tells is what stands in the results, entry by entry.

## Main definitions

* `Workflow.Exec.Alike` — flows with variables that ask for the same, wherever their steps stand.
* `Workflow.StepRecord.entry` — the entry of a logged step in the results of a list.
* `Workflow.Matches` — what a list comes to is what a frame comes to.
* `Workflow.Agree` — a list and a frame do the same and come to the same.

## Main results

* `Workflow.alike_runStep` — a step asks for the same wherever it stands.
* `Workflow.alike_frameFrom` — a frame goes on as the list of the same steps does.
* `Workflow.list_agrees_with_frame` — lists and frames of the same steps agree.
-/

namespace Workflow

open Exec

variable {α β : Type}

/-! ### Flows with variables -/

namespace Exec

/-- From any variables on, two flows ask for the same, wherever their steps stand, and come to the
same. -/
def Alike (x y : Exec α) : Prop := ∀ env, (x.run.run env).Alike Eq (y.run.run env)

theorem alike_refl (x : Exec α) : Alike x x := fun env => .refl (x.run.run env)

theorem alike_bind {x y : Exec α} {f g : α → Exec β} (hx : Alike x y)
    (hf : ∀ a, Alike (f a) (g a)) : Alike (x >>= f) (y >>= g) := by
  intro env
  refine Flow.Alike.bind (hx env) ?_
  rintro ⟨e | a, env'⟩ _ rfl
  · exact .refl _
  · exact hf a env'

theorem alike_bind_right (x : Exec α) {f g : α → Exec β} (hf : ∀ a, Alike (f a) (g a)) :
    Alike (x >>= f) (x >>= g) := alike_bind (alike_refl x) hf

theorem alike_map {x y : Exec α} (f : α → β) (hx : Alike x y) : Alike (f <$> x) (f <$> y) :=
  alike_bind hx fun a => alike_refl (pure (f a))

theorem alike_get_bind {f g : Environment → Exec β} (hf : ∀ env, Alike (f env) (g env)) :
    Alike (get >>= f) (get >>= g) := fun env => hf env env

theorem alike_request_bind {r r' : Request} (h : r.Alike r') {f : r.Answer → Exec β}
    {g : r'.Answer → Exec β} (hf : ∀ a, Alike (f a) (g (h.answer a))) :
    Alike (request r >>= f) (request r' >>= g) := by
  intro env
  rw [request, request, run_lift_bind, run_lift_bind]
  exact .ask h fun a => hf a env

theorem alike_publish (e : Event) (p p' : EventPlace) :
    Alike (publish (e.placed p)) (publish (e.placed p')) :=
  fun _ => .ask (.publish e p p') fun _ => .done rfl

theorem alike_observe_bind {x y : Exec α} {f g : Except StepError α → Exec β} (hx : Alike x y)
    (hf : ∀ r, Alike (f r) (g r)) : Alike (observe x >>= f) (observe y >>= g) := by
  intro env
  rw [run_observe_bind, run_observe_bind]
  refine Flow.Alike.bind (hx env) ?_
  rintro ⟨r, env'⟩ _ rfl
  exact hf r env'

end Exec

/-! ### Steps -/

section Steps

variable {config : Config} {runner : Option FrameRunner} {scope : Scope} {p p' : Location}

theorem alike_attemptsFrom {schedule : RetrySchedule} {attempt attempt' : Exec Value}
    (h : Alike attempt attempt') : (remaining done : Nat) →
      Alike (attemptsFrom scope p schedule attempt remaining done)
        (attemptsFrom scope p' schedule attempt' remaining done)
  | 0, _ => h
  | remaining + 1, done => by
    refine alike_observe_bind h fun r => ?_
    cases r with
    | ok v => exact alike_refl _
    | error e =>
      dsimp only
      split
      · refine alike_bind (alike_publish (.retrying scope.identity.executionId default
          (UInt32.ofNat (done + 1)) schedule.maxRetries schedule.delay e.message) _ _) fun _ => ?_
        refine alike_bind_right _ fun slept => alike_bind_right _ fun _ => ?_
        exact alike_attemptsFrom h remaining (done + 1)
      · exact alike_refl _

theorem alike_attempts {attempt attempt' : Exec Value} (h : Alike attempt attempt')
    (schedule : Option RetrySchedule) :
    Alike (attempts scope p schedule attempt) (attempts scope p' schedule attempt') := by
  cases schedule with
  | none => exact h
  | some s => exact alike_attemptsFrom h s.maxRetries.toNat 0

/-- What follows the attempts at a step tells the same but for the place of the step. -/
theorem alike_conclude (step : Step) (r : Except StepError Value) :
    Alike (step.conclude scope p r) (step.conclude scope p' r) := by
  rcases r with e | v
  · cases e with
    | cancelled => exact alike_refl _
    | _ =>
      exact alike_bind (alike_publish (.stepFailed scope.identity.executionId default step.label _)
        _ _) fun _ => alike_refl _
  · exact alike_bind_right _ fun _ => alike_bind (alike_publish
      (.stepCompleted scope.identity.executionId default step.label v 0) _ _) fun _ => alike_refl _

/-- What surrounds the attempts at a step asks for the same wherever the step stands. -/
theorem alike_enter (step : Step) {dispatch dispatch' : Exec Value} (h : Alike dispatch dispatch') :
    Alike (enter config step scope p dispatch) (enter config step scope p' dispatch') := by
  have hmarked : Alike (step.marked scope p dispatch) (step.marked scope p' dispatch') :=
    alike_get_bind fun env =>
      alike_request_bind (.attempt ⟨step, scope, p, env⟩ p p') fun _ => h
  rw [enter_eq, enter_eq]
  refine alike_bind_right _ fun goesOn => alike_bind_right _ fun _ => alike_bind_right _ fun _ => ?_
  refine alike_bind (alike_publish (.stepStarted scope.identity.executionId default step.label
    step.kindName) _ _) fun _ => ?_
  exact alike_observe_bind (alike_attempts hmarked _) (alike_conclude step)

theorem alike_performAction (payload : Value) :
    Alike (performAction payload scope p) (performAction payload scope p') :=
  alike_get_bind fun env => alike_request_bind (.perform ⟨Template.resolveDeep env payload,
    scope.identity.target, scope.identity.executionId, p⟩ p p') fun a => by
      cases a <;> exact alike_refl _

theorem alike_evaluateScript (source : String) (timeout : Option UInt64) :
    Alike (evaluateScript config source timeout scope p)
      (evaluateScript config source timeout scope p') :=
  alike_get_bind fun env => alike_request_bind (.evaluate ⟨source, env.vars,
    scriptLimit config timeout, scope.token, scope.identity.executionId, p⟩ p p') fun a => by
      cases a <;> exact alike_refl _

/-! ### Loops and branches -/

variable {body body' : Nat → Exec (List Value)} (h : ∀ i, Alike (body i) (body' i))

include h in
theorem alike_iteration (prepare : Environment → Environment) (i : Nat) :
    Alike (iteration scope prepare body i) (iteration scope prepare body' i) :=
  alike_bind_right _ fun _ => alike_bind_right _ fun _ => alike_bind_right _ fun _ =>
    alike_bind (h i) fun _ => alike_refl _

include h in
theorem alike_forItems (key : String) : (items : List Value) → (i : Nat) → (acc : List Value) →
    Alike (forItems scope key body items i acc) (forItems scope key body' items i acc)
  | [], _, _ => alike_refl _
  | _ :: rest, i, _ => alike_bind (alike_iteration h _ i) fun _ =>
    alike_forItems key rest (i + 1) _

include h in
theorem alike_forTimes : (remaining i : Nat) → (acc : List Value) →
    Alike (forTimes scope body remaining i acc) (forTimes scope body' remaining i acc)
  | 0, _, _ => alike_refl _
  | remaining + 1, i, _ => alike_bind (alike_iteration h _ i) fun _ =>
    alike_forTimes remaining (i + 1) _

include h in
theorem alike_whileHolds (test : Exec Bool) : (remaining i : Nat) → (acc : List Value) →
    Alike (whileHolds scope test body remaining i acc) (whileHolds scope test body' remaining i acc)
  | 0, _, _ => alike_refl _
  | remaining + 1, i, acc => by
    refine alike_bind_right test fun met => ?_
    cases met with
    | true =>
      exact alike_bind (alike_iteration h _ i) fun _ => alike_whileHolds test remaining (i + 1) _
    | false => exact alike_refl (pure (acc.reverse, false))

include h in
theorem alike_loopResults (spec : LoopSpec) :
    Alike (loopResults config spec scope body) (loopResults config spec scope body') := by
  unfold loopResults
  cases spec.kind with
  | forEach =>
    exact alike_bind_right _ fun items => alike_bind (alike_forItems h _ _ 0 []) fun _ =>
      alike_refl _
  | whileTrue =>
    dsimp only
    split
    · exact alike_refl _
    · exact alike_whileHolds h _ _ 0 []
  | times =>
    refine alike_get_bind fun env => ?_
    dsimp only
    split
    · exact alike_refl _
    · exact alike_bind (alike_forTimes h _ 0 []) fun _ => alike_refl _

theorem alike_fork {token : Token} {n n' : Nat} (hn : n = n') {branch : Fin n → Flow BranchResult}
    {branch' : Fin n' → Flow BranchResult}
    (hbranch : ∀ b, (branch b).Alike Eq (branch' (b.cast hn))) {R : α → β → Prop}
    {next : Option (List BranchEnd) → Flow α} {next' : Option (List BranchEnd) → Flow β}
    (hnext : ∀ ends, (next ends).Alike R (next' ends)) :
    (Flow.fork token n branch next).Alike R (.fork token n' branch' next') := by
  subst hn
  exact .fork hbranch hnext

/-- Branches that ask for the same are run and collected alike. -/
theorem alike_runBranches {flows flows' : List (Flow BranchResult)}
    (h : List.Forall₂ (Flow.Alike Eq) flows flows') :
    Alike (runBranches scope flows) (runBranches scope flows') := by
  obtain ⟨hlen, hget⟩ := List.forall₂_iff_get.mp h
  intro env
  rw [runBranches, runBranches, run_lift_bind, run_lift_bind]
  refine alike_fork hlen (fun b => hget b.val b.isLt (hlen ▸ b.isLt)) fun ends => ?_
  exact .refl _

mutual

/-- A step of any kind asks for the same wherever it stands. -/
theorem alike_dispatch : (step : Step) → (p p' : Location) →
    Alike (dispatch config runner scope p step) (dispatch config runner scope p' step)
  | .action _ payload, _, _ => alike_performAction payload
  | .condition _ test whenTrue whenFalse, p, p' => by
    refine alike_bind_right _ fun met => ?_
    cases met with
    | true =>
      exact alike_map _ (alike_runItems whenTrue (p.child .whenTrue) (p'.child .whenTrue) 0 [])
    | false =>
      exact alike_map _ (alike_runItems whenFalse (p.child .whenFalse) (p'.child .whenFalse) 0 [])
  | .loop _ spec body, p, p' =>
    alike_bind (alike_loopResults (fun i => alike_runItems body (p.child (.iteration i))
      (p'.child (.iteration i)) 0 []) spec) fun _ => alike_refl _
  | .wait .., _, _ => alike_refl _
  | .parallel _ branches, p, p' => alike_get_bind fun env =>
    alike_runBranches (alike_branchFlows branches p p' 0 env)
  | .subWorkflow .., _, _ => alike_refl _
  | .script _ source timeout, _, _ => alike_evaluateScript source timeout

/-- A list of steps asks for the same wherever it stands. -/
theorem alike_runItems : (steps : List Step) → (p p' : Location) → (i : Nat) →
    (acc : List Value) →
      Alike (runItems config runner scope p i acc steps)
        (runItems config runner scope p' i acc steps)
  | [], _, _, _, _ => alike_refl _
  | step :: rest, p, p', i, acc => by
    refine alike_observe_bind (alike_enter step (alike_dispatch step (p.child (.step i))
      (p'.child (.step i)))) fun r => ?_
    cases r with
    | ok v => exact alike_runItems rest p p' (i + 1) (v :: acc)
    | error e =>
      cases e with
      | cancelled => exact alike_refl _
      | _ =>
        dsimp only
        split
        · exact alike_refl _
        · exact alike_runItems rest p p' (i + 1) _

/-- Branches ask for the same wherever their step stands. -/
theorem alike_branchFlows : (branches : List (List Step)) → (p p' : Location) → (b : Nat) →
    (env : Environment) → List.Forall₂ (Flow.Alike Eq)
      (branchFlows config runner scope p b env branches)
      (branchFlows config runner scope p' b env branches)
  | [], _, _, _, _ => .nil
  | steps :: rest, p, p', b, env => by
    refine .cons (Flow.Alike.bind (alike_runItems steps (p.child (.branch b)) (p'.child (.branch b))
      0 [] (env.forkBranch b)) ?_) (alike_branchFlows rest p p' (b + 1) env)
    rintro q _ rfl
    exact .done rfl

end

variable (config runner scope) in
theorem alike_runStep (step : Step) (p p' : Location) :
    Alike (runStep config runner step scope p) (runStep config runner step scope p') :=
  alike_enter step (alike_dispatch step p p')

end Steps

/-! ### Lists and frames -/

/-- The entry of a logged step in the results of a list: its result, or what failed steps leave
there. -/
def StepRecord.entry (s : StepRecord) : Value :=
  match s.outcome with
  | .ok v => v
  | .error text => .record [("success", .bool false), ("error", .text text)]

/-- What a list of steps comes to is what a frame comes to: both leave the same variables, both
succeed or both fail with the same error, and the results of the list are what the log of the frame
tells, entry by entry. -/
structure Matches (list : Except StepError (List Value) × Environment)
    (frame : (RunRecord × Option FrameFailure) × Environment) : Prop where
  env : list.2 = frame.2
  isOk : list.1.isOk ↔ frame.1.2 = none
  error : ∀ e, list.1 = .error e ↔ ∃ i, frame.1.2 = some ⟨i, e⟩
  results : ∀ vs, list.1 = .ok vs → vs = frame.1.1.steps.map StepRecord.entry

section Frames

variable {config : Config} {runner : Option FrameRunner} {scope : Scope}

/-- Who fails with the same error, leaving the same variables, matches. -/
theorem matches_error {e : StepError} {i : Nat} {record : RunRecord} {env : Environment} :
    Matches (.error e, env) ((record, some ⟨i, e⟩), env) where
  env := rfl
  isOk := by simp [Except.isOk, Except.toBool]
  error e' := by
    constructor
    · rintro ⟨⟩
      exact ⟨i, rfl⟩
    · rintro ⟨i', ⟨⟩⟩
      rfl
  results _ h := nomatch h

theorem Flow.Alike.right_of_ask {R : α → β → Prop} {x : Flow α} {index : Nat} {env : Environment}
    {y : Unit → Flow β} (hx : ∃ r next, x = .ask r next) (h : x.Alike R (y ())) :
    x.Alike R (.ask (.recordProgress index env) y) := by
  obtain ⟨r, next, rfl⟩ := hx
  exact .right h

/-- Behind results that its log tells, a frame goes on as the list of the same steps does. -/
theorem alike_frameFrom (p : Location) : (steps : List Step) → (i index : Nat) →
    (acc : List Value) → (record : RunRecord) → (env : Environment) →
      acc.reverse = record.steps.map StepRecord.entry →
        ((runItems config runner scope p i acc steps).run.run env).Alike Matches
          ((frameFrom config runner scope index record steps).run env)
  | [], i, index, acc, record, env, h => by
    refine .done ⟨rfl, by simp [Except.isOk, Except.toBool], by simp, ?_⟩
    rintro vs ⟨⟩
    exact h
  | step :: rest, i, index, acc, record, env, h => by
    have hask : ∃ r next, (runItems config runner scope p i acc (step :: rest)).run.run env =
        .ask r next := ⟨.boundary, _, rfl⟩
    unfold frameFrom
    dsimp only
    split
    case' isTrue => refine .right_of_ask hask ?_
    all_goals
      rw [runItems, run_observe_bind, ← runStep]
      refine Flow.Alike.bind (y := (runStep config runner step scope (.top index)).run.run env)
        (alike_runStep config runner scope step (p.child (.step i)) (.top index) env) ?_
      rintro ⟨e | v, env'⟩ _ rfl
      · by_cases he : e = .cancelled
        · cases he
          exact .done matches_error
        · have hentry : (failureEntry e :: acc).reverse =
              (record.pushFailure index step.label e.message).steps.map StepRecord.entry := by
            simp [RunRecord.pushFailure, RunRecord.pushError, h, failureEntry, StepRecord.entry]
          cases e with
          | cancelled => exact absurd rfl he
          | _ =>
            generalize hpolicy : scope.onError = policy
            cases policy with
            | stop => exact .done matches_error
            | «continue» => exact alike_frameFrom p rest (i + 1) (index + 1) _ _ env' hentry
      · refine alike_frameFrom p rest (i + 1) (index + 1) (v :: acc) _ env' ?_
        simp [RunRecord.pushSuccess, h, StepRecord.entry]

end Frames

/-- A list of steps and a frame do the same and come to the same. -/
structure Agree (w : Collaborators) (token : Token) (names : Names)
    (list : Flow (Except StepError (List Value) × Environment))
    (frame : Flow ((RunRecord × Option FrameFailure) × Environment)) : Prop where
  /-- Whatever turns the list takes and whatever is cancelled meanwhile, the frame can take the same
  ones, and ends as the list does. -/
  onward : ∀ l z, Follows (.line list) l z → w.ServeAll names l →
    ∃ l' z', Follows (.line frame) l' z' ∧ w.ServeAll names l' ∧ SameTurns l l' ∧
      EndsAlike Matches z.ended? z'.ended?
  /-- So can the list whatever turns the frame takes. -/
  back : ∀ l' z', Follows (.line frame) l' z' → w.ServeAll names l' →
    ∃ l z, Follows (.line list) l z ∧ w.ServeAll names l ∧ SameTurns l l' ∧
      EndsAlike Matches z.ended? z'.ended?
  /-- If nothing is cancelled, both come to one end in every order of turns. -/
  ends : ∃ p q, list.ComesTo w token names p ∧ frame.ComesTo w token names q ∧ Matches p q
  /-- They have then done the same on every line, whatever the orders of turns. -/
  calls : ∀ l z l' z', Follows (.line list) l z → w.Attend token names l → z.ended? ≠ none →
    Follows (.line frame) l' z' → w.Attend token names l' → z'.ended? ≠ none →
      ∀ line, SameDeeds (doneOn line l) (doneOn line l')

/-- A list and a frame agree that ask for the same and come to what matches. -/
theorem Flow.Alike.agree {w : Collaborators} (hw : w.IgnoresPlaces) (names : Names) {token : Token}
    {limit : Nat} {list : Flow (Except StepError (List Value) × Environment)}
    {frame : Flow ((RunRecord × Option FrameFailure) × Environment)}
    {post : Except StepError (List Value) × Environment → Prop}
    {post' : (RunRecord × Option FrameFailure) × Environment → Prop}
    (h : list.Alike Matches frame) (hlist : list.Keeps (.frame token limit False) post)
    (hframe : frame.Keeps (.frame token limit False) post') : Agree w token names list frame where
  onward l z hl hserve := by
    obtain ⟨l', z', hl', hsame, hz⟩ := Strand.Alike.follows hl (.line h)
    exact ⟨l', z', hl', hsame.serveAll hw hserve, hsame, hz.ended⟩
  back l' z' hl' hserve := by
    have hback : (Strand.line frame).Alike (fun q p => Matches p q) (.line list) :=
      .line (h.symm fun _ _ hp => hp)
    obtain ⟨l, z, hl, hsame, hz⟩ := Strand.Alike.follows hl' hback
    have hz' : z.Alike Matches z' := hz.symm fun _ _ hp => hp
    exact ⟨l, z, hl, hsame.serveAll hw hserve, hsame.symm, hz'.ended⟩
  ends := ⟨_, _, comesTo_outcome w names hlist, comesTo_outcome w names hframe,
    (h.outcome hw names).1⟩
  calls l z l' z' hl ha hz hl' ha' hz' line := by
    obtain ⟨e, he⟩ := Option.ne_none_iff_exists'.mp hz
    obtain ⟨e', he'⟩ := Option.ne_none_iff_exists'.mp hz'
    rw [doneOn_eq hl hlist ha he, doneOn_eq hl' hframe ha' he']
    exact h.doings hw names line

/-- A list of steps within a step and a frame of the same steps, from the same variables on and with
the same identifiers, apply one error policy: whatever turns the one takes, the other takes the
same, in which the same is asked for and answered; both end in the same variables, and both succeed
or both fail with the same error; and the results of the list are what the log tells. If nothing is
cancelled, this holds of all their turns, whatever the order. -/
theorem list_agrees_with_frame {w : Collaborators} (hw : w.IgnoresPlaces) (names : Names)
    (config : Config) (depths : Nat) (scope : Scope) (location : Location) (identity : Identity)
    (steps : List Step) (env : Environment) :
    Agree w scope.token names
      ((runItems config (runnerWithin config depths) scope location 0 [] steps).run.run env)
      ((frameFrom config (runnerWithin config depths) scope 0 (.start identity) steps).run
        env) := by
  have hd : scope.depth ≤ scope.depth + depths := Nat.le_add_right ..
  have hr : scope.RunnerAbides (scope.depth + depths) False (runnerWithin config depths) :=
    runnerAbides_within (Nat.le_refl _)
  exact (alike_frameFrom location steps 0 0 [] (.start identity) env rfl).agree hw names
    (abides_runItems hd hr location 0 [] steps env) (keeps_frameFrom hd hr 0 _ steps env)

/-- The host performs what comes without a payload, and refuses all else. -/
private def wayward : Collaborators :=
  ⟨fun r => if r.payload.isNull then .ok .null else .error (.failed "down"),
    fun _ => .error .disabled, fun _ => none⟩

private def waywardNames : Names := fun _ n => .ofNat n

/-- Failed steps do not end a list. -/
private def waywardScope : Scope := ⟨⟨"wayward", .ofNat 0, none⟩, .continue, 0, 0⟩

/-- An action that the host refuses, and one that it performs. -/
private def waywardSteps : List Step := [.ofAction (.bool false), .ofAction .null]

/-- A failed action and one that succeeds behind it, where lists go on: the list has an entry for
either, and the frame comes to the end that matches. -/
theorem list_agrees_with_frame_mixed :
    let list := (runItems .default (runnerWithin .default 0) waywardScope
      ((Location.top 0).child .whenTrue) 0 [] waywardSteps).run.run .empty
    let frame := (frameFrom .default (runnerWithin .default 0) waywardScope 0
      (.start waywardScope.identity) waywardSteps).run .empty
    let env := (Environment.empty.stamp waywardScope.identity).stamp waywardScope.identity
    let results := [failureEntry (.actionFailed "down"), .null]
    wayward.IgnoresPlaces ∧ list.ComesTo wayward 0 waywardNames (.ok results, env) ∧
      ∃ record, frame.ComesTo wayward 0 waywardNames ((record, none), env) ∧
        record.steps.map StepRecord.entry = results := by
  intro list frame env results
  have hw : wayward.IgnoresPlaces := ⟨fun _ _ => rfl, fun _ _ => rfl⟩
  obtain ⟨p, ⟨⟨record, failure⟩, env'⟩, hp, hframe, hmatch⟩ :=
    (list_agrees_with_frame hw waywardNames .default 0 waywardScope
      ((Location.top 0).child .whenTrue) waywardScope.identity waywardSteps .empty).ends
  have hkeeps : Exec.Abides (.frame waywardScope.token (waywardScope.depth + 0) False)
      (runItems .default (runnerWithin .default 0) waywardScope ((Location.top 0).child .whenTrue) 0
        [] waywardSteps) :=
    abides_runItems (Nat.le_add_right ..) (runnerAbides_within (Nat.le_refl _)) _ 0 [] _
  have hvalue : (((runItems .default (runnerWithin .default 0) waywardScope
      ((Location.top 0).child .whenTrue) 0 [] waywardSteps).run.run .empty).outcome wayward
        waywardNames).1 = (.ok results, env) := rfl
  have hlist := comesTo_outcome wayward waywardNames (hkeeps .empty)
  rw [hvalue] at hlist
  obtain rfl := hp.unique hlist
  obtain rfl : env = env' := hmatch.env
  obtain rfl : failure = none := hmatch.isOk.mp rfl
  exact ⟨hw, hlist, record, hframe, (hmatch.results results rfl).symm⟩

end Workflow

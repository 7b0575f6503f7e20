import Workflow.Proofs.Strand.Contract
import Workflow.Run.Execution
import Mathlib.Data.List.Basic

/-!
# What a frame logs

Whatever its steps meet with, a frame leaves a log whose entries stand for its first steps, in order
and each under its number and label, and whose errors are those of its failed entries. A frame that
has come to its end has logged all of its steps; one that an error has stopped has logged that error
last, under the policy to stop only; one that was cancelled at a step has logged the steps before it
and notes the cancellation among the errors.

While a frame goes on its log stands for the steps that it is through with. Nothing is assumed of
what a step does or is answered: the contract is one that every flow keeps.

## Main definitions

* `Workflow.RunRecord.failures` — the failed entries of a log, as errors.
* `Workflow.RunRecord.Recounts` — a log tells how a list of steps has gone.

## Main results

* `Workflow.recounts_of_ended` — the log that a frame leaves tells how its steps have gone.
-/

namespace Workflow

/-! ### Logs of the steps so far -/

/-- The error that an entry stands for. -/
def StepRecord.error? (s : StepRecord) : Option RecordedError :=
  match s.outcome with
  | .ok _ => none
  | .error message => some ⟨s.index, message⟩

namespace RunRecord

/-- The failed entries of a log, as errors. -/
def failures (r : RunRecord) : List RecordedError := r.steps.filterMap StepRecord.error?

/-- Entry by entry, the log stands for a list of steps that a frame is through with. -/
structure Logs (onError : OnError) (through : List Step) (r : RunRecord) : Prop where
  indices : r.steps.map StepRecord.index = List.range through.length
  names : r.steps.map StepRecord.name = through.map Step.label
  errors : r.errors = r.failures
  succeeded : onError = .stop → ∀ s ∈ r.steps, s.success = true

/-- A log tells how a list of steps has gone, and at which step an error or a cancellation has ended
it. -/
structure Recounts (onError : OnError) (steps : List Step) (r : RunRecord)
    (failure : Option FrameFailure) : Prop where
  indices : r.steps.map StepRecord.index = List.range r.steps.length
  names : r.steps.map StepRecord.name = (steps.take r.steps.length).map Step.label
  completed : failure = none → r.steps.length = steps.length ∧ r.errors = r.failures
  stopped : ∀ i e, failure = some ⟨i, e⟩ → e ≠ .cancelled →
    onError = .stop ∧ r.steps.length = i + 1 ∧ (∀ s ∈ r.steps.take i, s.success = true) ∧
      r.steps[i]?.map StepRecord.outcome = some (.error e.message) ∧ r.errors = r.failures
  cancelled : ∀ i, failure = some ⟨i, .cancelled⟩ →
    r.steps.length = i ∧ r.errors = r.failures ++ [⟨i, "execution cancelled"⟩]
  stop : onError = .stop → ∀ s ∈ r.steps.dropLast, s.success = true

namespace Logs

variable {onError : OnError} {through rest : List Step} {step : Step} {r : RunRecord}

theorem start (identity : Identity) : (RunRecord.start identity).Logs onError [] where
  indices := rfl
  names := rfl
  errors := rfl
  succeeded _ _ hs := nomatch hs

theorem length_steps (h : r.Logs onError through) : r.steps.length = through.length := by
  have hlen := congrArg List.length h.names
  rwa [List.length_map, List.length_map] at hlen

theorem pushSuccess (h : r.Logs onError through) (v : Value) :
    (r.pushSuccess through.length step.label v).Logs onError (through ++ [step]) where
  indices := by
    rw [RunRecord.pushSuccess, List.map_append, h.indices, List.length_append,
      List.length_singleton, List.range_succ, List.map_singleton]
  names := by
    rw [RunRecord.pushSuccess, List.map_append, h.names, List.map_append, List.map_singleton,
      List.map_singleton]
  errors := by
    have hfail : (r.pushSuccess through.length step.label v).failures = r.failures := by
      rw [failures, RunRecord.pushSuccess, List.filterMap_append]
      exact List.append_nil _
    rw [hfail]
    exact h.errors
  succeeded hp s hs := by
    rcases List.mem_append.mp hs with hs | hs
    · exact h.succeeded hp s hs
    · rw [List.mem_singleton.mp hs]
      rfl

/-- The entries and errors after a step has failed, whatever the policy says. -/
private theorem pushFailure_fields (h : r.Logs onError through) (step : Step) (message : String) :
    let r' := r.pushFailure through.length step.label message
    r'.steps.map StepRecord.index = List.range (through.length + 1) ∧
      r'.steps.map StepRecord.name = (through ++ [step]).map Step.label ∧
        r'.errors = r'.failures := by
  refine ⟨?_, ?_, ?_⟩
  · rw [pushFailure, pushError, List.map_append, h.indices, List.range_succ, List.map_singleton]
  · rw [pushFailure, pushError, List.map_append, h.names, List.map_append, List.map_singleton,
      List.map_singleton]
  · rw [failures, pushFailure, pushError, List.filterMap_append]
    exact congrArg (· ++ [_]) h.errors

/-- A failed step is logged and passed over when the policy is to go on. -/
theorem pushFailure (h : r.Logs .continue through) (message : String) :
    (r.pushFailure through.length step.label message).Logs .continue (through ++ [step]) := by
  obtain ⟨hi, hn, he⟩ := h.pushFailure_fields step message
  refine ⟨?_, hn, he, fun hp => nomatch hp⟩
  rwa [List.length_append, List.length_singleton]

/-- The log of all steps tells how they have gone. -/
theorem recounts (h : r.Logs onError through) : r.Recounts onError through none where
  indices := by rw [h.length_steps, h.indices]
  names := by rw [h.length_steps, List.take_length, h.names]
  completed _ := ⟨h.length_steps, h.errors⟩
  stopped _ _ hf := nomatch hf
  cancelled _ hf := nomatch hf
  stop hp s hs := h.succeeded hp s (r.steps.dropLast_subset hs)

/-- The log of the steps before a cancelled one, with the cancellation among its errors. -/
theorem recounts_of_cancelled (h : r.Logs onError through) :
    (r.pushError through.length StepError.cancelled.message).Recounts onError (through ++ rest)
      (some ⟨through.length, .cancelled⟩) where
  indices := by
    rw [pushError, h.length_steps, h.indices]
  names := by
    rw [pushError, h.length_steps, List.take_left, h.names]
  completed hf := nomatch hf
  stopped i e hf he := by
    cases hf
    exact absurd rfl he
  cancelled i hf := by
    cases hf
    exact ⟨h.length_steps, congrArg (· ++ [_]) h.errors⟩
  stop hp s hs := h.succeeded hp s (r.steps.dropLast_subset hs)

/-- The log of the steps up to one whose error stops the frame. -/
theorem recounts_of_stopped {e : StepError} (h : r.Logs .stop through) (he : e ≠ .cancelled) :
    (r.pushFailure through.length step.label e.message).Recounts .stop (through ++ step :: rest)
      (some ⟨through.length, e⟩) := by
  obtain ⟨hi, hn, herrors⟩ := h.pushFailure_fields step e.message
  have hsteps : (r.pushFailure through.length step.label e.message).steps =
      r.steps ++ [⟨through.length, step.label, .error e.message⟩] := rfl
  have hlen : (r.pushFailure through.length step.label e.message).steps.length =
      through.length + 1 := by
    rw [hsteps, List.length_append, h.length_steps, List.length_singleton]
  have htake : (r.pushFailure through.length step.label e.message).steps.take through.length =
      r.steps := by
    rw [hsteps, ← h.length_steps, List.take_left]
  refine ⟨by rw [hlen, hi], ?_, fun hf => (nomatch hf), ?_, ?_, ?_⟩
  · rw [hlen, hn, List.take_length_add_append]
    rfl
  · rintro i e' ⟨⟩ -
    refine ⟨rfl, hlen, ?_, ?_, herrors⟩
    · rw [htake]
      exact h.succeeded rfl
    · rw [hsteps, ← h.length_steps, List.getElem?_concat_length]
      rfl
  · rintro i hf
    obtain ⟨-, rfl⟩ := FrameFailure.mk.inj (Option.some.inj hf)
    exact absurd rfl he
  · intro hp s hs
    rw [hsteps, List.dropLast_concat] at hs
    exact h.succeeded hp s hs

end Logs

end RunRecord

/-! ### Frames -/

variable {config : Config} {runner : Option FrameRunner} {scope : Scope}

/-- Behind a log of the steps before them, the steps of a frame leave one that tells how all have
gone. -/
theorem recounts_frameFrom : (steps through : List Step) → (record : RunRecord) →
    (env : Environment) → record.Logs scope.onError through →
      ((frameFrom config runner scope through.length record steps).run env).Keeps .free
        fun p => p.1.1.Recounts scope.onError (through ++ steps) p.1.2
  | [], through, record, env, h => by
    rw [List.append_nil]
    exact h.recounts
  | step :: rest, through, record, env, h => by
    unfold frameFrom
    dsimp only
    split
    case' isTrue => refine ⟨trivial, fun _ _ => ?_⟩
    all_goals
      refine Flow.Keeps.bind ?_ ((runStep config runner step scope (.top through.length)).run.run
        env) (Flow.keeps_free _)
      -- the step is behind the frame: what is left goes on from the log that it is written into
      have hnext : ∀ (record : RunRecord) (env : Environment),
          record.Logs scope.onError (through ++ [step]) →
            ((frameFrom config runner scope (through.length + 1) record rest).run env).Keeps .free
              fun p => p.1.1.Recounts scope.onError (through ++ step :: rest) p.1.2 := by
        intro record env h
        have hrest := recounts_frameFrom rest (through ++ [step]) record env h
        rwa [List.append_assoc, List.length_append] at hrest
      rintro ⟨e | v, env'⟩ -
      · by_cases he : e = .cancelled
        · cases he
          exact h.recounts_of_cancelled
        · cases e with
          | cancelled => exact absurd rfl he
          | _ =>
            generalize scope.onError = policy at h hnext ⊢
            cases policy with
            | stop => exact h.recounts_of_stopped he
            | «continue» => exact hnext _ env' (h.pushFailure _)
      · exact hnext _ env' (h.pushSuccess v)

/-- Whatever its steps meet with, a frame that has ended leaves a log that tells how they have gone:
its entries stand for the first steps in order, for all of them if nothing has ended the frame, its
errors are those of the failed entries, and what has ended the frame comes last. -/
theorem recounts_of_ended (definition : Definition) (env : Environment) {l : List Stroke}
    {y : Strand FrameEnd} {ended : FrameEnd}
    (h : Follows (.line (runFrame config runner definition scope env)) l y)
    (he : y.ended? = some (.ok ended)) :
    ended.record.Recounts scope.onError definition.steps ended.failure := by
  have hframe : (runFrame config runner definition scope env).Keeps .free
      fun ended => ended.record.Recounts scope.onError definition.steps ended.failure := by
    refine Flow.Keeps.bind ?_ _
      (recounts_frameFrom definition.steps [] _ env (RunRecord.Logs.start scope.identity))
    intro p hp
    exact ⟨hp.indices, hp.names, hp.completed, hp.stopped, hp.cancelled, hp.stop⟩
  have hfree : ∀ s ∈ l, Contract.free.Reckons s.control :=
    fun s _ => Contract.reckons_of_cancels trivial s.control
  obtain ⟨hy, -⟩ := keeps_follows h hfree hframe
  have hended := keeps_ended y hy he
  exact hended

/-- Three actions. -/
private def enduring : Definition :=
  .named "enduring" [.ofAction .null, .ofAction .null, .ofAction .null]

/-- The frame of a sub-workflow that goes on when a step fails. -/
private def enduringScope : Scope := ⟨⟨"enduring", .ofNat 0, none⟩, .continue, 0, 1⟩

/-- The first action succeeds, the second fails, and before the third the engine is cancelled. -/
private def hardships : List Stroke :=
  let scope := enduringScope
  let env := Environment.empty.stamp scope.identity
  let run := scope.identity.executionId
  let place (i : Nat) := (Location.top i).forEvents
  let does (r : Request) (a : r.Answer) : Stroke := ⟨0, .initial, .answer r a⟩
  let tried (i : Nat) (a : Except ActionError Value) (closing : Event) : List Stroke :=
    [does .boundary true, does (.publish (.stepStarted run (place i) "action" "action")) (),
      does (.attempt ⟨.ofAction .null, scope, .top i, env⟩) (),
      does (.perform ⟨Template.resolveDeep env .null, none, run, .top i⟩) a,
      does (.publish closing) ()]
  tried 0 (.ok .null) (.stepCompleted run (place 0) "action" .null 0) ++
    tried 1 (.error (.failed "down"))
      (.stepFailed run (place 1) "action" "action execution failed: down") ++
    [⟨0, { Control.initial with state := .cancelled }, .answer .boundary false⟩]

private theorem follows_hardships : ∃ y ended,
    Follows (.line (runFrame .default none enduring enduringScope .empty)) hardships y ∧
      y.ended? = some (.ok ended) ∧ ended.failure = some ⟨2, .cancelled⟩ :=
  ⟨_, _, .head (.answer ⟨rfl, rfl⟩) <| .head (.answer rfl) <| .head (.answer rfl) <|
    .head (.answer rfl) <| .head (.answer rfl) <| .head (.answer ⟨rfl, rfl⟩) <|
    .head (.answer rfl) <| .head (.answer rfl) <| .head (.answer rfl) <| .head (.answer rfl) <|
    .head (.answer ⟨rfl, rfl⟩) <| .refl _, rfl, rfl⟩

/-- A frame that has gone on behind a failed step and was cancelled at the last one. -/
theorem recounts_hardships : ∃ y ended,
    Follows (.line (runFrame .default none enduring enduringScope .empty)) hardships y ∧
      y.ended? = some (.ok ended) ∧
        ended.record.Recounts .continue enduring.steps (some ⟨2, .cancelled⟩) := by
  obtain ⟨y, ended, h, he, hfailure⟩ := follows_hardships
  refine ⟨y, ended, h, he, ?_⟩
  rw [← hfailure]
  exact recounts_of_ended enduring .empty h he

end Workflow

import Workflow.Proofs.Contract.Step
import Workflow.Proofs.Story.Step

/-!
# Frames open and close their steps in order

The steps of a frame are opened and closed one after another, and so are those of the frames that
are run as sub-workflows, down to the last depth. When no other step is open around a frame, then
the events that have closed its steps are those that its log stands for, entry by entry.

## Main definitions

* `Workflow.StepRecord.closing` — the event that an entry of a log stands for.

## Main results

* `Workflow.obeys_frameWithin` — a frame with the closing events that its log stands for.
-/

namespace Workflow

open Exec

/-- The event that an entry of the log of a run stands for. -/
def StepRecord.closing (run : RunId) (s : StepRecord) : Event :=
  match s.outcome with
  | .ok v => .stepCompleted run (Location.top s.index).forEvents s.name v 0
  | .error e => .stepFailed run (Location.top s.index).forEvents s.name e

theorem StepRecord.outcome?_closing (run : RunId) (s : StepRecord) :
    (s.closing run).outcome? = some s.outcome := by
  unfold closing
  split <;> next h => exact congrArg some h.symm

theorem StepRecord.phase?_closing (run : RunId) (s : StepRecord) :
    (s.closing run).phase? = some (.ends, ⟨run, Decimal.natText s.index⟩) := by
  unfold closing
  split <;> rfl

section Frames

variable {t : Terms} {config : Config} {scope : Scope} {g₀ g : Standing}

/-- The events that have closed steps of the frame are those that its log stands for, if no step is
open around the frame. -/
def Terms.Logged (t : Terms) (scope : Scope) (g₀ g : Standing) (record : RunRecord) : Prop :=
  t.Near g₀ g ∧ (¬ t.cancels → g₀.opened = [] →
    g.closed = g₀.closed ++ record.steps.map (StepRecord.closing scope.identity.executionId))

/-- A step of a frame is logged as it is closed. -/
theorem Terms.Logged.close {record record' : RunRecord} {entry : StepRecord} {e : Event}
    {g' : Standing} (h : t.Logged scope g₀ g record) (hg' : ¬ t.cancels → g' = g.close e)
    (hrecord : record'.steps = record.steps ++ [entry])
    (he : e = entry.closing scope.identity.executionId) : t.Logged scope g₀ g' record' := by
  obtain ⟨hnear, hclosed⟩ := h
  refine ⟨fun hn => ?_, fun hn hnil => ?_⟩
  · rw [hg' hn]
    exact (hnear hn).trans (.close g e)
  · have hopened : g.opened = [] := (hnear hn).opened.trans hnil
    rw [hg' hn, hrecord, List.map_append, List.map_singleton, ← List.append_assoc,
      ← hclosed hn hnil, he]
    exact if_pos hopened

/-- The steps of a frame, from one on, are opened and closed in order, and logged so. -/
theorem obeys_frameFrom {runner : Option FrameRunner} (hr : t.Runs runner)
    (hosts : t.Hosts scope g₀) : (steps : List Step) → (index : Nat) → (record : RunRecord) →
      (env : Environment) → (g : Standing) → t.Logged scope g₀ g record →
      ((frameFrom config runner scope index record steps).run env).Obeys t
        (fun p g' => (∀ f, p.1.2 = some f → f.error = .cancelled → t.cancels) ∧
          t.Logged scope g₀ g' p.1.1) g
  | [], _, _, _, _, hg => ⟨fun _ h => (nomatch h), hg⟩
  | step :: rest, index, record, env, g, hg => by
    unfold frameFrom
    dsimp only
    split
    case' isTrue => refine Flow.obeys_ask (r := .recordProgress _ _) trivial fun _ _ => ?_
    all_goals
      refine Flow.Obeys.bind ?_ ((runStep config runner step scope (.top index)).run.run env)
        (obeys_runStep hr ((hosts index).near hg.1) env)
      rintro ⟨e | v, env'⟩ g' ⟨hc, hclose⟩
      · have hlogged : t.Logged scope g₀ g' (record.pushFailure index step.label e.message) :=
          hg.close hclose rfl rfl
        cases e with
        | cancelled =>
          have hcancels : t.cancels := hc rfl
          exact ⟨fun _ _ _ => hcancels, fun hn => absurd hcancels hn, fun hn => absurd hcancels hn⟩
        | _ =>
          generalize scope.onError = policy
          cases policy with
          | stop =>
            refine ⟨?_, hlogged⟩
            rintro f ⟨⟩ ⟨⟩
          | «continue» => exact obeys_frameFrom hr hosts rest (index + 1) _ env' g' hlogged
      · exact obeys_frameFrom hr hosts rest (index + 1) _ env' g' (hg.close hclose rfl rfl)

/-- What a frame comes to, with what is open then. -/
def Terms.Frames (t : Terms) (scope : Scope) (g₀ : Standing) (ended : FrameEnd) (g : Standing) :
    Prop :=
  FrameEnd.Abides t.cancels ended ∧ t.Logged scope g₀ g ended.record

theorem obeys_runFrame {runner : Option FrameRunner} (hr : t.Runs runner)
    (hosts : t.Hosts scope g₀) (definition : Definition) (env : Environment) :
    (runFrame config runner definition scope env).Obeys t (t.Frames scope g₀) g₀ := by
  have hstart : t.Logged scope g₀ g₀ (.start scope.identity) :=
    ⟨.refl t g₀, fun _ _ => (List.append_nil _).symm⟩
  refine Flow.Obeys.bind (fun p g' hp => ?_) _
    (obeys_frameFrom hr hosts definition.steps 0 _ env g₀ hstart)
  exact hp

/-- A frame opens and closes its steps in order, whatever depths it is given below it. -/
theorem obeys_frameWithin : (depths : Nat) → (definition : Definition) → (scope : Scope) →
    (env : Environment) → (g₀ : Standing) → t.Hosts scope g₀ →
      (frameWithin config depths definition scope env).Obeys t (t.Frames scope g₀) g₀
  | 0, definition, _, env, _, hosts => by
    have hnone : t.Runs none := fun _ h => nomatch h
    exact obeys_runFrame hnone hosts definition env
  | depths + 1, definition, _, env, _, hosts => by
    refine obeys_runFrame ?_ hosts definition env
    rintro run ⟨⟩ callee child callEnv g hchild
    exact (obeys_frameWithin depths callee child callEnv g hchild).mono fun _ _ h => ⟨h.1, h.2.1⟩

end Frames

end Workflow

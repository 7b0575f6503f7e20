import Workflow.Proofs.Pact.Frame
import Workflow.Proofs.Strand.Call

/-!
# The pacts of calls

A call honours a pact that governs the frames of its run and allows what surrounds them. The
workflow that it looks up is one that the registry is expected to hold; the steps of a workflow that
it is given must be allowed.

## Main definitions

* `Workflow.Pact.Attends` — the pact governs the frames of calls and allows what surrounds them.

## Main results

* `Workflow.honours_execute`, `Workflow.honours_executeDefinition` — calls honour such a pact.
-/

namespace Workflow

/-- What a call asks for around the frame of its run, beside what it tells. -/
def Request.SurroundsFrame : Request → Prop
  | recordEnvironment _ => True
  | lookup _ => True
  | freshId => True
  | begin .. => True
  | finish _ => True
  | _ => False

/-- The failure that a run tells of at its end is the one that has stopped its frame. -/
theorem FrameEnd.exists_failure_of_verdict (e : FrameEnd) {run : RunId} {p : RunState × Nat}
    {text : String} (h : (e.verdict run p).1.failure? = some text) :
    ∃ f, e.failure = some f ∧ f.error.message = text := by
  obtain ⟨record, failure, env⟩ := e
  obtain ⟨state, index⟩ := p
  cases failure with
  | none => cases state <;> exact nomatch h
  | some f =>
    refine ⟨f, rfl, ?_⟩
    cases state with
    | failed => exact Option.some.inj h
    | _ => exact nomatch h

/-- The pact governs the frames of calls, whatever their runs are begun with, and allows what
surrounds them. -/
structure Pact.Attends (k : Pact) (config : Config) (S : Scope → Nat → Prop) : Prop
    extends k.Governs S where
  asks : ∀ r : Request, r.SurroundsFrame → k.asks r
  started : ∀ run id n, k.asks (.publish (.started run id n))
  tells : ∀ e : Event, e.isTerminal = true → k.Owns e → k.asks (.publish e)
  top : ∀ identity onError token, S ⟨identity, onError, token, 0⟩ config.maxDepth

section

variable {k : Pact} {config : Config} {S : Scope → Nat → Prop} (hk : k.Attends config S)

include hk

/-- What is left of a run whose frame has ended honours the pact. -/
theorem honours_settle (run : RunId) {ended : FrameEnd} (h : k.Ends ended) :
    (settle run ended).Honours k fun _ => True := by
  rw [settle_eq]
  refine ⟨hk.asks _ trivial, fun _ _ => ⟨hk.asks _ trivial, fun p _ => ⟨?_, fun _ _ => trivial⟩⟩⟩
  refine hk.tells _ (FrameEnd.verdict_isTerminal run ended p) fun text htext => ?_
  obtain ⟨f, hf, hmessage⟩ := ended.exists_failure_of_verdict htext
  exact ⟨f.error, h f hf, hmessage⟩

/-- A call for a workflow that is given honours the pact, if that allows the steps. -/
theorem honours_executeDefinition {definition : Definition} (options : RunOptions)
    (h : ∀ scope depths, S scope depths → Step.EveryOf (k.Allows scope) definition.steps) :
    (executeDefinition config definition options).Honours k fun _ => True := by
  rw [executeDefinition_eq]
  refine ⟨hk.asks _ trivial, fun run _ => ⟨hk.asks _ trivial, fun a _ => ?_⟩⟩
  cases a with
  | error e => exact trivial
  | ok token =>
    have htop := hk.top ⟨definition.id, run, options.target⟩ definition.onError token
    refine ⟨hk.started _ _ _, fun _ _ => ?_⟩
    exact Flow.Honours.bind (fun ended hended => honours_settle hk run hended) _
      (honours_frameWithin hk.toGoverns htop (h _ _ htop) _)

/-- A call for a workflow that is registered honours the pact. -/
theorem honours_execute (id : String) (options : RunOptions) :
    (execute config id options).Honours k fun _ => True := by
  rw [execute_eq]
  refine ⟨hk.asks _ trivial, fun found hfound => ?_⟩
  cases found with
  | none => exact trivial
  | some definition =>
    exact honours_executeDefinition hk options fun scope depths hscope =>
      hk.allows scope depths id definition hscope hfound

end

end Workflow

import Workflow.Proofs.Document.Definition
import Workflow.Definition.Document

/-!
# Definitions that are saved and loaded

A definition may be put together by hand and pass the check, be written as a document, and be
refused when the document is read. The check of a loop asks whether the value that it goes over or
counts to is there; null is a value that is there, it is written as null, and null is read as
missing. This is the only way for a valid definition to be refused: if the values in it read back,
then its document is accepted just if no loop of it, at any depth, needs a value that is null.

## Main definitions

* `Workflow.LoopSpec.NeedsNull` — the value that a loop needs is null.
* `Workflow.Step.loopsOf` — the loops of steps at any depth.

## Main results

* `Workflow.Step.faults?_rereadAll_iff` — the steps that are read have no fault just if those that
  were written have none and no loop needs a null.
* `Workflow.Definition.loads_iff` — the document of a definition is accepted just if the definition
  is valid and no loop needs a null.
-/

namespace Workflow

/-! ### Loops that need a null -/

/-- The value that the loop goes over or counts to is null. -/
def LoopSpec.NeedsNull (l : LoopSpec) : Prop :=
  l.kind = .forEach ∧ l.items = some .null ∨ l.kind = .times ∧ l.times = some .null

theorem LoopSpec.fault?_reread_iff {l : LoopSpec} :
    l.reread.fault? = none ↔ l.fault? = none ∧ ¬ l.NeedsNull := by
  obtain ⟨kind, items, condition, times, itemVariable, maxIterations⟩ := l
  cases kind with
  | forEach =>
    cases items with
    | none => simp [fault?, reread]
    | some v => cases v <;> simp [fault?, reread, NeedsNull, Value.unlessNull?]
  | whileTrue => simp [fault?, reread, NeedsNull]
  | times =>
    cases times with
    | none => simp [fault?, reread]
    | some v => cases v <;> simp [fault?, reread, NeedsNull, Value.unlessNull?]

namespace Step

mutual

/-- The loops of a step and of the steps within it. -/
def loops : Step → List LoopSpec
  | condition _ _ whenTrue whenFalse => loopsOf whenTrue ++ loopsOf whenFalse
  | loop _ spec body => spec :: loopsOf body
  | parallel _ branches => loopsOfBranches branches
  | _ => []

/-- The loops of the steps of a list. -/
def loopsOf : List Step → List LoopSpec
  | [] => []
  | s :: rest => s.loops ++ loopsOf rest

/-- The loops of the steps of branches. -/
def loopsOfBranches : List (List Step) → List LoopSpec
  | [] => []
  | b :: rest => loopsOf b ++ loopsOfBranches rest

end

mutual

theorem fault?_reread_iff (path : Path) : (s : Step) →
    (s.reread.fault? path = none ↔ s.fault? path = none ∧ ∀ l ∈ s.loops, ¬ l.NeedsNull)
  | .action _ _ => by simp [reread, fault?, loops]
  | .condition _ _ whenTrue whenFalse => by
    simp only [reread, fault?, loops, Option.or_eq_none_iff, List.forall_mem_append,
      faults?_rereadAll_iff _ 0 whenTrue, faults?_rereadAll_iff _ 0 whenFalse, and_and_and_comm]
  | .loop _ spec body => by
    have hloop (spec : LoopSpec) (body : List Step) (i : StepInfo) :
        (loop i spec body).fault? path = none ↔
          spec.fault? = none ∧ faults? (path ++ [.body]) 0 body = none := by
      rw [fault?]
      cases spec.fault? <;> simp
    simp only [reread, loops, List.forall_mem_cons, hloop, spec.fault?_reread_iff,
      faults?_rereadAll_iff _ 0 body, and_and_and_comm]
  | .wait _ _ => by simp [reread, fault?, loops]
  | .parallel _ branches => by
    have hparallel (branches : List (List Step)) (i : StepInfo) :
        (parallel i branches).fault? path = none ↔
          branches.isEmpty = false ∧ branchFaults? path 0 branches = none := by
      rw [fault?]
      cases branches <;> simp
    have hempty : (rereadBranches branches).isEmpty = branches.isEmpty := by
      cases branches <;> rfl
    simp only [reread, loops, hparallel, hempty, branchFaults?_rereadBranches_iff path 0 branches,
      and_assoc]
  | .subWorkflow _ _ _ => by simp [reread, fault?, loops]
  | .script _ _ _ => by simp [reread, fault?, loops]

/-- The steps of a list that are read have no fault just if those that were written have none and no
loop needs a null. -/
theorem faults?_rereadAll_iff (list : Path) (i : Nat) : (steps : List Step) →
    (faults? list i (rereadAll steps) = none ↔
      faults? list i steps = none ∧ ∀ l ∈ loopsOf steps, ¬ l.NeedsNull)
  | [] => by simp [rereadAll, faults?, loopsOf]
  | s :: rest => by
    simp only [rereadAll, faults?, loopsOf, Option.or_eq_none_iff, List.forall_mem_append,
      fault?_reread_iff _ s, faults?_rereadAll_iff list (i + 1) rest, and_and_and_comm]

theorem branchFaults?_rereadBranches_iff (step : Path) (b : Nat) : (branches : List (List Step)) →
    (branchFaults? step b (rereadBranches branches) = none ↔
      branchFaults? step b branches = none ∧ ∀ l ∈ loopsOfBranches branches, ¬ l.NeedsNull)
  | [] => by simp [rereadBranches, branchFaults?, loopsOfBranches]
  | ss :: rest => by
    simp only [rereadBranches, branchFaults?, loopsOfBranches, Option.or_eq_none_iff,
      List.forall_mem_append, faults?_rereadAll_iff _ 0 ss,
      branchFaults?_rereadBranches_iff step (b + 1) rest, and_and_and_comm]

end

end Step

namespace Definition

theorem invalid?_reread_iff {d : Definition} :
    d.reread.invalid? = none ↔
      d.invalid? = none ∧ ∀ l ∈ Step.loopsOf d.steps, ¬ l.NeedsNull := by
  have hempty : (Step.rereadAll d.steps).isEmpty = d.steps.isEmpty := by
    cases d.steps <;> rfl
  unfold invalid? reread
  dsimp only
  rw [hempty]
  split
  · simp
  · split
    · simp
    · exact Step.faults?_rereadAll_iff [] 0 d.steps

/-- The document of a definition is accepted just if the definition is valid and no loop of it, at
any depth, needs a value that is null, if the values and the timestamps in it read back. The same
holds of its text in either format if the text is parsed as the document. -/
theorem loads_iff {d : Definition} (hsteps : Step.AllValuesReadBack d.steps)
    (hvars : Value.FieldsReadBack d.vars)
    (htimes : ∀ t, d.createdAt = some t ∨ d.updatedAt = some t →
      Timestamp.ofText? t.text = some t) :
    ((∃ d', ofDocument d.toJson = .ok d') ↔
      d.invalid? = none ∧ ∀ l ∈ Step.loopsOf d.steps, ¬ l.NeedsNull) ∧
    ∀ format : DocumentFormat, format.parse? (d.text format) = some d.toJson →
      ((∃ d', ofText format (d.text format) = .ok d') ↔
        d.invalid? = none ∧ ∀ l ∈ Step.loopsOf d.steps, ¬ l.NeedsNull) := by
  have hread := ofJson?_toJson_eq_reread hsteps hvars (fun t ht => htimes t (.inl ht))
    (fun t ht => htimes t (.inr ht))
  have hdocument : ofDocument d.toJson = d.reread.validate := by
    rw [ofDocument, firstUnknown?_toJson, hread]
  have haccepts : (∃ d', ofDocument d.toJson = .ok d') ↔
      d.invalid? = none ∧ ∀ l ∈ Step.loopsOf d.steps, ¬ l.NeedsNull := by
    rw [hdocument, ← invalid?_reread_iff, validate]
    cases d.reread.invalid? <;> simp
  refine ⟨haccepts, fun format hformat => ?_⟩
  rw [ofText, hformat]
  exact haccepts

/-- A loop over a text, which is fit to be loaded whatever comes of it, within branches. -/
private def overText : Definition :=
  .named "over a text" [.parallel Step.plain [[.loop Step.plain
    ⟨.forEach, some (.text "ab"), none, none, none, none⟩ [.ofWait 5]], []]]

/-- A loop over something other than null is saved and loaded. -/
theorem loads_overText :
    (Step.AllValuesReadBack overText.steps ∧ Value.FieldsReadBack overText.vars ∧
      ∀ t, overText.createdAt = some t ∨ overText.updatedAt = some t →
        Timestamp.ofText? t.text = some t) ∧
    ∃ d', ofDocument overText.toJson = .ok d' := by
  have hitems : LoopSpec.ValuesReadBack ⟨.forEach, some (.text "ab"), none, none, none, none⟩ := by
    refine ⟨fun v hv => ?_, (fun c hc => nomatch hc), (fun v hv => nomatch hv)⟩
    obtain rfl := Option.some.inj hv
    rfl
  have hsteps : Step.AllValuesReadBack overText.steps :=
    ⟨⟨⟨⟨hitems, rfl, trivial⟩, trivial⟩, trivial, trivial⟩, trivial⟩
  have htimes : ∀ t, overText.createdAt = some t ∨ overText.updatedAt = some t →
      Timestamp.ofText? t.text = some t := fun t ht => by
    rcases ht with ht | ht <;> exact nomatch ht
  refine ⟨⟨hsteps, rfl, htimes⟩, (loads_iff hsteps rfl htimes).1.mpr ⟨by decide, fun l hl => ?_⟩⟩
  obtain rfl := List.mem_singleton.mp hl
  simp [LoopSpec.NeedsNull]

/-- A loop over null, which is there. -/
private def overNull : Definition :=
  .named "over null" [.loop Step.plain ⟨.forEach, some .null, none, none, none, none⟩ []]

/-- The loop passes the check and its values read back, yet its document is refused, as what the
loop goes over is missing from it; and so is its text. -/
theorem not_loads_overNull :
    (overNull.invalid? = none ∧ Step.AllValuesReadBack overNull.steps ∧
      Value.FieldsReadBack overNull.vars) ∧
    ofDocument overNull.toJson = .error (.invalid (.step [.step 0] .noItems)) ∧
    ¬ ∃ d', ofText .json (overNull.text .json) = .ok d' := by
  have hitems : LoopSpec.ValuesReadBack ⟨.forEach, some .null, none, none, none, none⟩ := by
    refine ⟨fun v hv => ?_, (fun c hc => nomatch hc), (fun v hv => nomatch hv)⟩
    obtain rfl := Option.some.inj hv
    rfl
  have htext : (ofText .json (overNull.text .json)).toOption.isNone = true := by decide +kernel
  refine ⟨⟨by decide, ⟨⟨hitems, trivial⟩, trivial⟩, rfl⟩, rfl, ?_⟩
  rintro ⟨d', h⟩
  rw [h] at htext
  exact nomatch htext

end Definition

end Workflow

import Workflow.Definition.Validation

/-!
# Steps within steps

A step holds the steps of its lists, and these hold others. The check of a definition visits all of
them: a step passes it just if the step itself and every step within it has what its kind needs,
wherever the check says that it stands.

## Main definitions

* `Workflow.Step.Every` — a condition on a step and all steps within it.
* `Workflow.Step.IsEquipped` — a step has what its kind needs.

## Main results

* `Workflow.Step.fault?_eq_none_iff_every` — what the check finds no fault in.
* `Workflow.Definition.everyOf_isEquipped` — the steps of a definition that is accepted.
-/

namespace Workflow

namespace Step

/-! ### Conditions on all steps -/

section

variable (p : Step → Prop)

mutual

/-- A condition holds of a step and of every step within it. -/
def Every : Step → Prop
  | condition info test whenTrue whenFalse =>
    p (.condition info test whenTrue whenFalse) ∧ EveryOf whenTrue ∧ EveryOf whenFalse
  | loop info spec body => p (.loop info spec body) ∧ EveryOf body
  | parallel info branches => p (.parallel info branches) ∧ EveryOfBranches branches
  | action info payload => p (.action info payload)
  | wait info duration => p (.wait info duration)
  | subWorkflow info workflowId vars => p (.subWorkflow info workflowId vars)
  | script info source timeout => p (.script info source timeout)

/-- A condition holds of every step of a list and every step within them. -/
def EveryOf : List Step → Prop
  | [] => True
  | step :: rest => Every step ∧ EveryOf rest

/-- A condition holds of every step of some branches and every step within them. -/
def EveryOfBranches : List (List Step) → Prop
  | [] => True
  | steps :: rest => EveryOf steps ∧ EveryOfBranches rest

end

end

variable {p q : Step → Prop}

theorem Every.self : {step : Step} → step.Every p → p step
  | .action .., h => h
  | .condition .., h => h.1
  | .loop .., h => h.1
  | .wait .., h => h
  | .parallel .., h => h.1
  | .subWorkflow .., h => h
  | .script .., h => h

mutual

/-- What follows from a condition on a step and all steps within it holds of all of them. -/
theorem Every.mono (h : ∀ s, s.Every p → q s) : (step : Step) → step.Every p → step.Every q
  | .action .., hp => h _ hp
  | .condition _ _ whenTrue whenFalse, hp =>
    ⟨h _ hp, EveryOf.mono h whenTrue hp.2.1, EveryOf.mono h whenFalse hp.2.2⟩
  | .loop _ _ body, hp => ⟨h _ hp, EveryOf.mono h body hp.2⟩
  | .wait .., hp => h _ hp
  | .parallel _ branches, hp => ⟨h _ hp, EveryOfBranches.mono h branches hp.2⟩
  | .subWorkflow .., hp => h _ hp
  | .script .., hp => h _ hp

theorem EveryOf.mono (h : ∀ s, s.Every p → q s) : (steps : List Step) → EveryOf p steps →
    EveryOf q steps
  | [], _ => trivial
  | step :: rest, hp => ⟨Every.mono h step hp.1, EveryOf.mono h rest hp.2⟩

theorem EveryOfBranches.mono (h : ∀ s, s.Every p → q s) : (branches : List (List Step)) →
    EveryOfBranches p branches → EveryOfBranches q branches
  | [], _ => trivial
  | steps :: rest, hp => ⟨EveryOf.mono h steps hp.1, EveryOfBranches.mono h rest hp.2⟩

end

mutual

/-- What holds of all steps holds of a step and every step within it. -/
theorem every_of_forall (h : ∀ s, p s) : (step : Step) → step.Every p
  | .action .. => h _
  | .condition _ _ whenTrue whenFalse =>
    ⟨h _, everyOf_of_forall h whenTrue, everyOf_of_forall h whenFalse⟩
  | .loop _ _ body => ⟨h _, everyOf_of_forall h body⟩
  | .wait .. => h _
  | .parallel _ branches => ⟨h _, everyOfBranches_of_forall h branches⟩
  | .subWorkflow .. => h _
  | .script .. => h _

theorem everyOf_of_forall (h : ∀ s, p s) : (steps : List Step) → EveryOf p steps
  | [] => trivial
  | step :: rest => ⟨every_of_forall h step, everyOf_of_forall h rest⟩

private theorem everyOfBranches_of_forall (h : ∀ s, p s) : (branches : List (List Step)) →
    EveryOfBranches p branches
  | [] => trivial
  | steps :: rest => ⟨everyOf_of_forall h steps, everyOfBranches_of_forall h rest⟩

end

/-! ### The check of steps -/

/-- The step has what its kind needs, whatever the steps within it have. -/
def IsEquipped : Step → Prop
  | loop _ spec _ => spec.fault? = none
  | parallel _ branches => branches ≠ []
  | subWorkflow _ workflowId _ => namesNoWorkflow workflowId = false
  | script _ source _ => Text.allBlank source = false
  | _ => True

mutual

/-- A step passes the check just if it and every step within it has what its kind needs. -/
theorem fault?_eq_none_iff_every (path : Path) : (step : Step) →
    (step.fault? path = none ↔ step.Every IsEquipped)
  | .action .. => by simp [fault?, Every, IsEquipped]
  | .condition _ _ whenTrue whenFalse => by
    simp only [fault?, Every, IsEquipped, Option.or_eq_none_iff, true_and,
      faults?_eq_none_iff_every _ 0 whenTrue, faults?_eq_none_iff_every _ 0 whenFalse]
  | .loop _ spec body => by
    rw [fault?, Every, IsEquipped]
    cases spec.fault? with
    | none => simp [faults?_eq_none_iff_every _ 0 body]
    | some f => simp
  | .wait .. => by simp [fault?, Every, IsEquipped]
  | .parallel _ branches => by
    rw [fault?, Every, IsEquipped]
    cases branches with
    | nil => simp
    | cons steps rest => simp [branchFaults?_eq_none_iff_every path 0 (steps :: rest)]
  | .subWorkflow .. => by simp [fault?, Every, IsEquipped]
  | .script .. => by simp [fault?, Every, IsEquipped]

/-- So do the steps of a list, wherever it stands and its steps are counted from. -/
theorem faults?_eq_none_iff_every (list : Path) (i : Nat) : (steps : List Step) →
    (faults? list i steps = none ↔ EveryOf IsEquipped steps)
  | [] => by simp [faults?, EveryOf]
  | step :: rest => by
    simp only [faults?, EveryOf, Option.or_eq_none_iff, fault?_eq_none_iff_every _ step,
      faults?_eq_none_iff_every list (i + 1) rest]

theorem branchFaults?_eq_none_iff_every (path : Path) (b : Nat) :
    (branches : List (List Step)) →
      (branchFaults? path b branches = none ↔ EveryOfBranches IsEquipped branches)
  | [] => by simp [branchFaults?, EveryOfBranches]
  | steps :: rest => by
    simp only [branchFaults?, EveryOfBranches, Option.or_eq_none_iff,
      faults?_eq_none_iff_every _ 0 steps,
      branchFaults?_eq_none_iff_every path (b + 1) rest]

end

end Step

/-- A loop passes the check just if it has the field that its kind needs. -/
theorem LoopSpec.fault?_eq_none_iff {l : LoopSpec} : l.fault? = none ↔
    (l.kind = .forEach → l.items ≠ none) ∧ (l.kind = .whileTrue → l.condition ≠ none) ∧
      (l.kind = .times → l.times ≠ none) := by
  unfold fault?
  cases l.kind <;> simp

/-- Every step of a definition that is accepted has what its kind needs. -/
theorem Definition.everyOf_isEquipped {d : Definition} (h : d.invalid? = none) :
    Step.EveryOf Step.IsEquipped d.steps := by
  unfold invalid? at h
  split at h
  · exact nomatch h
  · split at h
    · exact nomatch h
    · exact (Step.faults?_eq_none_iff_every [] 0 d.steps).mp h

end Workflow

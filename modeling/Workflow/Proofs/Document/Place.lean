import Workflow.Proofs.Document.Within
import Workflow.Run.Request

/-!
# Where steps stand in a definition

A path leads from the top-level list of a definition to a step: through indices of steps, and from a
step to one of its lists. A run enters the list of a loop anew in every iteration, and its paths say
in which; in the document the list stands once, and there the path of every iteration is the same.
The check of a definition visits each step once, under its path in the document.

## Main definitions

* `Workflow.stepAt?` — the step that a path leads to.
* `Workflow.Path.inDocument` — the path in the document of a path in a run.
* `Workflow.Definition.visits` — the steps that the check of a definition visits.
* `Workflow.Definition.Places` — a step stands at a location in runs of a definition.

## Main results

* `Workflow.Definition.invalid?_eq_findSome?` — the check reports the first fault it visits, under
  its path.
* `Workflow.Definition.Places.child` — from the place of a step to those of the steps in its lists.
-/

namespace Workflow

/-! ### Steps that paths lead to -/

/-- The list of a step that a segment leads to; that of a loop is the same in every iteration. -/
def Step.listAt? : Step → Segment → Option (List Step)
  | condition _ _ whenTrue _, .whenTrue => some whenTrue
  | condition _ _ _ whenFalse, .whenFalse => some whenFalse
  | loop _ _ body, .body => some body
  | loop _ _ body, .iteration _ => some body
  | parallel _ branches, .branch b => branches[b]?
  | _, _ => none

/-- The step that a path leads to from a list. -/
def stepAt? (steps : List Step) : Path → Option Step
  | [.step i] => steps[i]?
  | .step i :: s :: rest =>
    (steps[i]?.bind fun step => step.listAt? s).bind fun list => stepAt? list rest
  | _ => none

/-- A path that leads to a step leads on to the steps of the lists of that step. -/
theorem stepAt?_append {step step' : Step} {s : Segment} {list : List Step} {j : Nat}
    (hs : step.listAt? s = some list) (hj : list[j]? = some step') :
    (steps : List Step) → (p : Path) → stepAt? steps p = some step →
      stepAt? steps (p ++ [s, .step j]) = some step'
  | steps, [.step i], h => by
    have hi : steps[i]? = some step := h
    simp [stepAt?, hi, hs, hj]
  | steps, .step i :: s' :: rest, h => by
    rw [stepAt?] at h
    obtain ⟨list', hlist, hrest⟩ := Option.bind_eq_some_iff.mp h
    rw [List.cons_append, List.cons_append, stepAt?, hlist]
    exact stepAt?_append hs hj list' rest hrest
  | _, [], h => nomatch h

/-- The place in the document of a part of a path: no iteration has a place of its own there. -/
def Segment.inDocument : Segment → Segment
  | iteration _ => body
  | s => s

/-- The path in the document of a path in a run. -/
def Path.inDocument (p : Path) : Path := p.map Segment.inDocument

/-! ### Steps that the check visits -/

namespace Step

mutual

/-- A step and the steps within it in the order in which they are checked, each with its path. -/
def visits (path : Path) : Step → List (Path × Step)
  | condition info test whenTrue whenFalse =>
    (path, condition info test whenTrue whenFalse) ::
      (visitsOf (path ++ [.whenTrue]) 0 whenTrue ++ visitsOf (path ++ [.whenFalse]) 0 whenFalse)
  | loop info spec body => (path, loop info spec body) :: visitsOf (path ++ [.body]) 0 body
  | parallel info branches => (path, parallel info branches) :: branchVisits path 0 branches
  | action info payload => [(path, action info payload)]
  | wait info duration => [(path, wait info duration)]
  | subWorkflow info workflowId vars => [(path, subWorkflow info workflowId vars)]
  | script info source timeout => [(path, script info source timeout)]

/-- The steps of a list, counted from `i`, and the steps within them. -/
def visitsOf (list : Path) (i : Nat) : List Step → List (Path × Step)
  | [] => []
  | step :: rest => visits (list ++ [.step i]) step ++ visitsOf list (i + 1) rest

/-- The steps of branches, counted from `b`, and the steps within them. -/
def branchVisits (path : Path) (b : Nat) : List (List Step) → List (Path × Step)
  | [] => []
  | steps :: rest => visitsOf (path ++ [.branch b]) 0 steps ++ branchVisits path (b + 1) rest

end

/-- What a step lacks itself, whatever the steps within it lack. -/
def ownFault? : Step → Option StepFault
  | loop _ spec _ => spec.fault?
  | parallel _ branches => if branches.isEmpty then some .noBranch else none
  | subWorkflow _ workflowId _ => if namesNoWorkflow workflowId then some .noWorkflow else none
  | script _ source _ => if Text.allBlank source then some .noSource else none
  | _ => none

/-- What is reported of a step that the check visits. -/
def report? (v : Path × Step) : Option Invalid := v.2.ownFault?.map (.step v.1)

mutual

/-- The check of a step reports the first fault of the steps that it visits. -/
theorem fault?_eq_findSome? (path : Path) : (step : Step) →
    step.fault? path = (step.visits path).findSome? report?
  | action .. => rfl
  | condition info test whenTrue whenFalse => by
    rw [fault?, visits, List.findSome?_cons_of_isNone rfl, List.findSome?_append,
      faults?_eq_findSome? _ 0 whenTrue, faults?_eq_findSome? _ 0 whenFalse]
  | loop info spec body => by
    rw [fault?, visits, faults?_eq_findSome? _ 0 body, List.findSome?_cons]
    simp only [report?, ownFault?]
    cases spec.fault? <;> rfl
  | wait .. => rfl
  | parallel info branches => by
    rw [fault?, visits, branchFaults?_eq_findSome? path 0 branches, List.findSome?_cons]
    simp only [report?, ownFault?]
    split <;> rfl
  | subWorkflow info workflowId vars => by
    simp only [fault?, visits, List.findSome?_cons, report?, ownFault?]
    split <;> rfl
  | script info source timeout => by
    simp only [fault?, visits, List.findSome?_cons, report?, ownFault?]
    split <;> rfl

theorem faults?_eq_findSome? (list : Path) (i : Nat) : (steps : List Step) →
    faults? list i steps = (visitsOf list i steps).findSome? report?
  | [] => rfl
  | step :: rest => by
    rw [faults?, visitsOf, List.findSome?_append, fault?_eq_findSome? _ step,
      faults?_eq_findSome? list (i + 1) rest]

theorem branchFaults?_eq_findSome? (path : Path) (b : Nat) : (branches : List (List Step)) →
    branchFaults? path b branches = (branchVisits path b branches).findSome? report?
  | [] => rfl
  | steps :: rest => by
    rw [branchFaults?, branchVisits, List.findSome?_append, faults?_eq_findSome? _ 0 steps,
      branchFaults?_eq_findSome? path (b + 1) rest]

end

/-! ### The places of steps -/

theorem mem_visits_self (path : Path) (step : Step) : (path, step) ∈ step.visits path := by
  cases step <;> exact List.mem_cons_self

/-- What is visited in one of the steps of a list. -/
theorem visits_subset_of_getElem? (list : Path) {steps : List Step} {j : Nat} {step : Step}
    (i : Nat) (h : steps[j]? = some step) :
    step.visits (list ++ [.step (i + j)]) ⊆ visitsOf list i steps := by
  induction steps generalizing i j with
  | nil => cases h
  | cons first rest ih =>
    rw [visitsOf]
    cases j with
    | zero =>
      obtain rfl := Option.some.inj h
      exact List.subset_append_left _ _
    | succ j =>
      rw [Nat.add_succ, ← Nat.succ_add]
      exact List.subset_append_of_subset_right _ (ih _ h)

theorem branchVisits_subset_of_getElem? (path : Path) {branches : List (List Step)} {b : Nat}
    {steps : List Step} (i : Nat) (h : branches[b]? = some steps) :
    visitsOf (path ++ [.branch (i + b)]) 0 steps ⊆ branchVisits path i branches := by
  induction branches generalizing i b with
  | nil => cases h
  | cons first rest ih =>
    rw [branchVisits]
    cases b with
    | zero =>
      obtain rfl := Option.some.inj h
      exact List.subset_append_left _ _
    | succ b =>
      rw [Nat.add_succ, ← Nat.succ_add]
      exact List.subset_append_of_subset_right _ (ih _ h)

/-- What is visited in a step of one of the lists of a step. -/
theorem visits_subset_of_listAt? {step step' : Step} {s : Segment} {list : List Step} {j : Nat}
    (hs : step.listAt? s = some list) (hj : list[j]? = some step') (path : Path) :
    step'.visits (path ++ [s.inDocument, .step j]) ⊆ step.visits path := by
  have hlist : visitsOf (path ++ [s.inDocument]) 0 list ⊆ step.visits path := by
    unfold listAt? at hs
    split at hs
    · cases hs
      exact List.subset_cons_of_subset _ (List.subset_append_left _ _)
    · cases hs
      exact List.subset_cons_of_subset _ (List.subset_append_right _ _)
    · cases hs
      exact List.subset_cons_self _ _
    · cases hs
      exact List.subset_cons_self _ _
    · have hbranch := branchVisits_subset_of_getElem? path 0 hs
      rw [Nat.zero_add] at hbranch
      exact List.subset_cons_of_subset _ hbranch
    · cases hs
  have hstep := visits_subset_of_getElem? (path ++ [s.inDocument]) 0 hj
  rw [Nat.zero_add, List.append_assoc] at hstep
  exact List.Subset.trans hstep hlist

private theorem visits_subset_of_eq {p q : Path} {step step' : Step}
    (h : (p, step') = (q, step)) : step'.visits p ⊆ step.visits q := by
  cases h
  exact List.Subset.refl _

mutual

/-- What is visited in a step that is visited is visited. -/
theorem visits_subset {p q : Path} {step' : Step} : (step : Step) →
    (p, step') ∈ step.visits q → step'.visits p ⊆ step.visits q
  | .action .., h => visits_subset_of_eq (List.mem_singleton.mp h)
  | .condition info test whenTrue whenFalse, h => by
    rcases List.mem_cons.mp h with heq | h
    · exact visits_subset_of_eq heq
    · refine List.subset_cons_of_subset _ ?_
      rcases List.mem_append.mp h with h | h
      · exact List.subset_append_of_subset_left _ (visitsOf_subset whenTrue h)
      · exact List.subset_append_of_subset_right _ (visitsOf_subset whenFalse h)
  | .loop info spec body, h => by
    rcases List.mem_cons.mp h with heq | h
    · exact visits_subset_of_eq heq
    · exact List.subset_cons_of_subset _ (visitsOf_subset body h)
  | .wait .., h => visits_subset_of_eq (List.mem_singleton.mp h)
  | .parallel info branches, h => by
    rcases List.mem_cons.mp h with heq | h
    · exact visits_subset_of_eq heq
    · exact List.subset_cons_of_subset _ (branchVisits_subset branches h)
  | .subWorkflow .., h => visits_subset_of_eq (List.mem_singleton.mp h)
  | .script .., h => visits_subset_of_eq (List.mem_singleton.mp h)

theorem visitsOf_subset {p q : Path} {step' : Step} {i : Nat} : (steps : List Step) →
    (p, step') ∈ visitsOf q i steps → step'.visits p ⊆ visitsOf q i steps
  | [], h => nomatch h
  | step :: rest, h => by
    rcases List.mem_append.mp h with h | h
    · exact List.subset_append_of_subset_left _ (visits_subset step h)
    · exact List.subset_append_of_subset_right _ (visitsOf_subset rest h)

theorem branchVisits_subset {p q : Path} {step' : Step} {b : Nat} :
    (branches : List (List Step)) →
      (p, step') ∈ branchVisits q b branches → step'.visits p ⊆ branchVisits q b branches
  | [], h => nomatch h
  | steps :: rest, h => by
    rcases List.mem_append.mp h with h | h
    · exact List.subset_append_of_subset_left _ (visitsOf_subset steps h)
    · exact List.subset_append_of_subset_right _ (branchVisits_subset rest h)

end

end Step

namespace Definition

/-- The steps that the check of the definition visits, each with its path in the document. -/
def visits (d : Definition) : List (Path × Step) := Step.visitsOf [] 0 d.steps

/-- The check of a definition that has a name and steps reports the first fault that it visits,
under its path. -/
theorem invalid?_eq_findSome? {d : Definition} (hname : Text.allBlank d.name = false)
    (hsteps : d.steps ≠ []) : d.invalid? = d.visits.findSome? Step.report? := by
  rw [invalid?, hname, if_neg Bool.false_ne_true, if_neg (by simpa using hsteps)]
  exact Step.faults?_eq_findSome? [] 0 d.steps

/-- The step stands at the location in runs of the definition: the path leads to it, through the
top-level step that the location names, and the check visits it under the path in the document. -/
structure Places (d : Definition) (location : Location) (step : Step) : Prop where
  index : location.path.head? = some (.step location.index)
  inRun : Segment.body ∉ location.path
  found : stepAt? d.steps location.path = some step
  visited : (location.path.inDocument, step) ∈ d.visits

variable {d : Definition} {location : Location} {step : Step}

theorem places_top {i : Nat} (h : d.steps[i]? = some step) : d.Places (.top i) step where
  index := rfl
  inRun := by simp [Location.top]
  found := h
  visited := by
    have hvisits := Step.visits_subset_of_getElem? [] 0 h
    rw [Nat.zero_add] at hvisits
    exact hvisits (Step.mem_visits_self _ _)

/-- The check of a definition with a name that has steps to run reports the first fault that it
visits. -/
theorem Places.invalid?_eq (h : d.Places location step) (hname : Text.allBlank d.name = false) :
    d.invalid? = d.visits.findSome? Step.report? := by
  refine invalid?_eq_findSome? hname fun hnil => ?_
  have hvisited := h.visited
  rw [visits, hnil] at hvisited
  exact nomatch hvisited

/-- A step in one of the lists of a step stands behind the part that leads to the list. -/
theorem Places.child (h : d.Places location step) {s : Segment} (hs : s ≠ .body) {list : List Step}
    (hlist : step.listAt? s = some list) {j : Nat} {step' : Step} (hj : list[j]? = some step') :
    d.Places ((location.child s).child (.step j)) step' := by
  have hpath : ((location.child s).child (.step j)).path = location.path ++ [s, .step j] :=
    List.append_assoc ..
  have hdocument : ((location.child s).child (.step j)).path.inDocument =
      location.path.inDocument ++ [s.inDocument, .step j] := by
    rw [hpath]
    exact List.map_append
  refine ⟨?_, ?_, ?_, ?_⟩
  · rw [hpath, List.head?_append, h.index]
    rfl
  · rw [hpath]
    simp [h.inRun, hs.symm]
  · rw [hpath]
    exact stepAt?_append hlist hj d.steps location.path h.found
  · rw [hdocument]
    exact Step.visitsOf_subset d.steps h.visited
      (Step.visits_subset_of_listAt? hlist hj _ (Step.mem_visits_self _ _))

end Definition

end Workflow

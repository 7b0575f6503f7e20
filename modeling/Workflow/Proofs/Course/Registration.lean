import Workflow.Proofs.Course.Run
import Workflow.Proofs.Document.Registered
import Workflow.Proofs.Pact.Call
import Workflow.Proofs.Strand.Contract
import Mathlib.Tactic.IntervalCases

/-!
# Runs of registered workflows

A registry that is filled by registering only holds definitions that have passed their check. So
calls for registered workflows attempt only steps that have what their kind needs, with all steps
within them: those of the workflow that was asked for, at any nesting, and those of every workflow
that is called from there, at any depth. The failures that a step comes to because it lacks
something are never told of.

## Main definitions

* `Workflow.StepError.unchecked` — the texts of failures that the check excludes.
* `Workflow.Pact.registered` — what calls do whose definitions have passed their check.
* `Workflow.Course.Registers` — the registry of a course is filled by registering only.

## Main results

* `Workflow.attends_registered` — calls for registered workflows honour the pact.
* `Workflow.Course.attempts_checked` — calls for registered workflows attempt only checked steps.
-/

namespace Workflow

/-! ### Failures that the check excludes -/

namespace StepError

/-- The texts of the failures of loops that no checked definition holds. -/
def unchecked : List String :=
  ["invalid parameter: while loop requires 'condition'", "invalid parameter: not a loop step"]

/-- What begins differently from all texts of a list is none of them. -/
private theorem append_notMem {front : String} {texts : List String}
    (h : ∀ text ∈ texts, ¬ front.toList <+: text.toList) (rest : String) :
    front ++ rest ∉ texts := fun hmem =>
  h _ hmem (String.toList_append ▸ List.prefix_append ..)

private theorem misfit_notMem {misfit : String} (h : misfit ∈ misfits) (rest : String) :
    "invalid parameter: " ++ (misfit ++ rest) ∉ unchecked := by
  rw [← String.append_assoc]
  refine append_notMem ?_ rest
  revert misfit
  decide +kernel

/-- The failures that steps usually come to are told by other texts. -/
theorem IsUsual.message_notMem : {e : StepError} → e.IsUsual → e.message ∉ unchecked
  | invalidParameter _, ⟨_, h, rest, rfl⟩ => misfit_notMem h rest
  | invalidExpression d, _ => append_notMem (by decide +kernel) d
  | workflowNotFound id, _ => append_notMem (by decide +kernel) id
  | actionFailed d, _ => append_notMem (by decide +kernel) d
  | scriptFailed d, _ => append_notMem (by decide +kernel) d
  | tooDeep depth limit, _ => by
    have heq : (tooDeep depth limit).message = "sub-workflow depth " ++
        (Decimal.natText depth ++ (" exceeds maximum " ++ Decimal.natText limit)) := by
      rw [← String.append_assoc, ← String.append_assoc]
      rfl
    exact heq ▸ append_notMem (by decide +kernel) _
  | subWorkflowFailed id d, _ => by
    have heq : (subWorkflowFailed id d).message =
        "sub-workflow '" ++ (id ++ ("' failed: " ++ d)) := by
      rw [← String.append_assoc, ← String.append_assoc]
      rfl
    exact heq ▸ append_notMem (by decide +kernel) _

theorem message_cancelled_notMem : cancelled.message ∉ unchecked := by decide +kernel

end StepError

/-! ### The pact of registered workflows -/

/-- What calls do if what they look up has passed its check: they attempt steps that have what
their kind needs, and do not tell of failures that the check excludes. -/
def Pact.registered : Pact where
  asks
    | .attempt a => a.step.Every Step.IsEquipped
    | .publish e => ∀ text, e.failure? = some text → text ∉ StepError.unchecked
    | _ => True
  joins _ := True
  cancels := True
  expects
    | .lookup _, found => ∀ d, found = some d → d.invalid? = none
    | _, _ => True
  fails e := e.message ∉ StepError.unchecked

/-- Events that tell only of failures of the pact may be told. -/
theorem asks_registered_of_owns {e : Event} (h : Pact.registered.Owns e) :
    Pact.registered.asks (.publish e) := by
  intro text htext
  obtain ⟨error, hfails, rfl⟩ := h text htext
  exact hfails

theorem suits_registered (scope : Scope) : Pact.registered.Suits scope where
  asks r hr := by cases r <;> first | exact trivial | exact hr.elim
  tells _ _ ho := asks_registered_of_owns ho
  joins := trivial
  fails _ he := he.message_notMem
  cancelled _ _ _ _ := StepError.message_cancelled_notMem
  abandoned _ := StepError.message_cancelled_notMem

/-- The pact allows steps that have what their kind needs, with all steps within them. -/
theorem everyOf_allows_registered {steps : List Step} (h : Step.EveryOf Step.IsEquipped steps)
    (scope : Scope) : Step.EveryOf (Pact.registered.Allows scope) steps := by
  refine Step.EveryOf.mono (fun step hstep => ⟨fun _ _ => hstep, fun hlacks => ?_⟩) steps h
  cases step with
  | loop info spec body =>
    obtain ⟨hkind, hcondition⟩ := hlacks
    have hspec : spec.fault? = none := hstep.self
    rw [LoopSpec.fault?, hkind, hcondition] at hspec
    exact nomatch hspec
  | _ => exact hlacks.elim

/-- It attends to all calls. -/
theorem attends_registered (config : Config) :
    Pact.registered.Attends config fun _ _ => True where
  suits scope _ _ := suits_registered scope
  child _ _ _ _ _ _ := trivial
  allows scope _ _ definition _ hfound :=
    everyOf_allows_registered (Definition.everyOf_isEquipped (hfound definition rfl)) scope
  asks r hr := by cases r <;> first | exact trivial | exact hr.elim
  started _ _ _ _ h := nomatch h
  tells _ _ ho := asks_registered_of_owns ho
  top _ _ _ := trivial

/-! ### Courses -/

namespace Course

variable {config : Config} {C : Course config} {registry : Nat → Registry} {i n : Nat}

/-- The registry of a course is filled by registering only, and calls find there what they look
up. -/
structure Registers (C : Course config) (registry : Nat → Registry) : Prop where
  filled : ∀ n, (registry n).Filled
  finds : ∀ i n id found, C.Does i n (.lookup id) found → found = (registry n).get? id

/-- What calls are answered is as the pact expects. -/
theorem Registers.faces (h : C.Registers registry) {s : Stroke} (hs : s ∈ C.turns i n) :
    Pact.registered.Faces s.control s.deed where
  expected r a _ ha _ _ := by
    cases r with
    | lookup id =>
      rintro d rfl
      have hfound := h.finds i _ _ _ (does_of_mem_turns hs ha).2
      exact (h.filled s.time).isSound.valid_of_get? hfound.symm
    | _ => exact trivial
  abandons _ _ _ := trivial

/-- What a call for a registered workflow does is as the pact allows. -/
theorem Registers.asks (h : C.Registers registry) {id : String} {options : RunOptions}
    (hc : C.Called i (.execute id options)) {r : Request} {a : r.Answer} (hd : C.Does i n r a) :
    Pact.registered.asks r := by
  obtain ⟨s, hs, -, ha⟩ := mem_turns_of_does hd (Nat.lt_succ_self n)
  obtain ⟨k, x, hk, hx⟩ := exists_follows_of_does hd (Nat.lt_succ_self n)
  cases called_unique hk hc
  have hhonours := honours_execute (attends_registered config) id options
  exact (honours_follows hx (fun _ => h.faces) hhonours).2 s hs r a ha

/-- Whatever an engine is asked to register, every definition is registered under its own
identifier, which is not blank, and passes its check, and what is refused changes nothing. Calls
for workflows of such a registry, whatever is registered while they go on, attempt only steps that
pass the check with all steps within them, and tell of no failure of a loop that the check
excludes. -/
theorem attempts_checked (config : Config) :
    (∀ r : Registry, r.Filled → ∀ p ∈ r.entries, p.2.id = p.1 ∧ r.get? p.1 = some p.2 ∧
      Text.allBlank p.1 = false ∧ p.2.validate = .ok p.2) ∧
    (∀ (σ : Type) (e : Engine σ) (time : Timestamp) (d : Definition),
      e.register time d = (e.create time d).1.map (·, (e.create time d).2) ∧
      ∀ reason, e.register time d = .error reason →
        (e.create time d).2.registry = e.registry) ∧
    ∀ (C : Course config) (registry : Nat → Registry), C.Registers registry →
      ∀ i id options, C.Called i (.execute id options) → ∀ n,
        (∀ a, C.Does i n (.attempt a) () →
          (∀ path, a.step.fault? path = none) ∧
          (∀ info spec body, a.step = .loop info spec body →
            (spec.kind = .forEach → spec.items ≠ none) ∧
            (spec.kind = .whileTrue → spec.condition ≠ none) ∧
            (spec.kind = .times → spec.times ≠ none)) ∧
          ∀ info branches, a.step = .parallel info branches → branches ≠ []) ∧
        ∀ event, C.Does i n (.publish event) () → ∀ text, event.failure? = some text →
          text ∉ StepError.unchecked := by
  refine ⟨fun r hr p hp => ?_, fun σ e time d => ⟨e.register_eq time d, fun reason he => ?_⟩,
    fun C registry h i id options hc n => ⟨fun a ha => ?_, fun event hd => h.asks hc hd⟩⟩
  · have hsound := hr.isSound
    exact ⟨hsound.ids p hp, hsound.get?_of_mem hp, hsound.named p hp,
      Definition.validate_of_valid (hsound.valid p hp)⟩
  · rcases e.create_cases time d with ⟨d', hd', -⟩ | ⟨-, hr⟩
    · rw [e.register_eq, hd'] at he
      exact nomatch he
    · exact hr
  · have hevery : a.step.Every Step.IsEquipped := h.asks hc ha
    refine ⟨fun path => (Step.fault?_eq_none_iff_every path a.step).mpr hevery, ?_, ?_⟩
    · intro info spec body hstep
      rw [hstep] at hevery
      exact LoopSpec.fault?_eq_none_iff.mp hevery.self
    · intro info branches hstep
      rw [hstep] at hevery
      exact hevery.self

/-! ### A course on which a registered workflow is called -/

/-- A loop that repeats an action while a condition holds. -/
private def repeatingStep : Step :=
  .loop Step.plain ⟨.whileTrue, none, some (.literal true), none, none, none⟩ [.ofAction .null]

/-- A workflow of the loop only, as it is registered. -/
private def repeating : Job :=
  ⟨(Definition.named "job" [repeatingStep]).entered "job" ⟨0, 0⟩, default, .ofNat 0⟩

/-- What an engine has registered that was asked to register the workflow and nothing else. -/
private def repeatingRegistry : Registry :=
  let e : Engine Unit := .initial .default (.echo Host.noScripts) () 0
  (e.create ⟨0, 0⟩ repeating.definition).2.registry

private theorem filled_repeating : repeatingRegistry.Filled := .create .empty _ _

private theorem get?_repeating : repeatingRegistry.get? "job" = some repeating.definition := rfl

/-- The call begins its run and attempts the loop. -/
private def toLoop : List Happening :=
  let job := repeating
  let env := job.env.stamp job.identity
  let does (r : Request) (a : r.Answer) := Happening.turn 0 (.answer r a)
  [.call (.execute "job" default), does (.lookup "job") (some job.definition),
    does .freshId job.run, does job.beginning (.ok 0 : Except ControlError Token),
    does (.publish job.started) (), does (.recordProgress 0 job.env) (), does .boundary true,
    does (.publish (.stepStarted job.run (Location.top 0).forEvents "loop" "loop")) (),
    does (.attempt ⟨repeatingStep, ⟨job.identity, .stop, 0, 0⟩, .top 0, env⟩) ()]

private theorem stretch_toLoop : ∃ s, Stretch .default .initial toLoop s :=
  ⟨_, .cons (.call _ _) <| .cons (.turn rfl (.answer rfl)) <| .cons (.turn rfl (.answer rfl)) <|
    .cons (.turn rfl (.answer ⟨rfl, rfl⟩)) <| .cons (.turn rfl (.answer rfl)) <|
    .cons (.turn rfl (.answer rfl)) <| .cons (.turn rfl (.answer ⟨rfl, rfl⟩)) <|
    .cons (.turn rfl (.answer rfl)) <| .cons (.turn rfl (.answer rfl)) <| .nil _⟩

/-- A call for a registered workflow attempts a loop that passes the check. -/
theorem attempts_checked_loop : ∃ (C : Course .default) (registry : Nat → Registry) (a : Attempt),
    C.Registers registry ∧ C.Called 0 (.execute "job" default) ∧ C.Does 0 8 (.attempt a) () ∧
      a.step.kindName = "loop" ∧ ∀ path, a.step.fault? path = none := by
  obtain ⟨s, p⟩ := stretch_toLoop
  obtain ⟨C, hC, -⟩ := exists_resting_course p
  have hregisters : C.Registers fun _ => repeatingRegistry := by
    refine ⟨fun _ => filled_repeating, ?_⟩
    rintro i n id found ⟨d, hd, ha⟩
    rw [hC] at hd
    have hn : n < 9 := by
      by_contra hn
      rw [List.getElem?_eq_none (Nat.not_lt.mp hn)] at hd
      exact nomatch hd
    interval_cases n <;> cases hd <;> cases ha
    exact get?_repeating.symm
  have hcalled : C.Called 0 (.execute "job" default) := ⟨0, hC 0, by rw [C.start]; rfl⟩
  have hattempt : C.Does 0 8 (.attempt _) () := ⟨_, hC 8, rfl⟩
  exact ⟨C, _, _, hregisters, hcalled, hattempt, rfl,
    (((attempts_checked .default).2.2 C _ hregisters 0 _ _ hcalled 8).1 _ hattempt).1⟩

end Course

end Workflow

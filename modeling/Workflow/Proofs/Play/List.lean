import Workflow.Proofs.Play.Loop
import Workflow.Proofs.Strand.Doings

/-!
# What was done leads a list to its result

Whatever turns a strand takes, what is done on its own line leads it to its result: each answer
leads it on, and of a fork it is only told what the branches have come to. So a list that has come
to a result has run its steps one after another as the error policy says, each to a result of its
own after its retries, and with what was done on the line.

## Main definitions

* `Workflow.Flow.Leads`, `Workflow.Strand.Leads` — what was done leads a flow or a strand to a
  result.
* `Workflow.StepsRun` — the steps of a list one after another, with what was done on the line.

## Main results

* `Workflow.leads_of_follows` — what was done on its line has led an ended strand to its result.
* `Workflow.stepsRun_of_leads` — a list comes to what its steps come to.
-/

namespace Workflow

open Exec

variable {α β : Type}

/-! ### What was done leads to a result -/

/-- What was done on its line leads a flow to a result; what the branches of a fork have come to is
left open. -/
def Flow.Leads : {α : Type} → Flow α → List Deed → α → Prop
  | _, done b, deeds, a => deeds = [] ∧ b = a
  | _, ask r next, deeds, a =>
    ∃ answer rest, deeds = .answer r answer :: rest ∧ (next answer).Leads rest a
  | _, fork _ _ _ next, deeds, a =>
    (∃ ends rest, deeds = .fork :: .join :: rest ∧ (next (some ends)).Leads rest a) ∨
      ∃ rest, deeds = .fork :: .abandon :: rest ∧ (next none).Leads rest a

/-- What leads to the end of two flows leads through that of the first. -/
theorem Flow.Leads.of_bind {f : α → Flow β} {b : β} : (x : Flow α) → {deeds : List Deed} →
    (x.bind f).Leads deeds b →
      ∃ a first rest, deeds = first ++ rest ∧ x.Leads first a ∧ (f a).Leads rest b
  | .done a, deeds, h => ⟨a, [], deeds, rfl, ⟨rfl, rfl⟩, h⟩
  | .ask r next, _, ⟨answer, _, hdeeds, h⟩ => by
    obtain ⟨a, first, rest, rfl, hx, hf⟩ := of_bind (next answer) h
    exact ⟨a, _ :: first, rest, hdeeds, ⟨answer, first, rfl, hx⟩, hf⟩
  | .fork token n branch next, _, .inl ⟨ends, _, hdeeds, h⟩ => by
    obtain ⟨a, first, rest, rfl, hx, hf⟩ := of_bind (next (some ends)) h
    exact ⟨a, _ :: _ :: first, rest, hdeeds, .inl ⟨ends, first, rfl, hx⟩, hf⟩
  | .fork token n branch next, _, .inr ⟨_, hdeeds, h⟩ => by
    obtain ⟨a, first, rest, rfl, hx, hf⟩ := of_bind (next none) h
    exact ⟨a, _ :: _ :: first, rest, hdeeds, .inr ⟨first, rfl, hx⟩, hf⟩

/-- What is done on the line of a strand leads it to a result. -/
def Strand.Leads : {α : Type} → Strand α → List Deed → α → Prop
  | _, line flow, deeds, a => flow.Leads deeds a
  | _, crashed _, _, _ => False
  | _, joining _ _ _ next, deeds, a =>
    (∃ ends rest, deeds = .join :: rest ∧ (next (some ends)).Leads rest a) ∨
      ∃ rest, deeds = .abandon :: rest ∧ (next none).Leads rest a
  | _, beside _ _ rest, deeds, a => rest.Leads deeds a

theorem Strand.leads_of_ended {a : α} : (x : Strand α) → x.ended? = some (.ok a) → x.Leads [] a
  | line (.done _), h => ⟨rfl, Except.ok.inj (Option.some.inj h)⟩
  | beside _ _ rest, h => leads_of_ended rest h

/-- What a strand is led to after a turn it is led to before, by what is done in the turn if that is
done on its line. -/
theorem leads_of_turn {c c' : Control} {x y : Strand α} {d : Deed} {deeds : List Deed} {a : α}
    (t : Turn c x d c' y) (h : y.Leads deeds a) :
    x.Leads (if d.line = [] then d.own :: deeds else deeds) a := by
  induction t with
  | answer => exact ⟨_, deeds, rfl, h⟩
  | crash => exact h.elim
  | fork =>
    rcases h with ⟨ends, rest, rfl, h⟩ | ⟨rest, rfl, h⟩
    · exact .inl ⟨ends, rest, rfl, h⟩
    · exact .inr ⟨rest, rfl, h⟩
  | branch => exact h
  | join => exact .inl ⟨_, deeds, rfl, h⟩
  | abandon => exact .inr ⟨deeds, rfl, h⟩
  | drift => exact h
  | @rest _ _ _ _ _ _ _ d _ ih =>
    have hline : d.shift.line = [] ↔ d.line = [] := by
      rw [Deed.line_shift]
      exact ⟨fun hnil => Line.shift_injective hnil, fun hnil => congrArg Line.shift hnil⟩
    simp only [hline, Deed.own_shift]
    exact ih h

theorem leads_of_follows {l : List Stroke} {x y : Strand α} {deeds : List Deed} {a : α}
    (h : Follows x l y) (hy : y.Leads deeds a) : x.Leads (doneOn [] l ++ deeds) a := by
  induction h generalizing deeds with
  | refl => exact hy
  | @turn y z l s _ _ t ih =>
    have hturn := ih (leads_of_turn t hy)
    rw [doneOn_append, List.append_assoc]
    by_cases hline : s.deed.line = [] <;> simpa [doneOn, hline] using hturn

/-! ### Lists of steps -/

/-- The steps of a list, counted from one on, were run one after another as the error policy says:
from the variables before to those after, with what was done on the line, what each step that was
run has come to after its retries, and the failure that has ended the list before its end. -/
inductive StepsRun (config : Config) (depths : Nat) (scope : Scope) (location : Location) :
    (i : Nat) → List Step → (before : Environment) → List Deed → List (Except StepError Value) →
      Option StepError → (after : Environment) → Prop
  | nil {i : Nat} {env : Environment} :
      StepsRun config depths scope location i [] env [] [] none env
  | next {i : Nat} {step : Step} {rest : List Step} {env env₁ env₂ : Environment}
      {deeds deeds' : List Deed} {r : Except StepError Value}
      {rs : List (Except StepError Value)} {failure : Option StepError}
      (h : ((runStep config (runnerWithin config depths) step scope
        (location.child (.step i))).run.run env).Leads deeds (r, env₁))
      (hgo : r.isOk ∨ scope.onError = .continue ∧ r ≠ .error .cancelled)
      (hrest : StepsRun config depths scope location (i + 1) rest env₁ deeds' rs failure env₂) :
      StepsRun config depths scope location i (step :: rest) env (deeds ++ deeds') (r :: rs) failure
        env₂
  | stopped {i : Nat} {step : Step} {rest : List Step} {env env₁ : Environment}
      {deeds : List Deed} {e : StepError}
      (h : ((runStep config (runnerWithin config depths) step scope
        (location.child (.step i))).run.run env).Leads deeds (.error e, env₁))
      (hstop : scope.onError = .stop ∨ e = .cancelled) :
      StepsRun config depths scope location i (step :: rest) env deeds [.error e] (some e) env₁

/-- What a list comes to behind the results `acc`, by what its steps have come to. -/
def listResult (acc : List Value) (rs : List (Except StepError Value)) :
    Option StepError → BranchResult
  | none => .ok (acc.reverse ++ rs.map resultEntry)
  | some e => .error e

section Lists

variable {config : Config} {depths : Nat} {scope : Scope} {location : Location}

/-- A list comes to what its steps come to. -/
theorem stepsRun_of_leads {r : BranchResult} {env' : Environment} : {steps : List Step} →
    {i : Nat} → {acc : List Value} → {env : Environment} → {deeds : List Deed} →
    ((runItems config (runnerWithin config depths) scope location i acc steps).run.run env).Leads
      deeds (r, env') →
      ∃ rs failure, StepsRun config depths scope location i steps env deeds rs failure env' ∧
        r = listResult acc rs failure
  | [], i, acc, env, _, h => by
    obtain ⟨rfl, heq⟩ := h
    cases heq
    exact ⟨[], none, .nil, by simp [listResult]⟩
  | step :: rest, i, acc, env, _, h => by
    rw [runItems, run_observe_bind, ← runStep] at h
    obtain ⟨⟨r', env₁⟩, first, others, rfl, hstep, h⟩ := Flow.Leads.of_bind _ h
    have hgoes (entry : Value) (hentry : entry = resultEntry r')
        (hgo : r'.isOk ∨ scope.onError = .continue ∧ r' ≠ .error .cancelled)
        (h : ((runItems config (runnerWithin config depths) scope location (i + 1) (entry :: acc)
          rest).run.run env₁).Leads others (r, env')) : ∃ rs failure,
        StepsRun config depths scope location i (step :: rest) env (first ++ others) rs failure
          env' ∧ r = listResult acc rs failure := by
      obtain ⟨rs, failure, hrest, rfl⟩ := stepsRun_of_leads h
      refine ⟨r' :: rs, failure, .next hstep hgo hrest, ?_⟩
      cases failure <;> simp [listResult, hentry]
    have hstops (e : StepError) (he : r' = .error e)
        (hstop : scope.onError = .stop ∨ e = .cancelled)
        (h : (Flow.done (Except.error e, env₁)).Leads others (r, env')) : ∃ rs failure,
        StepsRun config depths scope location i (step :: rest) env (first ++ others) rs failure
          env' ∧ r = listResult acc rs failure := by
      obtain ⟨rfl, heq⟩ := h
      cases heq
      subst he
      rw [List.append_nil]
      exact ⟨_, _, .stopped hstep hstop, rfl⟩
    cases r' with
    | ok v => exact hgoes v rfl (.inl rfl) h
    | error e =>
      by_cases he : e = .cancelled
      · cases he
        exact hstops .cancelled rfl (.inr rfl) h
      · cases e with
        | cancelled => exact absurd rfl he
        | _ =>
          generalize hpolicy : scope.onError = policy at h
          cases policy with
          | stop => exact hstops _ rfl (.inl hpolicy) h
          | «continue» => exact hgoes _ rfl (.inr ⟨hpolicy, by simp⟩) h

variable {steps : List Step} {i : Nat} {env env' : Environment} {deeds : List Deed}
  {rs : List (Except StepError Value)} {failure : Option StepError}

/-- The failure that ends a list is that of a step. -/
theorem StepsRun.mem_of_failure {e : StepError}
    (h : StepsRun config depths scope location i steps env deeds rs (some e) env') :
    .error e ∈ rs := by
  generalize hfailure : some e = failure at h
  induction h with
  | nil => exact nomatch hfailure
  | next _ _ _ ih => exact List.mem_cons_of_mem _ (ih hfailure)
  | stopped => exact Option.some.inj hfailure ▸ List.mem_singleton_self _

/-- Where a failure ends a list, the first one does. -/
theorem StepsRun.failure_of_mem {e : StepError} (hstop : scope.onError = .stop)
    (h : StepsRun config depths scope location i steps env deeds rs failure env')
    (he : .error e ∈ rs) : failure = some e := by
  induction h with
  | nil => exact nomatch he
  | @next _ _ _ _ _ _ _ _ r rs failure _ hgo _ ih =>
    have hr : r.isOk := hgo.resolve_right fun hcontinue => nomatch hstop.symm.trans hcontinue.1
    rcases List.mem_cons.mp he with rfl | he
    · exact nomatch hr
    · exact ih he
  | stopped => exact congrArg some (Except.error.inj (List.mem_singleton.mp he)).symm

/-- Where lists go on, only a cancellation ends one. -/
theorem StepsRun.eq_cancelled (hgo : scope.onError = .continue)
    (h : StepsRun config depths scope location i steps env deeds rs failure env') :
    ∀ e ∈ failure, e = .cancelled := by
  induction h with
  | nil => simp
  | next _ _ _ ih => exact ih
  | stopped _ hstop =>
    rintro _ ⟨⟩
    exact hstop.resolve_left fun h => nomatch hgo.symm.trans h

/-- A list that no failure has ended has run all its steps. -/
theorem StepsRun.length_eq
    (h : StepsRun config depths scope location i steps env deeds rs none env') :
    rs.length = steps.length := by
  generalize hfailure : none = failure at h
  induction h with
  | nil => rfl
  | next _ _ _ ih => simp [ih hfailure]
  | stopped => exact nomatch hfailure

end Lists

end Workflow

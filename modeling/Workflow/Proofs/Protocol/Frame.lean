import Workflow.Proofs.Contract.Step
import Workflow.Proofs.Protocol.Footprint
import Workflow.Proofs.Protocol.Step
import Workflow.Proofs.Protocol.Strand
import Workflow.Proofs.Strand.Call

/-!
# What frames do to variables

What holds of the variables before a step of a frame may depend on the steps that the frame is
through with. If every step leads from what holds before it to what holds behind it, then the steps
of a frame lead to what holds behind all of them, or to what holds where one of them has stopped it.

A frame records its progress on its own line if it is the frame of a run, and the frames of
sub-workflows record none; so these ask only for what their steps ask for. A call begins and ends
its run on its own line as well: no branch of a parallel step and no sub-workflow does so.

## Main definitions

* `Workflow.Scope.Leads` — a step of a frame leads from one condition to another.
* `Workflow.Request.IsOfTrunk` — requests that change how the latest run stands.
* `Workflow.Protocol.trunk` — the protocol that forbids them in branches.

## Main results

* `Workflow.tracks_runFrame` — a frame leads from one condition to another as its steps do.
* `Workflow.hosts_within` — the frames of sub-workflows ask for what the protocol allows if the
  steps of every frame do.
* `Workflow.line_eq_nil` — a call asks on its own line for what changes how its run stands.
-/

namespace Workflow

open Exec

section

variable {σ : Type} {k : Protocol σ} {config : Config} {runner : Option FrameRunner} {scope : Scope}
  {G : σ → Prop} {all : List Step} {before : List Step → Environment → Prop}
  {stopped : FrameFailure → Environment → Prop}

/-- A step leads from what holds before it to what holds behind it, and where it stops its frame to
what holds there. -/
def Scope.Leads (k : Protocol σ) (config : Config) (runner : Option FrameRunner) (scope : Scope)
    (before : List Step → Environment → Prop) (stopped : FrameFailure → Environment → Prop)
    (through : List Step) (step : Step) : Prop :=
  Meets k (before through) (fun _ => before (through ++ [step]))
    (fun e env => stopped ⟨through.length, e⟩ env ∧
      (scope.onError = .continue → e ≠ .cancelled → before (through ++ [step]) env))
    (runStep config runner step scope (.top through.length))

/-- The steps of a frame, from one on, lead as each of them does. -/
private theorem tracks_frameFrom (hG : ∀ g r a, G g → G (k.after g r a))
    (hrec : scope.depth = 0 → ∀ g index env, G g → k.asks g (.recordProgress index env))
    (hsteps : ∀ through step rest, all = through ++ step :: rest →
      scope.Leads k config runner before stopped through step) :
    (steps through : List Step) → (record : RunRecord) → (env : Environment) → (g : σ) →
      all = through ++ steps → before through env → G g →
        ((frameFrom config runner scope through.length record steps).run env).Tracks k
          (fun p _ => (p.1.2 = none → before all p.2) ∧ ∀ f, p.1.2 = some f → stopped f p.2) g
  | [], through, record, env, g, hall, hbefore, _ => by
    rw [List.append_nil] at hall
    subst hall
    refine ⟨fun _ => hbefore, ?_⟩
    rintro f ⟨⟩
  | step :: rest, through, record, env, g, hall, hbefore, hg => by
    have hstep (g : σ) (hg : G g) := Flow.Tracks.stays hG _ hg
      (hsteps through step rest hall env g hbefore)
    -- behind the step the others go on, whatever was logged
    have hnext (record : RunRecord) (env : Environment) (g : σ) (hg : G g)
        (hbefore : before (through ++ [step]) env) :=
      tracks_frameFrom hG hrec hsteps rest (through ++ [step]) record env g (by simp [hall]) hbefore
        hg
    rw [List.length_append] at hnext
    unfold frameFrom
    dsimp only
    split
    case' isTrue h0 => refine ⟨hrec h0 g _ _ hg, fun _ => ?_⟩
    all_goals
      refine Flow.Tracks.bind ?_ ((runStep config runner step scope (.top through.length)).run.run
        env) (hstep _ (by first | exact hg | exact hG _ _ _ hg))
      rintro ⟨e | v, env'⟩ g' ⟨hpost, hg'⟩
      · obtain ⟨hstopped, hcontinue⟩ := hpost
        by_cases he : e = .cancelled
        · cases he
          refine ⟨?_, fun f hf => Option.some.inj hf ▸ hstopped⟩
          rintro ⟨⟩
        · cases e with
          | cancelled => exact absurd rfl he
          | _ =>
            generalize scope.onError = policy at hcontinue hnext ⊢
            cases policy with
            | stop =>
              refine ⟨?_, fun f hf => Option.some.inj hf ▸ hstopped⟩
              rintro ⟨⟩
            | «continue» => exact hnext _ env' g' hg' (hcontinue rfl he)
      · exact hnext _ env' g' hg' hpost

/-- A frame leads from what holds before its steps to what holds behind all of them, or to what
holds where it has stopped. -/
theorem tracks_runFrame (hG : ∀ g r a, G g → G (k.after g r a))
    (hrec : scope.depth = 0 → ∀ g index env, G g → k.asks g (.recordProgress index env))
    {definition : Definition} {env : Environment} {g : σ}
    (hsteps : ∀ through step rest, definition.steps = through ++ step :: rest →
      scope.Leads k config runner before stopped through step)
    (hbefore : before [] env) (hg : G g) :
    (runFrame config runner definition scope env).Tracks k
      (fun e _ => (e.failure = none → before definition.steps e.env) ∧
        ∀ f, e.failure = some f → stopped f e.env) g :=
  Flow.Tracks.bind (fun _ _ h => h) _
    (tracks_frameFrom hG hrec hsteps definition.steps [] _ env g rfl hbefore hg)

/-- If the steps of all frames of a kind, which the frames of their sub-workflows are of, ask only
for what the protocol allows, so do the frames of their sub-workflows, which record no progress. -/
theorem hosts_within {S : Scope → Prop} (hS : ∀ scope definition id, S scope →
      S (scope.child definition id))
    (hsteps : ∀ runner scope location step, S scope → k.Hosts scope runner →
      Upholds k (fun _ => True) (runStep config runner step scope location)) :
    (depths : Nat) → (scope : Scope) → S scope → k.Hosts scope (runnerWithin config depths)
  | 0, _, _ => fun _ hrun => nomatch hrun
  | depths + 1, scope, hscope => by
    rintro run ⟨⟩ definition id env g
    let child := scope.child definition id
    have hchild : S child := hS scope definition id hscope
    have hleads (through : List Step) (step : Step) : child.Leads k config
        (runnerWithin config depths) (fun _ _ => True) (fun _ _ => True) through step :=
      (hsteps _ child _ step hchild (hosts_within hS hsteps depths child hchild)).mono
        (fun _ _ => trivial) (fun _ _ _ => trivial) fun _ _ _ => ⟨trivial, fun _ _ => trivial⟩
    rw [frameWithin_eq]
    exact Flow.Tracks.mono (fun _ _ _ => trivial) _ (tracks_runFrame (G := fun _ => True)
      (fun _ _ _ _ => trivial) (fun h => absurd h (Nat.succ_ne_zero _))
      (fun through step _ _ => hleads through step)
      trivial trivial)

end

/-! ### What is asked for on the line of a call only -/

/-- The request changes how the latest run stands, or what is recorded of it. -/
def Request.IsOfTrunk : Request → Prop
  | begin .. => True
  | finish _ => True
  | recordProgress .. => True
  | recordEnvironment _ => True
  | _ => False

/-- The line of a call may ask for anything, branches for nothing that changes how a run stands. -/
def Protocol.trunk : Protocol Bool where
  start := false
  asks onTrunk r := r.IsOfTrunk → onTrunk = true
  after onTrunk _ _ := onTrunk

theorem lenient_trunk : Protocol.trunk.Lenient := by
  intro g r hr htrunk
  cases r <;> first | exact hr.elim | exact htrunk.elim

/-- Steps ask for nothing that changes how a run stands, and neither do sub-workflows. -/
theorem upholds_trunk (config : Config) (runner : Option FrameRunner) (scope : Scope)
    (location : Location) (step : Step) (hr : Protocol.trunk.Hosts scope runner) :
    Upholds .trunk (fun _ => True) (runStep config runner step scope location) :=
  upholds_runStep lenient_trunk (fun _ _ h => h.elim) hr (fun _ _ => trivial) (.always step)

theorem hosts_trunk (config : Config) (depths : Nat) (scope : Scope) :
    Protocol.trunk.Hosts scope (runnerWithin config depths) :=
  hosts_within (S := fun _ => True) (fun _ _ _ _ => trivial)
    (fun runner scope location step _ => upholds_trunk config runner scope location step) depths
    scope trivial

/-- The frame of a run asks on its line for what the line of a call may ask for. -/
theorem tracks_trunk_frame (config : Config) (depths : Nat) (definition : Definition)
    (scope : Scope) (env : Environment) :
    (frameWithin config depths definition scope env).Tracks .trunk (fun _ _ => True) true := by
  have hleads (through : List Step) (step : Step) : scope.Leads .trunk config
      (runnerWithin config depths) (fun _ _ => True) (fun _ _ => True) through step :=
    (upholds_trunk _ _ scope _ step (hosts_trunk config depths scope)).mono (fun _ _ => trivial)
      (fun _ _ _ => trivial) fun _ _ _ => ⟨trivial, fun _ _ => trivial⟩
  rw [frameWithin_eq]
  exact Flow.Tracks.mono (fun _ _ _ => trivial) _ (tracks_runFrame (G := (· = true))
    (fun _ _ _ hg => hg) (fun _ _ _ _ hg _ => hg) (fun through step _ _ => hleads through step)
    trivial rfl)

variable {config : Config}

theorem tracks_trunk_executeDefinition (definition : Definition) (options : RunOptions) :
    (executeDefinition config definition options).Tracks .trunk (fun _ _ => True) true := by
  rw [executeDefinition_eq]
  refine ⟨fun _ => rfl, fun run => ⟨fun _ => rfl, fun a => ?_⟩⟩
  cases a with
  | error e => trivial
  | ok token =>
    have hframe := Flow.Tracks.stays (G := (· = true)) (fun _ _ _ hg => hg) _ rfl
      (tracks_trunk_frame config config.maxDepth definition
        ⟨⟨definition.id, run, options.target⟩, definition.onError, token, 0⟩
        (Job.env ⟨definition, options, run⟩))
    refine ⟨fun _ => rfl, fun _ => Flow.Tracks.bind ?_ _ hframe⟩
    rintro ended _ ⟨-, rfl⟩
    rw [settle_eq]
    exact ⟨fun _ => rfl, fun _ => ⟨fun _ => rfl, fun _ => ⟨fun _ => rfl, fun _ => trivial⟩⟩⟩

theorem tracks_trunk_errand (k : Errand) :
    (k.flow config).Tracks .trunk (fun _ _ => True) true := by
  cases k with
  | executeDefinition definition options => exact tracks_trunk_executeDefinition definition options
  | execute id options =>
    rw [Errand.flow, execute_eq]
    refine ⟨fun _ => rfl, fun found => ?_⟩
    cases found with
    | none => trivial
    | some definition => exact tracks_trunk_executeDefinition definition options

/-- On its own line only does a call ask for what changes how a run stands. -/
theorem line_eq_nil {k : Errand} {l : List Stroke} {x : Strand RunEnd} {s : Stroke} {r : Request}
    {a : r.Answer} (h : Follows (.line (k.flow config)) l x) (hs : s ∈ l)
    (ha : s.deed.own = .answer r a) (hr : r.IsOfTrunk) : s.deed.line = [] := by
  let trunk : Lined Bool := List.isEmpty
  have hstart : (Strand.line (k.flow config)).Tracks .trunk (fun _ _ => True) trunk :=
    ⟨tracks_trunk_errand k, fun _ _ _ => rfl⟩
  have hpast : ∀ l : List Stroke, trunk.past Protocol.trunk.step l = trunk := by
    intro l
    induction l with
    | nil => rfl
    | cons s l ih =>
      have hsame : trunk.after Protocol.trunk.step s.deed = trunk :=
        Lined.after_of_same (by cases s.deed.own <;> rfl)
      rw [Lined.past_cons, hsame, ih]
  obtain ⟨l₁, l₂, hl⟩ := List.append_of_mem hs
  have hasks := (tracks_follows h hstart).2 l₁ s l₂ hl r a ha hr
  rw [hpast] at hasks
  exact List.isEmpty_iff.mp hasks

end Workflow

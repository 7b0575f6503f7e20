import Mathlib.Data.Set.BooleanAlgebra
import Mathlib.Order.CompletePartialOrder
import Workflow.Proofs.Document.Place
import Workflow.Proofs.Pact.Flow
import Workflow.Proofs.Story.Basic
import Workflow.Proofs.Story.Path

/-!
# Which steps a flow may start

A flow may start the steps of the definitions that it runs: those of the definition that was looked
up last, under the identifier that is given then, wherever they stand in runs of that definition. An
agenda holds what may still be started. If steps are to be started once only, a step is struck off
when it starts; what follows a flow starts other steps than the flow, and branches share what is
left, so that no step is left to two of them.

## Main definitions

* `Workflow.Opening` — a step of a run that may be started.
* `Workflow.Definition.openings` — the steps of a definition at some paths.
* `Workflow.Agenda` — what may be started, and what is known.
* `Workflow.Flow.Opens`, `Workflow.Exec.Opens` — flows that start what an agenda holds.

## Main results

* `Workflow.Flow.Opens.bind`, `Workflow.Exec.opens_bind` — one flow after another.
-/

namespace Workflow

/-! ### Openings -/

/-- A step of a run that may be started, and where it stands. -/
structure Opening where
  run : RunId
  location : Location
  step : Step

namespace Opening

/-- What tells that the step starts. -/
def event (o : Opening) : Event :=
  .stepStarted o.run o.location.forEvents o.step.label o.step.kindName

/-- The step as events name it. -/
def spot (o : Opening) : Spot := ⟨o.run, o.location.path.text⟩

theorem path_eq_of_spot {o o' : Opening} (h : o.spot = o'.spot) :
    o.location.path = o'.location.path :=
  Path.text_injective (Spot.mk.inj h).2

/-- No step of one set is named by events as one of the other. -/
def Apart (N N' : Set Opening) : Prop := ∀ o ∈ N, ∀ o' ∈ N', o.spot ≠ o'.spot

theorem Apart.mono {M N M' N' : Set Opening} (h : Apart N N') (hM : M ⊆ N) (hM' : M' ⊆ N') :
    Apart M M' := fun o ho o' ho' => h o (hM ho) o' (hM' ho')

theorem Apart.symm {N N' : Set Opening} (h : Apart N N') : Apart N' N :=
  fun o ho o' ho' hs => h o' ho' o ho hs.symm

theorem Apart.union {M N N' : Set Opening} (h : Apart M N') (h' : Apart N N') :
    Apart (M ∪ N) N' := fun o ho => ho.elim (h o) (h' o)

/-- Steps of other runs are named otherwise. -/
theorem apart_of_run {N N' : Set Opening} (h : ∀ o ∈ N, ∀ o' ∈ N', o.run ≠ o'.run) : Apart N N' :=
  fun o ho o' ho' hs => h o ho o' ho' (Spot.mk.inj hs).1

end Opening

/-- The steps of a definition that a run may start at some paths. -/
def Definition.openings (d : Definition) (run : RunId) (Z : Set Path) : Set Opening :=
  {o | o.run = run ∧ d.Places o.location o.step ∧ o.location.path ∈ Z}

namespace Definition

variable {d : Definition} {run : RunId} {Y Z : Set Path}

theorem openings_mono (h : Y ⊆ Z) : d.openings run Y ⊆ d.openings run Z :=
  fun _ ho => ⟨ho.1, ho.2.1, h ho.2.2⟩

theorem openings_union : d.openings run (Y ∪ Z) = d.openings run Y ∪ d.openings run Z := by
  ext o
  simp only [openings, Set.mem_ofPred_eq, Set.mem_union, and_or_left]

theorem apart_openings (h : Disjoint Y Z) :
    Opening.Apart (d.openings run Y) (d.openings run Z) := by
  rintro o ⟨-, -, ho⟩ o' ⟨-, -, ho'⟩ hs
  rw [Opening.path_eq_of_spot hs] at ho
  exact Set.disjoint_left.mp h ho ho'

end Definition

/-! ### Agendas -/

/-- What may be started on a line, and what is known there: the identifiers that were given, and the
definition that was looked up if that was done last. -/
@[ext]
structure Agenda where
  known : Set RunId
  found : Option Definition
  openings : Set Opening

/-- A step that runs other steps within the same frame. -/
def Step.isCompound : Step → Bool
  | condition .. => true
  | loop .. => true
  | parallel .. => true
  | _ => false

/-- No step of the definition that runs others in its frame is tried again. -/
def Definition.IsSteady (config : Config) (d : Definition) : Prop :=
  ∀ v ∈ d.visits, v.2.isCompound = true → RetrySchedule.ofPolicy? v.2.info.retry config = none

section

variable (config : Config) (once : Prop)

namespace Agenda

/-- The agenda after a request: with an identifier come the steps of the definition that was looked
up, and a step that has started is struck off if it is to be started once only. -/
def after (g : Agenda) : (r : Request) → r.Answer → Agenda
  | .publish e, _ =>
    ⟨g.known, none, {o ∈ g.openings | once → e.phase? ≠ some (.starts, o.spot)}⟩
  | .lookup _, found => ⟨g.known, found, g.openings⟩
  | .freshId, run =>
    ⟨insert run g.known, none, g.openings ∪ {o | ∃ d ∈ g.found, o ∈ d.openings run Set.univ}⟩
  | _, _ => ⟨g.known, none, g.openings⟩

/-- What tells that a step starts tells so of a step on the agenda. -/
def Allows (g : Agenda) : Request → Prop
  | .publish e => ∀ s, e.phase? = some (.starts, s) → ∃ o ∈ g.openings, e = o.event
  | _ => True

/-- The answer is to be reckoned with: if steps are to be started once only, identifiers are given
once only, and no step that runs others is tried again. -/
def Reckons (g : Agenda) : (r : Request) → r.Answer → Prop
  | .freshId, run => once → run ∉ g.known
  | .lookup _, found => once → ∀ d ∈ found, d.IsSteady config
  | _, _ => True

/-- One agenda holds what another does, and there is no less known. -/
structure Within (g g' : Agenda) : Prop where
  known : g.known ⊆ g'.known
  found : g.found = g'.found
  openings : g.openings ⊆ g'.openings

end Agenda

/-- What is left to branches and to what follows them: parts of what there was, without a step in
common if steps are to be started once only. -/
structure Opening.Shares {ι : Type} (N : Set Opening) (share : ι → Set Opening) : Prop where
  subset : ∀ p, share p ⊆ N
  apart : once → ∀ p q, p ≠ q → Apart (share p) (share q)

namespace Flow

/-- The flow starts, from an agenda on, only what the agenda holds. -/
def Opens : {α : Type} → Agenda → Flow α → Prop
  | _, _, done _ => True
  | _, g, ask r next =>
    g.Allows r ∧ ∀ a, g.Reckons config once r a → Opens (g.after once r a) (next a)
  | _, g, fork _ n branch next =>
    ∃ share : Option (Fin n) → Set Opening, Opening.Shares once g.openings share ∧
      (∀ b, Opens ⟨g.known, none, share (some b)⟩ (branch b)) ∧
        ∀ ends, Opens ⟨g.known, g.found, share none⟩ (next ends)

end Flow

end

variable {config : Config} {once : Prop}

namespace Agenda

variable {g g' : Agenda} {r : Request} {a : r.Answer}

theorem Within.after (h : g.Within g') : (g.after once r a).Within (g'.after once r a) := by
  obtain ⟨hknown, hfound, hopenings⟩ := h
  cases r with
  | publish e => exact ⟨hknown, rfl, fun o ho => ⟨hopenings ho.1, ho.2⟩⟩
  | lookup id => exact ⟨hknown, rfl, hopenings⟩
  | freshId =>
    refine ⟨Set.insert_subset_insert hknown, rfl, Set.union_subset_union hopenings ?_⟩
    rw [hfound]
  | _ => exact ⟨hknown, rfl, hopenings⟩

theorem Within.allows (h : g.Within g') (hr : g.Allows r) : g'.Allows r := by
  cases r with
  | publish e =>
    intro s hs
    obtain ⟨o, ho, he⟩ := hr s hs
    exact ⟨o, h.openings ho, he⟩
  | _ => trivial

theorem Within.reckons (h : g.Within g') (ha : g'.Reckons config once r a) :
    g.Reckons config once r a := by
  cases r with
  | freshId => exact fun honce hmem => ha honce (h.known hmem)
  | _ => exact ha

theorem known_subset_after : g.known ⊆ (g.after once r a).known := by
  cases r with
  | freshId => exact Set.subset_insert _ _
  | _ => exact Set.Subset.rfl

/-- What is apart from an agenda, and of runs that are known, stays on a larger one while what the
agenda holds is started. -/
theorem Within.of_apart {N : Set Opening} (hr : g.Allows r) (ha : g.Reckons config once r a)
    (hapart : once → Opening.Apart g.openings N) (hN : ∀ o ∈ N, o.run ∈ g.known) :
    (once → Opening.Apart (g.after once r a).openings N) ∧
      Agenda.Within { g.after once r a with openings := (g.after once r a).openings ∪ N }
        (Agenda.after once { g with openings := g.openings ∪ N } r a) := by
  cases r with
  | publish e =>
    refine ⟨fun honce => (hapart honce).mono (fun _ ho => ho.1) Set.Subset.rfl,
      Set.Subset.rfl, rfl, ?_⟩
    rintro o (ho | ho)
    · exact ⟨.inl ho.1, ho.2⟩
    · refine ⟨.inr ho, fun honce hs => ?_⟩
      obtain ⟨o', ho', rfl⟩ := hr o.spot hs
      exact hapart honce o' ho' o ho (Prod.mk.inj (Option.some.inj hs)).2
  | freshId =>
    refine ⟨fun honce => (hapart honce).union (Opening.apart_of_run ?_), Set.Subset.rfl, rfl, ?_⟩
    · rintro o ⟨d, -, hrun, -⟩ o' ho' hsame
      exact ha honce (hrun ▸ hsame ▸ hN o' ho')
    · exact (Set.union_right_comm _ _ _).subset
  | _ => exact ⟨hapart, Set.Subset.rfl, rfl, Set.Subset.rfl⟩

end Agenda

namespace Flow

variable {α β : Type}

theorem Opens.mono : {α : Type} → {g g' : Agenda} → g.Within g' → (x : Flow α) →
    x.Opens config once g → x.Opens config once g'
  | _, _, _, _, done _, _ => trivial
  | _, _, _, hg, ask _ next, hx =>
    ⟨hg.allows hx.1, fun a ha => mono hg.after (next a) (hx.2 a (hg.reckons ha))⟩
  | _, g, g', hg, fork _ _ branch next, hx => by
    obtain ⟨share, hshare, hbranch, hnext⟩ := hx
    have hfork (found : Option Definition) (N : Set Opening) :
        (⟨g.known, found, N⟩ : Agenda).Within ⟨g'.known, found, N⟩ :=
      ⟨hg.known, rfl, Set.Subset.rfl⟩
    refine ⟨share, ⟨fun p => (hshare.subset p).trans hg.openings, hshare.apart⟩,
      fun b => mono (hfork none _) (branch b) (hbranch b), fun ends => ?_⟩
    rw [← hg.found]
    exact mono (hfork g.found _) (next ends) (hnext ends)

/-- What may be started may be started when more identifiers were given. -/
theorem Opens.mono_known {g : Agenda} {K : Set RunId} (hK : g.known ⊆ K) {x : Flow α}
    (hx : x.Opens config once g) : x.Opens config once { g with known := K } := by
  have hwithin : g.Within { g with known := K } := ⟨hK, rfl, Set.Subset.rfl⟩
  exact mono hwithin x hx

/-- A flow followed by another starts what both start. -/
theorem Opens.bind {f : α → Flow β} {N : Set Opening} : {g : Agenda} → (x : Flow α) →
    x.Opens config once g → (once → Opening.Apart g.openings N) → (∀ o ∈ N, o.run ∈ g.known) →
      (∀ a g', g.known ⊆ g'.known → N ⊆ g'.openings → (f a).Opens config once g') →
        (x.bind f).Opens config once { g with openings := g.openings ∪ N }
  | _, done a, _, _, _, hf => hf a _ Set.Subset.rfl Set.subset_union_right
  | g, ask r next, hx, hapart, hN, hf => by
    obtain ⟨hr, hnext⟩ := hx
    have hinto : g.Within { g with openings := g.openings ∪ N } :=
      ⟨Set.Subset.rfl, rfl, Set.subset_union_left⟩
    refine ⟨hinto.allows hr, fun a ha => ?_⟩
    have hreckons : g.Reckons config once r a := hinto.reckons ha
    obtain ⟨hapart', hwithin⟩ := Agenda.Within.of_apart hr hreckons hapart hN
    have hknown : g.known ⊆ (g.after once r a).known := Agenda.known_subset_after
    exact mono hwithin _ (bind (next a) (hnext a hreckons) hapart' (fun o ho => hknown (hN o ho))
      fun b g' hg' hN' => hf b g' (hknown.trans hg') hN')
  | g, fork _ n branch next, hx, hapart, hN, hf => by
    obtain ⟨share, hshare, hbranch, hnext⟩ := hx
    refine ⟨fun p => p.elim (share none ∪ N) fun b => share (some b), ⟨?_, fun honce => ?_⟩,
      hbranch, fun ends => ?_⟩
    · rintro (_ | b)
      · exact Set.union_subset_union_left N (hshare.subset none)
      · exact (hshare.subset (some b)).trans Set.subset_union_left
    · have hlast (b : Fin n) : Opening.Apart (share none ∪ N) (share (some b)) :=
        (hshare.apart honce none (some b) nofun).union
          ((hapart honce).mono (hshare.subset (some b)) Set.Subset.rfl).symm
      rintro (_ | b) (_ | b') hne
      · exact absurd rfl hne
      · exact hlast b'
      · exact (hlast b).symm
      · exact hshare.apart honce _ _ hne
    · exact bind (next ends) (hnext ends) (fun honce =>
        (hapart honce).mono (hshare.subset none) Set.Subset.rfl) hN hf

/-- What follows a flow and starts nothing. -/
theorem Opens.bind_mute {f : α → Flow β} {g : Agenda} {x : Flow α} (hx : x.Opens config once g)
    (hf : ∀ a g', (f a).Opens config once g') : (x.bind f).Opens config once g := by
  have hwithin : Agenda.Within { g with openings := g.openings ∪ ∅ } g :=
    ⟨Set.Subset.rfl, rfl, (Set.union_empty _).subset⟩
  exact mono hwithin _ (bind x hx (fun _ _ _ _ h => h.elim) (fun _ h => h.elim)
    fun a g' _ _ => hf a g')

end Flow

/-! ### Flows with variables -/

/-- What is asked for starts no step, and the answer adds nothing to an agenda. -/
def Request.OpensNothing : Request → Prop
  | publish e => ∀ s, e.phase? ≠ some (.starts, s)
  | lookup _ => False
  | freshId => False
  | _ => True

namespace Exec

variable {α β : Type} {d : Definition} {run : RunId} {Y Z : Set Path}

/-- The flow starts, from any variables and any agenda on that holds the steps of a run at some
paths, only what the agenda holds, and of the run no steps at other paths. -/
def Opens (config : Config) (once : Prop) (d : Definition) (run : RunId) (Z : Set Path)
    (x : Exec α) : Prop :=
  ∀ env g, run ∈ g.known → d.openings run Z ⊆ g.openings → (x.run.run env).Opens config once g

theorem Opens.mono {x : Exec α} (h : x.Opens config once d run Y) (hZ : Y ⊆ Z) :
    x.Opens config once d run Z :=
  fun env g hrun hg => h env g hrun ((Definition.openings_mono hZ).trans hg)

theorem opens_pure (a : α) : (pure a : Exec α).Opens config once d run Z := fun _ _ _ _ => trivial

theorem opens_throw (e : StepError) : (throw e : Exec α).Opens config once d run Z :=
  fun _ _ _ _ => trivial

/-- What is left to a flow, and what to those that follow. -/
theorem opens_bind_flow {x : Flow α} {f : α → Flow β} {g : Agenda} (hrun : run ∈ g.known)
    (hx : ∀ g', run ∈ g'.known → d.openings run Y ⊆ g'.openings → x.Opens config once g')
    (hf : ∀ a g', run ∈ g'.known → d.openings run Z ⊆ g'.openings → (f a).Opens config once g')
    (hYZ : once → Disjoint Y Z) (hg : d.openings run (Y ∪ Z) ⊆ g.openings) :
    (x.bind f).Opens config once g := by
  rw [Definition.openings_union] at hg
  have hwithin : Agenda.Within ⟨g.known, g.found, d.openings run Y ∪ d.openings run Z⟩ g :=
    ⟨Set.Subset.rfl, rfl, hg⟩
  refine Flow.Opens.mono hwithin _ (Flow.Opens.bind (g := ⟨g.known, g.found, d.openings run Y⟩) x
    (hx _ hrun Set.Subset.rfl) (fun honce => Definition.apart_openings (hYZ honce)) ?_ ?_)
  · rintro o ⟨rfl, -, -⟩
    exact hrun
  · exact fun a g' hg' hN => hf a g' (hg' hrun) hN

/-- A flow followed by others starts what they all start. -/
theorem opens_bind {x : Exec α} {f : α → Exec β} (hx : x.Opens config once d run Y)
    (hf : ∀ a, (f a).Opens config once d run Z) (hYZ : once → Disjoint Y Z) :
    (x >>= f).Opens config once d run (Y ∪ Z) := by
  intro env g hrun hg
  refine opens_bind_flow hrun (hx env) ?_ hYZ hg
  rintro ⟨e | a, env'⟩ g' hrun' hg'
  · trivial
  · exact hf a env' g' hrun' hg'

/-- What follows a flow and starts nothing. -/
theorem opens_bind_mute {x : Exec α} {f : α → Exec β} (hx : x.Opens config once d run Z)
    (hf : ∀ a, (f a).Opens config once d run ∅) : (x >>= f).Opens config once d run Z :=
  (opens_bind hx hf fun _ => disjoint_bot_right).mono (Set.union_empty Z).subset

/-- What is looked at before others follow. -/
theorem opens_observe_bind {x : Exec α} {f : Except StepError α → Exec β}
    (hx : x.Opens config once d run Y) (hf : ∀ r, (f r).Opens config once d run Z)
    (hYZ : once → Disjoint Y Z) : (observe x >>= f).Opens config once d run (Y ∪ Z) := by
  intro env g hrun hg
  rw [run_observe_bind]
  exact opens_bind_flow hrun (hx env) (fun p g' hrun' hg' => hf p.1 p.2 g' hrun' hg') hYZ hg

theorem opens_map {x : Exec α} (f : α → β) (hx : x.Opens config once d run Z) :
    (f <$> x).Opens config once d run Z := opens_bind_mute hx fun _ => opens_pure _

theorem opens_get_bind {f : Environment → Exec β} (hf : ∀ env, (f env).Opens config once d run Z) :
    (get >>= f).Opens config once d run Z := fun env => hf env env

theorem opens_modify_bind {f : Environment → Environment} {x : Unit → Exec β}
    (hx : (x ()).Opens config once d run Z) : (modify f >>= x).Opens config once d run Z :=
  fun env => hx (f env)

theorem opens_orCancelled (goesOn : Bool) : (orCancelled goesOn).Opens config once d run Z := by
  cases goesOn with
  | true => exact opens_pure ()
  | false => exact opens_throw _

theorem opens_request_bind {r : Request} {f : r.Answer → Exec β}
    (hf : ∀ a, (f a).Opens config once d run Z) (hr : r.OpensNothing) :
    (request r >>= f).Opens config once d run Z := by
  refine fun env g hrun hg => ⟨?_, fun a _ => hf a env _ ?_ ?_⟩
  · cases r with
    | publish e => exact fun s hs => absurd hs (hr s)
    | _ => trivial
  · exact Agenda.known_subset_after hrun
  · cases r with
    | publish e => exact fun o ho => ⟨hg ho, fun _ => hr _⟩
    | lookup => exact hr.elim
    | freshId => exact hr.elim
    | _ => exact hg

end Exec

end Workflow

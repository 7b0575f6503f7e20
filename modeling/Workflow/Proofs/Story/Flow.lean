import Workflow.Proofs.Story.Basic
import Workflow.Proofs.Story.Path

/-!
# Flows that open and close steps in order

Every step has an address: its path, behind the address of the step that has called its run. While
a flow is carried on, steps are open on its line, each below the one that was opened before it, with
no other step between. A flow obeys the order of steps if it opens a step only below the innermost
open one, tells only of the innermost one that it is tried again or has ended, and gives a run an
identifier only while a step is open; a branch starts with nothing open, below the innermost open
step of its line, and leaves nothing open.

Of a flow that may be cancelled it is only said that it tells of runs whose identifiers are known.

## Main definitions

* `Workflow.Address`, `Workflow.Site` — where steps stand among all steps of a call.
* `Workflow.Standing` — the steps that are open on a line.
* `Workflow.Terms`, `Workflow.Flow.Obeys` — flows that open and close steps in order.
* `Workflow.Exec.Stays` — flows with variables that do so and leave what is open as they found it.

## Main results

* `Workflow.Flow.Obeys.bind` — one flow after another obeys.
-/

namespace Workflow

/-! ### Addresses -/

/-- A part of an address: a segment of a path, or a run that is called. -/
inductive Leg where
  | part (s : Segment)
  | call (run : RunId)

/-- Where something stands among all steps of a call, from the outermost down. -/
abbrev Address := List Leg

/-- The leg leads to a step. -/
def Leg.IsStep : Leg → Prop
  | part (.step _) => True
  | _ => False

/-- What stands at the inner address is a step below the outer one, with no other step between. -/
def Address.Opens (outer inner : Address) : Prop :=
  ∃ (legs : List Leg) (i : Nat), inner = outer ++ legs ++ [.part (.step i)] ∧
    ∀ leg ∈ legs, ¬ leg.IsStep

/-- A step with the address of its run. -/
structure Site where
  run : RunId
  home : Address
  path : Path

namespace Site

/-- The step as events name it. -/
def spot (s : Site) : Spot := ⟨s.run, s.path.text⟩

/-- The address of the step. -/
def address (s : Site) : Address := s.home ++ s.path.map .part

end Site

/-- The site of a step of a frame. -/
def Location.site (location : Location) (run : RunId) (home : Address) : Site :=
  ⟨run, home, location.path⟩

/-- The address of a branch, or of a list of steps, is one part further than that of the step. -/
theorem Location.address_child (location : Location) (run : RunId) (home : Address) (s : Segment) :
    ((location.child s).site run home).address = (location.site run home).address ++ [.part s] := by
  simp [site, child, Site.address]

/-! ### Standings -/

/-- The steps that are open on a line, the innermost first, with the address that the line starts
below, and the events that have closed steps around which no other was open. -/
structure Standing where
  base : Address
  opened : List Site
  closed : List Event

namespace Standing

/-- The address of the innermost open step, or that which the line starts below. -/
def top (g : Standing) : Address := (g.opened.head?.map Site.address).getD g.base

theorem top_nil (base : Address) (closed : List Event) :
    (⟨base, [], closed⟩ : Standing).top = base :=
  rfl

theorem top_of_cons {g : Standing} {s : Site} {rest : List Site} (h : g.opened = s :: rest) :
    g.top = s.address := by
  rw [top, h]
  rfl

/-- What the pages of the strand say about the line. -/
def page (g : Standing) : Page := ⟨g.opened.map Site.spot, g.closed⟩

/-- The standing after a step was opened and closed again. -/
def close (g : Standing) (e : Event) : Standing :=
  { g with closed := if g.opened = [] then g.closed ++ [e] else g.closed }

/-- The same is open, and has been closed inside of what is open. -/
structure Like (g g' : Standing) : Prop where
  base : g'.base = g.base
  opened : g'.opened = g.opened
  closed : g.opened ≠ [] → g'.closed = g.closed

namespace Like

variable {g g' g'' : Standing}

theorem refl (g : Standing) : g.Like g := ⟨rfl, rfl, fun _ => rfl⟩

theorem trans (h : g.Like g') (h' : g'.Like g'') : g.Like g'' where
  base := h'.base.trans h.base
  opened := h'.opened.trans h.opened
  closed hne := (h'.closed (h.opened ▸ hne)).trans (h.closed hne)

theorem top_eq (h : g.Like g') : g'.top = g.top := by rw [top, top, h.opened, h.base]

theorem eq (h : g.Like g') (hne : g.opened ≠ []) : g' = g := by
  have hclosed := h.closed hne
  obtain ⟨base, opened, closed⟩ := g
  obtain ⟨base', opened', closed'⟩ := g'
  obtain ⟨rfl, rfl, -⟩ := h
  exact congrArg _ hclosed

theorem close (g : Standing) (e : Event) : g.Like (g.close e) :=
  ⟨rfl, rfl, fun hne => if_neg hne⟩

end Like

end Standing

/-! ### Terms -/

/-- What is known of a call from outside of its flow: the addresses of its runs, and whether it may
be cancelled. -/
structure Terms where
  home : RunId → Address → Prop
  cancels : Prop

section

variable (t : Terms) (g : Standing)

/-- What is open after an event that keeps to the order of steps. -/
inductive Standing.Tells (e : Event) : Standing → Prop
  | starts {s : Site} (he : e.phase? = some (.starts, s.spot)) (home : t.home s.run s.home)
      (h : g.top.Opens s.address) : Standing.Tells e { g with opened := s :: g.opened }
  | retries {s : Site} {rest : List Site} (he : e.phase? = some (.retries, s.spot))
      (h : g.opened = s :: rest) : Standing.Tells e g
  | ends {s : Site} {rest : List Site} (he : e.phase? = some (.ends, s.spot))
      (h : g.opened = s :: rest) :
      Standing.Tells e (({ g with opened := rest } : Standing).close e)

/-- What is open after a request. -/
def Terms.Moves : Request → Standing → Prop
  | .publish e, g' => (∃ a, t.home e.run a) ∧ (¬ t.cancels → g.Tells t e g')
  | .freshId, g' => ¬ t.cancels → g.opened ≠ [] ∧ g' = g
  | _, g' => g' = g

/-- The answer is to be reckoned with: a run is called by the innermost open step. -/
def Terms.Reckons : (r : Request) → r.Answer → Prop
  | .freshId, run => t.home run (g.top ++ [.call run])
  | r, a => r.TellsCancelled a → t.cancels

end

/-- The request neither tells anything nor gives an identifier. -/
def Request.IsQuiet : Request → Prop
  | publish _ => False
  | freshId => False
  | _ => True

namespace Terms

variable {t : Terms} {g : Standing}

theorem moves_of_quiet {r : Request} (hr : r.IsQuiet) : t.Moves g r g := by
  cases r <;> first | rfl | exact hr.elim

theorem reckons_of_quiet {r : Request} {a : r.Answer} (hr : r.IsQuiet) (h : t.Reckons g r a) :
    r.TellsCancelled a → t.cancels := by
  cases r <;> first | exact h | exact hr.elim

end Terms

/-! ### Flows -/

namespace Flow

variable {α β : Type} {t : Terms}

/-- The flow opens and closes steps in order, from a standing on, and comes to results of a kind
with a standing only. -/
def Obeys (t : Terms) : {α : Type} → (post : α → Standing → Prop) → Standing → Flow α → Prop
  | _, post, g, done a => post a g
  | _, post, g, ask r next =>
    ∃ g', t.Moves g r g' ∧ ∀ a, t.Reckons g r a → Obeys t post g' (next a)
  | _, post, g, fork _ _ branch next =>
    (∀ b closed, Obeys t (fun _ g' => ¬ t.cancels → g'.opened = [])
      ⟨g.top ++ [.part (.branch b)], [], closed⟩ (branch b)) ∧
      ∀ ends, (ends = none → t.cancels) → Obeys t post g (next ends)

theorem Obeys.mono {post post' : α → Standing → Prop} (h : ∀ a g, post a g → post' a g) :
    {g : Standing} → (x : Flow α) → x.Obeys t post g → x.Obeys t post' g
  | g, done a, hx => h a g hx
  | _, ask _ next, hx => by
    obtain ⟨g', hm, hx⟩ := hx
    exact ⟨g', hm, fun a ha => mono h (next a) (hx a ha)⟩
  | _, fork _ _ _ next, hx => ⟨hx.1, fun ends he => mono h (next ends) (hx.2 ends he)⟩

/-- A flow followed by another obeys if both do. -/
theorem Obeys.bind {mid : α → Standing → Prop} {post : β → Standing → Prop} {f : α → Flow β}
    (hf : ∀ a g, mid a g → (f a).Obeys t post g) :
    {g : Standing} → (x : Flow α) → x.Obeys t mid g → (x.bind f).Obeys t post g
  | g, done a, hx => hf a g hx
  | _, ask _ next, hx => by
    obtain ⟨g', hm, hx⟩ := hx
    exact ⟨g', hm, fun a ha => bind hf (next a) (hx a ha)⟩
  | _, fork _ _ _ next, hx => ⟨hx.1, fun ends he => bind hf (next ends) (hx.2 ends he)⟩

/-- A quiet request changes nothing that is open. -/
theorem obeys_ask {r : Request} {next : r.Answer → Flow α} {post : α → Standing → Prop}
    {g : Standing} (hr : r.IsQuiet)
    (h : ∀ a, (r.TellsCancelled a → t.cancels) → (next a).Obeys t post g) :
    (ask r next).Obeys t post g :=
  ⟨g, Terms.moves_of_quiet hr, fun a ha => h a (Terms.reckons_of_quiet hr ha)⟩

end Flow

/-! ### Flows with variables -/

namespace Exec

variable {α β : Type} {t : Terms} {G : Standing → Prop}

/-- The flow obeys from any variables and from standings of a kind on, to which it returns; it fails
as cancelled only if it may be cancelled. -/
def Stays (t : Terms) (G : Standing → Prop) (x : Exec α) : Prop :=
  ∀ env g, G g →
    (x.run.run env).Obeys t (fun p g' => (p.1 = .error .cancelled → t.cancels) ∧ G g') g

theorem stays_pure (a : α) : Stays t G (pure a) := fun _ _ hg => ⟨fun h => (nomatch h), hg⟩

theorem stays_throw {e : StepError} (h : e = .cancelled → t.cancels) :
    Stays t G (throw e : Exec α) := fun _ _ hg => ⟨fun he => h (Except.error.inj he), hg⟩

theorem stays_modify (f : Environment → Environment) : Stays t G (modify f : Exec Unit) :=
  fun _ _ hg => ⟨fun h => (nomatch h), hg⟩

/-- A flow followed by others, by what it comes to. -/
theorem stays_bind_of {x : Exec α} {f : α → Exec β} {q : α → Prop}
    (hx : ∀ env g, G g → (x.run.run env).Obeys t
      (fun p g' => ((p.1 = .error .cancelled → t.cancels) ∧ ∀ a, p.1 = .ok a → q a) ∧ G g') g)
    (hf : ∀ a, q a → Stays t G (f a)) : Stays t G (x >>= f) := by
  intro env g hg
  refine Flow.Obeys.bind (fun p g' hp => ?_) (x.run.run env) (hx env g hg)
  obtain ⟨⟨hc, hq⟩, hg'⟩ := hp
  obtain ⟨r, env'⟩ := p
  cases r with
  | ok a => exact hf a (hq a rfl) env' g' hg'
  | error e => exact ⟨fun he => hc (congrArg Except.error (Except.error.inj he)), hg'⟩

theorem stays_bind {x : Exec α} {f : α → Exec β} (hx : Stays t G x) (hf : ∀ a, Stays t G (f a)) :
    Stays t G (x >>= f) :=
  stays_bind_of (q := fun _ => True)
    (fun env g hg => (hx env g hg).mono fun _ _ h => ⟨⟨h.1, fun _ _ => trivial⟩, h.2⟩)
    fun a _ => hf a

theorem stays_map {x : Exec α} (f : α → β) (hx : Stays t G x) : Stays t G (f <$> x) :=
  stays_bind hx fun a => stays_pure (f a)

theorem stays_get_bind {f : Environment → Exec β} (hf : ∀ env, Stays t G (f env)) :
    Stays t G (get >>= f) := fun env => hf env env

theorem stays_lift_bind {x : Flow α} {f : α → Exec β} {q : α → Prop}
    (hx : ∀ g, G g → x.Obeys t (fun a g' => q a ∧ G g') g) (hf : ∀ a, q a → Stays t G (f a)) :
    Stays t G ((liftM x : Exec α) >>= f) := by
  refine stays_bind_of (q := q) (fun env g hg => ?_) hf
  rw [run_liftM]
  refine Flow.Obeys.bind (fun a g' ha => ?_) x (hx g hg)
  exact ⟨⟨fun h => (nomatch h), fun b hb => Except.ok.inj hb ▸ ha.1⟩, ha.2⟩

theorem stays_request_bind {r : Request} {f : r.Answer → Exec β} (hr : r.IsQuiet)
    (hf : ∀ a, (r.TellsCancelled a → t.cancels) → Stays t G (f a)) :
    Stays t G (request r >>= f) :=
  stays_lift_bind (fun _ hg => Flow.obeys_ask hr fun _ ha => ⟨ha, hg⟩) hf

theorem stays_request {r : Request} (hr : r.IsQuiet) : Stays t G (request r) :=
  fun _ _ hg => Flow.obeys_ask hr fun _ _ => ⟨fun h => (nomatch h), hg⟩

/-- What is told leaves everything open that was open. -/
theorem stays_publish {e : Event} (home : ∃ a, t.home e.run a)
    (h : ¬ t.cancels → ∀ g, G g → g.Tells t e g) : Stays t G (publish e) :=
  fun _ g hg => ⟨g, ⟨home, fun hn => h hn g hg⟩, fun _ _ => ⟨fun h => (nomatch h), hg⟩⟩

theorem stays_observe_bind {x : Exec α} {f : Except StepError α → Exec β} (hx : Stays t G x)
    (hok : ∀ a, Stays t G (f (.ok a)))
    (herr : ∀ e, (e = .cancelled → t.cancels) → Stays t G (f (.error e))) :
    Stays t G (observe x >>= f) := by
  refine stays_bind_of (q := fun r => r = .error .cancelled → t.cancels) (fun env g hg => ?_) ?_
  · refine Flow.Obeys.bind (fun p g' hp => ?_) (x.run.run env) (hx env g hg)
    exact ⟨⟨fun h => (nomatch h), fun r hr => Except.ok.inj hr ▸ hp.1⟩, hp.2⟩
  · rintro (e | a) h
    · exact herr e fun he => h (he ▸ rfl)
    · exact hok a

theorem stays_orCancelled {goesOn : Bool} (h : goesOn = false → t.cancels) :
    Stays t G (orCancelled goesOn) := by
  cases goesOn with
  | true => exact stays_pure ()
  | false => exact stays_throw fun _ => h rfl

end Exec

end Workflow

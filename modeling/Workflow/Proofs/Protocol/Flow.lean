import Workflow.Proofs.Contract.Step

/-!
# Protocols of flows

A protocol says what may be asked for next on a line, by a state that the requests answered on the
line lead on; every branch is a line of its own and starts anew. A flow with variables meets a
protocol between conditions when, from variables that satisfy the first, it asks only for what the
protocol allows, and comes to results and failures with variables that satisfy the others.

## Main definitions

* `Workflow.Protocol` — protocols.
* `Workflow.Flow.Tracks` — flows that ask only for what a protocol allows.
* `Workflow.Exec.Meets` — flows with variables that meet a protocol between conditions.
* `Workflow.Exec.Upholds` — flows with variables that keep a condition, however they end.

## Main results

* `Workflow.Exec.meets_bind`, `Workflow.Exec.meets_observe_bind` — one flow after another.
-/

namespace Workflow

/-- What may be asked for on a line, by a state that the answered requests lead on. -/
structure Protocol (σ : Type) where
  /-- The state in which the line of a branch starts. -/
  start : σ
  asks : σ → Request → Prop
  after : σ → (r : Request) → r.Answer → σ

/-- The protocol that forbids nothing. -/
def Protocol.free : Protocol Unit := ⟨(), fun _ _ => True, fun _ _ _ => ()⟩

namespace Flow

variable {α β σ : Type} {k : Protocol σ}

/-- The flow asks, from a state on, only for what the protocol allows, and comes to results of a
kind with a state only. -/
def Tracks (k : Protocol σ) : {α : Type} → (post : α → σ → Prop) → σ → Flow α → Prop
  | _, post, g, done a => post a g
  | _, post, g, ask r next => k.asks g r ∧ ∀ a, Tracks k post (k.after g r a) (next a)
  | _, post, g, fork _ _ branch next =>
    (∀ b, Tracks k (fun _ _ => True) k.start (branch b)) ∧ ∀ ends, Tracks k post g (next ends)

theorem Tracks.mono {post post' : α → σ → Prop} (h : ∀ a g, post a g → post' a g) :
    {g : σ} → (x : Flow α) → x.Tracks k post g → x.Tracks k post' g
  | g, done a, hx => h a g hx
  | _, ask _ next, hx => ⟨hx.1, fun a => mono h (next a) (hx.2 a)⟩
  | _, fork _ _ _ next, hx => ⟨hx.1, fun ends => mono h (next ends) (hx.2 ends)⟩

/-- A flow followed by another asks for what both ask for. -/
theorem Tracks.bind {mid : α → σ → Prop} {post : β → σ → Prop} {f : α → Flow β}
    (hf : ∀ a g, mid a g → (f a).Tracks k post g) :
    {g : σ} → (x : Flow α) → x.Tracks k mid g → (x.bind f).Tracks k post g
  | g, done a, hx => hf a g hx
  | _, ask _ next, hx => ⟨hx.1, fun a => bind hf (next a) (hx.2 a)⟩
  | _, fork _ _ _ next, hx => ⟨hx.1, fun ends => bind hf (next ends) (hx.2 ends)⟩

/-- What no answer changes of the state of a line holds as far as a flow is carried on. -/
theorem Tracks.stays {G : σ → Prop} (hG : ∀ g r a, G g → G (k.after g r a))
    {post : α → σ → Prop} :
    {g : σ} → (x : Flow α) → G g → x.Tracks k post g → x.Tracks k (fun a g => post a g ∧ G g) g
  | _, done _, hg, hx => ⟨hx, hg⟩
  | g, ask r next, hg, hx => ⟨hx.1, fun a => stays hG (next a) (hG g r a hg) (hx.2 a)⟩
  | _, fork _ _ _ next, hg, hx => ⟨hx.1, fun ends => stays hG (next ends) hg (hx.2 ends)⟩

/-- What a flow comes to under a protocol it comes to whatever it asks for. -/
theorem Tracks.keeps {post : α → Prop} :
    {g : σ} → (x : Flow α) → x.Tracks k (fun a _ => post a) g → x.Keeps .free post
  | _, done _, hx => hx
  | _, ask _ next, hx => ⟨trivial, fun a _ => keeps (next a) (hx.2 a)⟩
  | _, fork _ _ branch next, hx =>
    ⟨trivial, fun b => keeps_free (branch b), fun ends _ => keeps (next ends) (hx.2 ends)⟩

theorem tracks_free : {α : Type} → (x : Flow α) → x.Tracks .free (fun _ _ => True) ()
  | _, done _ => trivial
  | _, ask _ next => ⟨trivial, fun a => tracks_free (next a)⟩
  | _, fork _ _ branch next =>
    ⟨fun b => tracks_free (branch b), fun ends => tracks_free (next ends)⟩

/-- The flow asks for what the protocol allows, whatever the state of its line. -/
def Minds (k : Protocol σ) (x : Flow α) : Prop := ∀ g, x.Tracks k (fun _ _ => True) g

end Flow

/-! ### Flows with variables -/

namespace Exec

variable {α β σ : Type} {k : Protocol σ}

/-- What a flow with variables comes to satisfies a condition on results, or one on failures. -/
def Post (Q : α → Environment → Prop) (J : StepError → Environment → Prop) :
    Except StepError α × Environment → Prop
  | (.ok a, env) => Q a env
  | (.error e, env) => J e env

/-- From variables of a kind, and whatever the state of its line, the flow asks only for what the
protocol allows, and comes to results and to failures with variables of other kinds. -/
def Meets (k : Protocol σ) (P : Environment → Prop) (Q : α → Environment → Prop)
    (J : StepError → Environment → Prop) (x : Exec α) : Prop :=
  ∀ env g, P env → (x.run.run env).Tracks k (fun p _ => Post Q J p) g

/-- A condition on variables that holds before the flow holds after it, however it ends. -/
def Upholds (k : Protocol σ) (I : Environment → Prop) (x : Exec α) : Prop :=
  Meets k I (fun _ => I) (fun _ => I) x

variable {P P' : Environment → Prop} {Q Q' : α → Environment → Prop} {R : β → Environment → Prop}
  {J J' : StepError → Environment → Prop}

theorem Meets.mono {x : Exec α} (h : Meets k P Q J x) (hP : ∀ env, P' env → P env)
    (hQ : ∀ a env, Q a env → Q' a env) (hJ : ∀ e env, J e env → J' e env) : Meets k P' Q' J' x := by
  intro env g hpre
  refine (h env g (hP env hpre)).mono ?_
  rintro ⟨e | a, env'⟩ _ hp
  · exact hJ e env' hp
  · exact hQ a env' hp

theorem meets_pure {a : α} (h : ∀ env, P env → Q a env) : Meets k P Q J (pure a) :=
  fun env _ hpre => h env hpre

theorem meets_throw {e : StepError} (h : ∀ env, P env → J e env) :
    Meets k P Q J (throw e : Exec α) := fun env _ hpre => h env hpre

/-- A flow followed by others, by what it comes to. -/
theorem meets_bind {x : Exec α} {f : α → Exec β} (hx : Meets k P Q J x)
    (hf : ∀ a, Meets k (Q a) R J (f a)) : Meets k P R J (x >>= f) := by
  intro env g hpre
  refine Flow.Tracks.bind ?_ (x.run.run env) (hx env g hpre)
  rintro ⟨e | a, env'⟩ g' hp
  · exact hp
  · exact hf a env' g' hp

/-- What is written leads from one condition on variables to another. -/
theorem meets_modify_bind {f : Environment → Environment} {x : Unit → Exec β}
    (h : ∀ env, P env → P' (f env)) (hx : Meets k P' R J (x ())) :
    Meets k P R J (modify f >>= x) := fun env g hpre => hx (f env) g (h env hpre)

theorem meets_get_bind {f : Environment → Exec β} (hf : ∀ env, Meets k P R J (f env)) :
    Meets k P R J (get >>= f) := fun env => hf env env

theorem meets_lift_bind {x : Flow α} {f : α → Exec β} (hx : x.Minds k)
    (hf : ∀ a, Meets k P R J (f a)) : Meets k P R J ((liftM x : Exec α) >>= f) := by
  refine meets_bind (Q := fun _ => P) (fun env g hpre => ?_) hf
  rw [run_liftM]
  refine Flow.Tracks.bind (fun a _ _ => ?_) x (hx g)
  exact hpre

theorem meets_request_bind {r : Request} {f : r.Answer → Exec β} (hr : ∀ g, k.asks g r)
    (hf : ∀ a, Meets k P R J (f a)) : Meets k P R J (request r >>= f) :=
  meets_lift_bind (fun g => ⟨hr g, fun _ => trivial⟩) hf

/-- What a flow comes to is looked at before others follow. -/
theorem meets_observe_bind {x : Exec α} {f : Except StepError α → Exec β} (hx : Meets k P Q J x)
    (hok : ∀ a, Meets k (Q a) R J' (f (.ok a))) (herr : ∀ e, Meets k (J e) R J' (f (.error e))) :
    Meets k P R J' (observe x >>= f) := by
  intro env g hpre
  rw [run_observe_bind]
  refine Flow.Tracks.bind ?_ (x.run.run env) (hx env g hpre)
  rintro ⟨e | a, env'⟩ g' hp
  · exact herr e env' g' hp
  · exact hok a env' g' hp

theorem meets_orCancelled {goesOn : Bool} (h : ∀ env, P env → J .cancelled env) :
    Meets k P (fun _ => P) J (orCancelled goesOn) := by
  cases goesOn with
  | true => exact meets_pure fun _ hpre => hpre
  | false => exact meets_throw h

end Exec

end Workflow

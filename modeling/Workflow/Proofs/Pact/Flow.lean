import Workflow.Run.Step

/-!
# Contracts and pacts of flows

A contract says what a flow may ask for, under which tokens it may wait for branches, and whether it
may come to know that its run was cancelled. A flow keeps a contract when this is so along every
path on which it is told of a cancellation only if the contract reckons with one; then it comes to
results of a given kind only. Branches keep the same contract, whatever they come to.

A pact is a contract with two sides: it also says which answers may be expected, and which failures
may be come to. A flow honours a pact when it does what the contract says along every path on which
it is answered as expected; what it does otherwise is left open. Every contract is the pact in which
all answers are expected but those that tell of a cancellation, unless the contract reckons with
one.

## Main definitions

* `Workflow.Request.TellsCancelled` — the answers by which a run comes to know of its cancellation.
* `Workflow.Contract`, `Workflow.Flow.Keeps` — contracts and the flows that keep them.
* `Workflow.Contract.frame` — what a frame may do.
* `Workflow.Pact`, `Workflow.Flow.Honours` — pacts and the flows that honour them.
* `Workflow.Exec.Honours` — flows with variables that honour a pact, failures included.
* `Workflow.Contract.pact` — the pact of a contract.

## Main results

* `Workflow.Flow.Keeps.bind` — one flow after another keeps what both keep.
* `Workflow.Flow.Honours.bind`, `Workflow.Exec.honours_bind` — one flow after another honours what
  both honour.
* `Workflow.Flow.keeps_iff_honours` — to keep a contract is to honour its pact.
-/

namespace Workflow

/-! ### Contracts -/

/-- The answers by which a run comes to know of its cancellation: it may not pass a step boundary,
its sleep is cut short, or its token is cancelled. -/
def Request.TellsCancelled : (r : Request) → r.Answer → Prop
  | boundary, goesOn => goesOn = false
  | sleep _ _, slept => slept = false
  | isCancelled _, cancelled => cancelled = true
  | _, _ => False

/-- What a flow may do. -/
structure Contract where
  /-- What it may ask for. -/
  asks : Request → Prop
  /-- The tokens under which it may wait for branches. -/
  joins : Token → Prop
  /-- It may come to know of a cancellation. -/
  cancels : Prop

/-- The contract that forbids nothing. -/
def Contract.free : Contract := ⟨fun _ => True, fun _ => True, True⟩

/-- The event tells of a single step. -/
def Event.IsOfStep : Event → Prop
  | stepStarted .. => True
  | stepCompleted .. => True
  | stepFailed .. => True
  | retrying .. => True
  | _ => False

/-- What the steps of a frame may ask for under a token, down to a depth. -/
def Request.IsOfFrame (token : Token) (limit : Nat) : Request → Prop
  | boundary => True
  | attempt a => a.scope.depth ≤ limit
  | publish e => e.IsOfStep
  | perform _ => True
  | evaluate s => s.token = token
  | sleep t _ => t = token
  | isCancelled t => t = token
  | recordProgress _ _ => True
  | lookup _ => True
  | freshId => True
  | recordEnvironment _ => False
  | begin _ _ _ => False
  | finish _ => False

/-- The contract of the frames of a run; whether it may be cancelled is left open. -/
def Contract.frame (token : Token) (limit : Nat) (cancels : Prop) : Contract :=
  ⟨Request.IsOfFrame token limit, (· = token), cancels⟩

namespace Flow

variable {α β : Type} {k : Contract}

/-- The flow keeps a contract and comes to results of a kind only. -/
def Keeps (k : Contract) : {α : Type} → (post : α → Prop) → Flow α → Prop
  | _, post, done a => post a
  | _, post, ask r next =>
    k.asks r ∧ ∀ a, (r.TellsCancelled a → k.cancels) → Keeps k post (next a)
  | _, post, fork token _ branch next =>
    k.joins token ∧ (∀ b, Keeps k (fun _ => True) (branch b)) ∧
      ∀ ends, (ends = none → k.cancels) → Keeps k post (next ends)

theorem Keeps.mono {post post' : α → Prop} (h : ∀ a, post a → post' a) :
    (x : Flow α) → x.Keeps k post → x.Keeps k post'
  | done a, hx => h a hx
  | ask _ next, hx => ⟨hx.1, fun a ha => mono h (next a) (hx.2 a ha)⟩
  | fork _ _ _ next, hx => ⟨hx.1, hx.2.1, fun ends he => mono h (next ends) (hx.2.2 ends he)⟩

/-- A flow followed by another keeps the contract that both keep. -/
theorem Keeps.bind {mid : α → Prop} {post : β → Prop} {f : α → Flow β}
    (hf : ∀ a, mid a → (f a).Keeps k post) :
    (x : Flow α) → x.Keeps k mid → (x.bind f).Keeps k post
  | done a, hx => hf a hx
  | ask _ next, hx => ⟨hx.1, fun a ha => bind hf (next a) (hx.2 a ha)⟩
  | fork _ _ _ next, hx => ⟨hx.1, hx.2.1, fun ends he => bind hf (next ends) (hx.2.2 ends he)⟩

/-- Every flow keeps the contract that forbids nothing. -/
theorem keeps_free : {α : Type} → (x : Flow α) → x.Keeps .free fun _ => True
  | _, .done _ => trivial
  | _, .ask _ next => ⟨trivial, fun a _ => keeps_free (next a)⟩
  | _, .fork _ _ branch next =>
    ⟨trivial, fun b => keeps_free (branch b), fun ends _ => keeps_free (next ends)⟩

end Flow

/-! ### Pacts -/

/-- What a flow may do if it is answered as it may expect. -/
structure Pact extends Contract where
  /-- The answers that it may expect. -/
  expects : (r : Request) → r.Answer → Prop
  /-- The failures that it may come to. -/
  fails : StepError → Prop

namespace Flow

variable {α β : Type} {k : Pact}

/-- The flow honours a pact and comes to results of a kind only. -/
def Honours (k : Pact) : {α : Type} → (post : α → Prop) → Flow α → Prop
  | _, post, done a => post a
  | _, post, ask r next => k.asks r ∧ ∀ a, k.expects r a → Honours k post (next a)
  | _, post, fork token _ branch next =>
    k.joins token ∧ (∀ b, Honours k (fun _ => True) (branch b)) ∧
      ∀ ends, (ends = none → k.cancels) → Honours k post (next ends)

/-- A flow followed by another honours the pact that both honour. -/
theorem Honours.bind {mid : α → Prop} {post : β → Prop} {f : α → Flow β}
    (hf : ∀ a, mid a → (f a).Honours k post) :
    (x : Flow α) → x.Honours k mid → (x.bind f).Honours k post
  | done a, hx => hf a hx
  | ask _ next, hx => ⟨hx.1, fun a ha => bind hf (next a) (hx.2 a ha)⟩
  | fork _ _ _ next, hx => ⟨hx.1, hx.2.1, fun ends he => bind hf (next ends) (hx.2.2 ends he)⟩

/-- A single request honours a pact that allows it, and comes to an answer that is expected. -/
theorem honours_request {r : Request} (hr : k.asks r) :
    (request r).Honours k (k.expects r) := ⟨hr, fun _ ha => ha⟩

end Flow

/-- All answers are expected but those that tell of a cancellation, unless the contract reckons with
one, and so are failures. -/
def Contract.pact (k : Contract) : Pact where
  toContract := k
  expects r a := r.TellsCancelled a → k.cancels
  fails e := e = .cancelled → k.cancels

/-- To keep a contract is to honour its pact. -/
theorem Flow.keeps_iff_honours {k : Contract} : {α : Type} → {post : α → Prop} → (x : Flow α) →
    (x.Keeps k post ↔ x.Honours k.pact post)
  | _, _, .done _ => Iff.rfl
  | _, _, .ask r next => by
    refine and_congr_right fun _ => forall_congr' fun a => imp_congr_right fun _ => ?_
    exact keeps_iff_honours (next a)
  | _, _, .fork token n branch next => by
    refine and_congr_right fun _ => and_congr (forall_congr' fun b => ?_)
      (forall_congr' fun ends => imp_congr_right fun _ => ?_)
    · exact keeps_iff_honours (branch b)
    · exact keeps_iff_honours (next ends)

/-! ### Flows with variables -/

namespace Exec

variable {α β : Type}

/-- A flow without variables leaves them as they are. -/
theorem run_liftM (x : Flow α) (env : Environment) :
    (liftM x : Exec α).run.run env = x.bind fun a => .done (.ok a, env) :=
  Flow.bind_assoc x (fun a => .done (a, env)) fun p : α × Environment =>
    .done ((.ok p.1 : Except StepError α), p.2)

/-- What follows a flow without variables goes on with the variables as they were. -/
theorem run_lift_bind (x : Flow α) (f : α → Exec β) (env : Environment) :
    ((liftM x : Exec α) >>= f).run.run env = x.bind fun a => (f a).run.run env := by
  change ((liftM x : Exec α).run.run env).bind _ = _
  rw [run_liftM, Flow.bind_assoc]
  rfl

/-- What follows a flow whose end is looked at goes on from there. -/
theorem run_observe_bind (x : Exec α) (f : Except StepError α → Exec β) (env : Environment) :
    (observe x >>= f).run.run env = (x.run.run env).bind fun p => (f p.1).run.run p.2 :=
  Flow.bind_assoc (x.run.run env) (fun p => .done ((.ok p.1 : Except StepError _), p.2)) _

variable {k : Pact}

/-- From any variables on the flow honours a pact, and comes to failures of the pact only. -/
def Honours (k : Pact) (x : Exec α) : Prop :=
  ∀ env, (x.run.run env).Honours k fun p => ∀ e, p.1 = .error e → k.fails e

theorem honours_pure (a : α) : Honours k (pure a) := fun _ _ h => nomatch h

theorem honours_throw {e : StepError} (h : k.fails e) : Honours k (throw e : Exec α) :=
  fun _ _ he => Except.error.inj he ▸ h

theorem honours_modify (f : Environment → Environment) : Honours k (modify f : Exec Unit) :=
  fun _ _ h => nomatch h

theorem honours_bind {x : Exec α} {f : α → Exec β} (hx : Honours k x) (hf : ∀ a, Honours k (f a)) :
    Honours k (x >>= f) := by
  intro env
  refine Flow.Honours.bind ?_ (x.run.run env) (hx env)
  rintro ⟨e | a, env'⟩ hp
  · exact fun e' he => hp e' (congrArg Except.error (Except.error.inj he))
  · exact hf a env'

theorem honours_map {x : Exec α} (f : α → β) (hx : Honours k x) : Honours k (f <$> x) :=
  honours_bind hx fun a => honours_pure (f a)

theorem honours_get_bind {f : Environment → Exec β} (hf : ∀ env, Honours k (f env)) :
    Honours k (get >>= f) := fun env => hf env env

theorem honours_lift_bind {x : Flow α} {f : α → Exec β} {post : α → Prop} (hx : x.Honours k post)
    (hf : ∀ a, post a → Honours k (f a)) : Honours k ((liftM x : Exec α) >>= f) := by
  intro env
  rw [run_lift_bind]
  exact Flow.Honours.bind (fun a ha => hf a ha env) x hx

theorem honours_request_bind {r : Request} {f : r.Answer → Exec β} (hr : k.asks r)
    (hf : ∀ a, k.expects r a → Honours k (f a)) : Honours k (request r >>= f) :=
  honours_lift_bind (Flow.honours_request hr) hf

theorem honours_request {r : Request} (hr : k.asks r) : Honours k (request r) :=
  fun _ => ⟨hr, fun _ _ _ h => nomatch h⟩

theorem honours_publish {e : Event} (he : k.asks (.publish e)) : Honours k (publish e) :=
  honours_request he

theorem honours_observe_bind {x : Exec α} {f : Except StepError α → Exec β} (hx : Honours k x)
    (hok : ∀ a, Honours k (f (.ok a))) (herr : ∀ e, k.fails e → Honours k (f (.error e))) :
    Honours k (observe x >>= f) := by
  intro env
  rw [run_observe_bind]
  refine Flow.Honours.bind ?_ (x.run.run env) (hx env)
  rintro ⟨e | a, env'⟩ hp
  · exact herr e (hp e rfl) env'
  · exact hok a env'

theorem honours_orCancelled {goesOn : Bool} (h : goesOn = false → k.fails .cancelled) :
    Honours k (orCancelled goesOn) := by
  cases goesOn with
  | true => exact honours_pure ()
  | false => exact honours_throw (h rfl)

end Exec

end Workflow

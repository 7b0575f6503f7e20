import Workflow.Proofs.Contract.Step
import Workflow.Proofs.Protocol.Step

/-!
# Tasks within tasks

A run is made of tasks: steps with all that surrounds them, lists of steps within a step, and
frames. A task runs others as its parts: a condition one of its lists, a loop its list once for each
iteration, the step of a sub-workflow its frame, a list and a frame their steps. What has been asked
for so far leads a flow to what it goes on as; it goes through forks, but not into their branches,
which are tasks of their own. Where a flow asks to pass a step boundary, a step begins.

Tasks stand within each other as calls on a stack: each waits for the end of the next one, with
something to do after it. A task hands the cancellation of a part on when all that it does after it
is to end as cancelled itself.

## Main definitions

* `Workflow.Flow.GoesOnAs` — what is left of a flow when some of its requests are answered.
* `Workflow.Task`, `Workflow.Task.flow`, `Workflow.Task.IsCancelled` — tasks and how they end.
* `Workflow.Task.HandsOn` — how a task ends that hands the cancellation of a part on.
* `Workflow.Task.Encloses` — a step under way within tasks that would all hand its cancellation on.
* `Workflow.Task.Unwinds` — wherever a step begins in a task, the tasks around it would do so.
* `Workflow.Flow.MadeOf` — flows made of the flows of tasks.

## Main results

* `Workflow.Task.Encloses.passes` — what encloses a step asks for nothing after its cancellation.
* `Workflow.Flow.MadeOf.exists_part` — where a step begins in a flow made of parts, it begins in one
  of the parts.
-/

namespace Workflow

namespace Flow

variable {α β : Type}

/-- The flow goes on as another when some of its requests are answered, and the branches of some of
its forks have ended. -/
inductive GoesOnAs {α : Type} : Flow α → Flow α → Prop
  | refl (x : Flow α) : GoesOnAs x x
  | ask {r : Request} {next : r.Answer → Flow α} {y : Flow α} (a : r.Answer)
      (h : GoesOnAs (next a) y) : GoesOnAs (.ask r next) y
  | fork {token : Token} {n : Nat} {branch : Fin n → Flow BranchResult}
      {next : Option (List BranchEnd) → Flow α} {y : Flow α} (ends : Option (List BranchEnd))
      (h : GoesOnAs (next ends) y) : GoesOnAs (.fork token n branch next) y

theorem GoesOnAs.trans {x y z : Flow α} (h : x.GoesOnAs y) (h' : y.GoesOnAs z) :
    x.GoesOnAs z := by
  induction h with
  | refl => exact h'
  | ask a _ ih => exact .ask a (ih h')
  | fork ends _ ih => exact .fork ends (ih h')

theorem GoesOnAs.bind {x y : Flow α} (f : α → Flow β) (h : x.GoesOnAs y) :
    (x.bind f).GoesOnAs (y.bind f) := by
  induction h with
  | refl => exact .refl _
  | ask a _ ih => exact .ask a ih
  | fork ends _ ih => exact .fork ends ih

theorem GoesOnAs.done_bind {x : Flow α} {a : α} (f : α → Flow β) (h : x.GoesOnAs (.done a)) :
    (x.bind f).GoesOnAs (f a) := h.bind f

/-- Where two flows one after the other ask for something, the first of them does, or it has come to
its end and the second does. -/
theorem GoesOnAs.of_bind {f : α → Flow β} {r : Request} {next : r.Answer → Flow β} (x : Flow α)
    (h : (x.bind f).GoesOnAs (.ask r next)) :
    (∃ next' : r.Answer → Flow α, x.GoesOnAs (.ask r next') ∧ next = fun a => (next' a).bind f) ∨
      ∃ a, x.GoesOnAs (.done a) ∧ (f a).GoesOnAs (.ask r next) := by
  induction x with
  | done a => exact .inr ⟨a, .refl _, h⟩
  | ask r' next' ih =>
    cases h with
    | refl => exact .inl ⟨next', .refl _, rfl⟩
    | ask a h =>
      rcases ih a h with ⟨rest, hrest, rfl⟩ | ⟨b, hb, h⟩
      · exact .inl ⟨rest, .ask a hrest, rfl⟩
      · exact .inr ⟨b, .ask a hb, h⟩
  | fork token n branch next' _ ih =>
    cases h with
    | fork ends h =>
      rcases ih ends h with ⟨rest, hrest, rfl⟩ | ⟨b, hb, h⟩
      · exact .inl ⟨rest, .fork ends hrest, rfl⟩
      · exact .inr ⟨b, .fork ends hb, h⟩

end Flow

/-! ### Tasks -/

/-- What is run within a run, under a scope and with a number of depths below its frame. -/
inductive Task where
  /-- A step with all that surrounds it. -/
  | step (depths : Nat) (scope : Scope) (location : Location) (s : Step)
  /-- A list of steps within a step. -/
  | list (depths : Nat) (scope : Scope) (location : Location) (steps : List Step)
  | frame (depths : Nat) (scope : Scope) (definition : Definition)

namespace Task

/-- What a task comes to. -/
@[reducible] def End : Task → Type
  | step .. => Except StepError Value × Environment
  | list .. => Except StepError (List Value) × Environment
  | frame .. => FrameEnd

/-- The run of a task on the variables that it is started with. -/
def flow (config : Config) : (t : Task) → Environment → Flow t.End
  | step depths scope location s, env =>
    (runStep config (runnerWithin config depths) s scope location).run.run env
  | list depths scope location steps, env =>
    (runItems config (runnerWithin config depths) scope location 0 [] steps).run.run env
  | frame depths scope definition, env => frameWithin config depths definition scope env

/-- The task has come to cancellation. -/
def IsCancelled : (t : Task) → t.End → Prop
  | step .., r => r.1 = .error .cancelled
  | list .., r => r.1 = .error .cancelled
  | frame .., r => ∃ i, r.failure = some ⟨i, .cancelled⟩

/-- How a task, started with some variables, ends when it hands the cancellation of a part on. The
variables stay as the part has left them; those of a step that calls a sub-workflow are as they were
when the step began, with the summary of the sub-workflow. The log of a frame holds the steps before
the cancelled one, and no other; the cancellation is logged as an error. -/
inductive HandsOn : (t : Task) → Environment → (part : Task) → part.End → t.End → Prop
  | whenTrue {depths : Nat} {scope : Scope} {location : Location} {info : StepInfo}
      {test : Condition} {yes no : List Step} {env e : Environment} :
      HandsOn (.step depths scope location (.condition info test yes no)) env
        (.list depths scope (location.child .whenTrue) yes)
        (.error .cancelled, e) (.error .cancelled, e)
  | whenFalse {depths : Nat} {scope : Scope} {location : Location} {info : StepInfo}
      {test : Condition} {yes no : List Step} {env e : Environment} :
      HandsOn (.step depths scope location (.condition info test yes no)) env
        (.list depths scope (location.child .whenFalse) no)
        (.error .cancelled, e) (.error .cancelled, e)
  | iteration {depths : Nat} {scope : Scope} {location : Location} {info : StepInfo}
      {spec : LoopSpec} {body : List Step} {env e : Environment} (n : Nat) :
      HandsOn (.step depths scope location (.loop info spec body)) env
        (.list depths scope (location.child (.iteration n)) body)
        (.error .cancelled, e) (.error .cancelled, e)
  | call {depths : Nat} {scope : Scope} {location : Location} {info : StepInfo}
      {workflowId : Value} {vars : Bindings Value} {env : Environment} {definition : Definition}
      {id : String} {run : RunId} {ended : FrameEnd} {i : Nat}
      (h : ended.failure = some ⟨i, .cancelled⟩) :
      HandsOn (.step (depths + 1) scope location (.subWorkflow info workflowId vars)) env
        (.frame depths (scope.child definition run) definition) ended
        (.error .cancelled, (env.stamp scope.identity).set Key.subWorkflowResult
          (subWorkflowSummary id run ended))
  | item {depths : Nat} {scope : Scope} {location : Location} {steps : List Step} {s : Step}
      {env e : Environment} {i : Nat} (h : steps[i]? = some s) :
      HandsOn (.list depths scope location steps) env
        (.step depths scope (location.child (.step i)) s)
        (.error .cancelled, e) (.error .cancelled, e)
  | top {depths : Nat} {scope : Scope} {definition : Definition} {s : Step}
      {env e : Environment} {record : RunRecord} {i : Nat} (h : definition.steps[i]? = some s)
      (hr : record.steps.map StepRecord.index = List.range i) :
      HandsOn (.frame depths scope definition) env (.step depths scope (.top i) s)
        (.error .cancelled, e)
        ⟨(record.pushError i StepError.cancelled.message).close, some ⟨i, .cancelled⟩, e⟩

theorem HandsOn.isCancelled {t part : Task} {env : Environment} {r : part.End} {r' : t.End}
    (h : t.HandsOn env part r r') : t.IsCancelled r' := by
  cases h with
  | top => exact ⟨_, rfl⟩
  | _ => rfl

/-- The task `b`, started with `env'`, is under way within the task `t`, started with `env`; the
tasks between them wait for each other, and `k` is all that is done after the end of `b`. Each of
them would hand the cancellation of its part on. -/
inductive Encloses (config : Config) (b : Task) (env' : Environment) :
    (t : Task) → Environment → (b.End → Flow t.End) → Prop
  | self : Encloses config b env' b env' .done
  | part {t u : Task} {env env₁ : Environment} {k : b.End → Flow u.End} {k' : u.End → Flow t.End}
      (hgoes : (t.flow config env).GoesOnAs ((u.flow config env₁).bind k'))
      (hhands : ∀ r, u.IsCancelled r → ∃ r', k' r = .done r' ∧ t.HandsOn env u r r')
      (hpart : Encloses config b env' u env₁ k) :
      Encloses config b env' t env fun r => (k r).bind k'

/-- The tasks around a task end as cancelled when it does, and ask for nothing before. -/
theorem Encloses.passes {config : Config} {b t : Task} {env' env : Environment}
    {k : b.End → Flow t.End} (h : Encloses config b env' t env k) {r : b.End}
    (hr : b.IsCancelled r) : ∃ r', k r = .done r' ∧ t.IsCancelled r' := by
  induction h with
  | self => exact ⟨r, rfl, hr⟩
  | part _ hhands _ ih =>
    obtain ⟨r₁, hk, hr₁⟩ := ih
    obtain ⟨r', hk', hhands⟩ := hhands r₁ hr₁
    refine ⟨r', ?_, hhands.isCancelled⟩
    dsimp only
    rw [hk, Flow.done_bind, hk']

/-- What is left of a task is a step from its beginning on, within tasks that would all hand its
cancellation on. -/
def IsAtStep (config : Config) (t : Task) (env : Environment) (x : Flow t.End) : Prop :=
  ∃ depths scope location s env' k,
    Encloses config (.step depths scope location s) env' t env k ∧
      x = ((step depths scope location s).flow config env').bind k

/-- Wherever the task asks to pass a step boundary, a step begins, and the tasks around it would all
hand its cancellation on. -/
def Unwinds (config : Config) (t : Task) : Prop :=
  ∀ env next, (t.flow config env).GoesOnAs (.ask .boundary next) →
    t.IsAtStep config env (.ask .boundary next)

end Task

/-! ### Flows made of parts -/

/-- The flow asks for no step boundary but in tasks that are its parts. What follows a part is of a
kind, and the flow comes to results of a kind only. -/
inductive Flow.MadeOf (config : Config) {α : Type}
    (kind : (part : Task) → (part.End → Flow α) → Prop) (post : α → Prop) : Flow α → Prop
  | done {a : α} (h : post a) : MadeOf config kind post (.done a)
  | ask {r : Request} {next : r.Answer → Flow α} (hr : r ≠ .boundary)
      (h : ∀ a, MadeOf config kind post (next a)) : MadeOf config kind post (.ask r next)
  | fork {token : Token} {n : Nat} {branch : Fin n → Flow BranchResult}
      {next : Option (List BranchEnd) → Flow α} (h : ∀ ends, MadeOf config kind post (next ends)) :
      MadeOf config kind post (.fork token n branch next)
  | part {u : Task} {env : Environment} {k : u.End → Flow α} (hk : kind u k)
      (h : ∀ r, MadeOf config kind post (k r)) :
      MadeOf config kind post ((u.flow config env).bind k)

namespace Flow.MadeOf

variable {config : Config} {α β : Type}
  {kind : (part : Task) → (part.End → Flow α) → Prop} {post : α → Prop}

/-- One flow after another is made of the parts of both. -/
theorem bind {kind' : (part : Task) → (part.End → Flow β) → Prop} {post' : β → Prop}
    {f : α → Flow β} (hkind : ∀ u k, kind u k → kind' u fun r => (k r).bind f)
    (hf : ∀ a, post a → (f a).MadeOf config kind' post') {x : Flow α}
    (hx : x.MadeOf config kind post) : (x.bind f).MadeOf config kind' post' := by
  induction hx with
  | done h => exact hf _ h
  | ask hr _ ih => exact .ask hr ih
  | fork _ ih => exact .fork ih
  | part hk _ ih =>
    rw [Flow.bind_assoc]
    exact .part (hkind _ _ hk) ih

/-- Where a step begins in a flow made of parts, it begins in one of them. -/
theorem exists_part {x : Flow α} (hx : x.MadeOf config kind post)
    {next : Request.boundary.Answer → Flow α} (h : x.GoesOnAs (.ask .boundary next)) :
    ∃ u env k next', kind u k ∧ x.GoesOnAs ((u.flow config env).bind k) ∧
      (u.flow config env).GoesOnAs (.ask .boundary next') ∧ next = fun a => (next' a).bind k := by
  induction hx with
  | done => nomatch h
  | ask hr _ ih =>
    cases h with
    | refl => exact absurd rfl hr
    | ask a h =>
      obtain ⟨u, env, k, next', hk, hx, hu, hnext⟩ := ih a h
      exact ⟨u, env, k, next', hk, .ask a hx, hu, hnext⟩
  | fork _ ih =>
    cases h with
    | fork ends h =>
      obtain ⟨u, env, k, next', hk, hx, hu, hnext⟩ := ih ends h
      exact ⟨u, env, k, next', hk, .fork ends hx, hu, hnext⟩
  | @part u env k hk _ ih =>
    rcases h.of_bind with ⟨next', hu, hnext⟩ | ⟨r, hr, h⟩
    · exact ⟨u, env, k, next', hk, .refl _, hu, hnext⟩
    · obtain ⟨u', env', k', next', hk', hx, hu, hnext⟩ := ih r h
      exact ⟨u', env', k', next', hk', (hr.done_bind k).trans hx, hu, hnext⟩

end Flow.MadeOf

/-- The part unwinds, and the task hands its cancellation on: `k`, which is all that the task does
after the part, ends in the way of the task and asks for nothing before. -/
def Task.HasPart (config : Config) (t : Task) (env : Environment) (part : Task)
    (k : part.End → Flow t.End) : Prop :=
  part.Unwinds config ∧ ∀ r, part.IsCancelled r → ∃ r', k r = .done r' ∧ t.HandsOn env part r r'

/-- Where a step begins in what is left of a task, and that is made of parts of the task, the tasks
around the step would all hand its cancellation on. -/
theorem Task.isAtStep_of_goesOnAs {config : Config} {t : Task} {env : Environment}
    {kind : (part : Task) → (part.End → Flow t.End) → Prop} {post : t.End → Prop}
    (hkind : ∀ u k, kind u k → t.HasPart config env u k) {x : Flow t.End}
    (ht : (t.flow config env).GoesOnAs x) (hx : x.MadeOf config kind post)
    {next : Request.boundary.Answer → Flow t.End} (h : x.GoesOnAs (.ask .boundary next)) :
    t.IsAtStep config env (.ask .boundary next) := by
  obtain ⟨u, env₁, k', next', hk', hgoes, hu, rfl⟩ := hx.exists_part h
  obtain ⟨hunwinds, hhands⟩ := hkind u k' hk'
  obtain ⟨depths, scope, location, s, env', k, henc, hflow⟩ := hunwinds env₁ next' hu
  refine ⟨depths, scope, location, s, env', _, .part (ht.trans hgoes) hhands henc, ?_⟩
  rw [← Flow.bind_assoc, ← hflow]
  rfl

end Workflow

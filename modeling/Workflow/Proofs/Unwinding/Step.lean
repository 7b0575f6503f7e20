import Workflow.Proofs.Unwinding.Task

/-!
# Steps and frames hand cancellation on

A step of any kind is made of parts, and when one of them is cancelled, everything that the step
does after it comes to cancellation at once: the results of a condition or a loop are not put
together, an iteration that remains is not begun, the summary of a sub-workflow is kept but its
failure is no failure that could be tried again, and the result of the step is neither stored nor
told. A list of steps goes on after a failed step when the policy of its frame says so, but not
after a cancelled one.

However deep a step is nested in conditions, loops and sub-workflows, whatever the error policies of
the frames and the retry policies of the steps around it are, and whatever has happened before it:
when it comes to cancellation, so does everything that encloses it, at once. Between the two nothing
is asked for at all. So no further step begins, no step around the cancelled one is tried again or
tells how it ended, none of them stores a result, and no frame logs an outcome for one of them.

A branch of a parallel step is a run of its list on variables of its own; of what encloses a step
within the branch this is said up to that list.

## Main definitions

* `Workflow.Parts` — what the parts of a flow may be, and what their cancellation leaves.
* `Workflow.Exec.MadeOf` — flows with variables that are made of parts and pass the cancellation of
  each of them on.

## Main results

* `Workflow.madeOf_enter` — a step asks to pass its boundary, and is then made of its parts.
* `Workflow.Task.unwinds_step`, `Workflow.Task.unwinds_list` — a step unwinds if the frames of
  sub-workflows do, and a list if its steps do.
* `Workflow.Task.cancellation_unwinds` — wherever a step begins in a task, everything around it
  hands its cancellation on.
-/

namespace Workflow

/-- What the parts of a flow with variables may be, and which variables are left when one of them
comes to cancellation. -/
structure Parts where
  has : Task → Prop
  leaves : (part : Task) → part.End → Environment → Prop

namespace Exec

variable {config : Config} {P : Parts} {I : Environment → Prop} {α β : Type}

/-- What follows a part ends as cancelled when the part does, and asks for nothing before. -/
def PassesOn (P : Parts) {α : Type} (part : Task)
    (k : part.End → Flow (Except StepError α × Environment)) : Prop :=
  P.has part ∧
    ∀ r, part.IsCancelled r → ∃ e, k r = .done (.error .cancelled, e) ∧ P.leaves part r e

/-- From variables of a kind on, the flow is made of parts and passes the cancellation of each of
them on; it leaves variables of the kind. -/
def MadeOf (config : Config) (P : Parts) (I : Environment → Prop) (x : Exec α) : Prop :=
  ∀ env, I env → (x.run.run env).MadeOf config (PassesOn P) fun p => I p.2

/-- What passes a cancellation on does so with something behind it that leaves it as it is. -/
theorem PassesOn.bind {part : Task} {k : part.End → Flow (Except StepError α × Environment)}
    {f : Except StepError α × Environment → Flow (Except StepError β × Environment)}
    (hf : ∀ e, f (.error .cancelled, e) = .done (.error .cancelled, e)) (hk : PassesOn P part k) :
    PassesOn P part fun r => (k r).bind f := by
  refine ⟨hk.1, fun r hr => ?_⟩
  obtain ⟨e, hdone, hleaves⟩ := hk.2 r hr
  refine ⟨e, ?_, hleaves⟩
  dsimp only
  rw [hdone, Flow.done_bind, hf]

theorem madeOf_pure (a : α) : MadeOf config P I (pure a) := fun _ h => .done h

theorem madeOf_throw (e : StepError) : MadeOf config P I (throw e : Exec α) := fun _ h => .done h

theorem madeOf_modify {f : Environment → Environment} (hf : ∀ env, I env → I (f env)) :
    MadeOf config P I (modify f : Exec Unit) := fun env h => .done (hf env h)

theorem madeOf_bind {x : Exec α} {f : α → Exec β} (hx : MadeOf config P I x)
    (hf : ∀ a, MadeOf config P I (f a)) : MadeOf config P I (x >>= f) := by
  intro env henv
  refine Flow.MadeOf.bind (fun part k hk => hk.bind fun e => rfl) (fun p hp => ?_) (hx env henv)
  obtain ⟨r, env'⟩ := p
  cases r with
  | ok a => exact hf a env' hp
  | error e => exact .done hp

theorem madeOf_map {x : Exec α} (f : α → β) (hx : MadeOf config P I x) :
    MadeOf config P I (f <$> x) :=
  madeOf_bind hx fun a => madeOf_pure (f a)

theorem madeOf_get_bind {f : Environment → Exec β} (hf : ∀ env, MadeOf config P I (f env)) :
    MadeOf config P I (get >>= f) := fun env => hf env env

theorem madeOf_request_bind {r : Request} {f : r.Answer → Exec β} (hr : r ≠ .boundary)
    (hf : ∀ a, MadeOf config P I (f a)) : MadeOf config P I (request r >>= f) :=
  fun env henv => .ask hr fun a => hf a env henv

theorem madeOf_publish_bind {e : Event} {f : Unit → Exec β} (hf : ∀ a, MadeOf config P I (f a)) :
    MadeOf config P I (publish e >>= f) := madeOf_request_bind (by simp) hf

/-- A flow whose end is looked at, if what follows passes cancellation on. -/
theorem madeOf_observe_bind {x : Exec α} {f : Except StepError α → Exec β}
    (hx : MadeOf config P I x) (hc : f (.error .cancelled) = throw .cancelled)
    (hf : ∀ r, MadeOf config P I (f r)) : MadeOf config P I (observe x >>= f) := by
  intro env henv
  rw [run_observe_bind]
  refine Flow.MadeOf.bind (fun part k hk => hk.bind fun e => ?_) (fun p hp => hf p.1 p.2 hp)
    (hx env henv)
  dsimp only
  rw [hc]
  rfl

theorem madeOf_orCancelled (goesOn : Bool) : MadeOf config P I (orCancelled goesOn) := by
  cases goesOn with
  | true => exact madeOf_pure ()
  | false => exact madeOf_throw .cancelled

end Exec

section Steps

open Exec

variable {config : Config} {P : Parts} {I : Environment → Prop} {scope : Scope}
  {location : Location}

/-! ### Attempts -/

/-- A cancelled attempt is not followed by another. -/
theorem allows_cancelled (schedule : RetrySchedule) (done : Nat) :
    schedule.allows done .cancelled = false := rfl

theorem madeOf_attemptsFrom {schedule : RetrySchedule} {attempt : Exec Value}
    (h : MadeOf config P I attempt) : (remaining done : Nat) →
      MadeOf config P I (attemptsFrom scope location schedule attempt remaining done)
  | 0, _ => h
  | remaining + 1, done => by
    refine madeOf_observe_bind h ?_ fun r => ?_
    · simp only [allows_cancelled, Bool.false_eq_true, if_false]
    · cases r with
      | ok v => exact madeOf_pure v
      | error e =>
        dsimp only
        split
        · exact madeOf_publish_bind fun _ => madeOf_request_bind (by simp) fun slept =>
            madeOf_bind (madeOf_orCancelled slept) fun _ =>
              madeOf_attemptsFrom h remaining (done + 1)
        · exact madeOf_throw e

theorem madeOf_attempts {attempt : Exec Value} (h : MadeOf config P I attempt)
    (schedule : Option RetrySchedule) :
    MadeOf config P I (attempts scope location schedule attempt) := by
  cases schedule with
  | none => exact h
  | some s => exact madeOf_attemptsFrom h s.maxRetries.toNat 0

/-- A step asks to pass its boundary, and is then made of the parts of its attempts; a cancelled one
is neither stored nor told. -/
theorem madeOf_enter (step : Step) {dispatch : Exec Value} (h : MadeOf config P I dispatch)
    {env : Environment} (henv : I (env.stamp scope.identity)) :
    ∃ next, (enter config step scope location dispatch).run.run env = .ask .boundary next ∧
      ∀ goesOn, (next goesOn).MadeOf config (PassesOn P) fun _ => True := by
  have hmarked : MadeOf config P I (step.marked scope location dispatch) :=
    madeOf_get_bind fun env => madeOf_request_bind (by simp) fun _ => h
  refine ⟨_, run_enter .., fun goesOn => ?_⟩
  cases goesOn with
  | false => exact .done trivial
  | true =>
    refine .ask (by simp) fun _ => Flow.MadeOf.bind (fun part k hk => hk.bind fun e => rfl) ?_
      (madeOf_attempts hmarked _ _ henv)
    rintro ⟨e | v, env'⟩ -
    · cases e with
      | cancelled => exact .done trivial
      | _ => exact .ask (by simp) fun _ => .done trivial
    · exact .ask (by simp) fun _ => .done trivial

/-! ### Steps without parts -/

theorem madeOf_performAction (payload : Value) :
    MadeOf config P I (performAction payload scope location) := by
  refine madeOf_get_bind fun env => madeOf_request_bind (by simp) fun r => ?_
  cases r with
  | ok v => exact madeOf_pure v
  | error e => exact madeOf_throw _

theorem madeOf_waitFor (duration : Value) : MadeOf config P I (waitFor duration scope) := by
  refine madeOf_get_bind fun env => ?_
  dsimp only
  split
  · exact madeOf_throw _
  · exact madeOf_request_bind (by simp) fun slept =>
      madeOf_bind (madeOf_orCancelled slept) fun _ => madeOf_pure _

/-- The branches of a parallel step are no parts of its own line. -/
theorem madeOf_runBranches (branches : List (Flow BranchResult)) :
    MadeOf config P I (runBranches scope branches) := by
  intro env henv
  refine .fork fun ends => ?_
  cases ends with
  | none => exact .done henv
  | some ends => exact .done henv

theorem madeOf_evaluateScript (hI : ∀ env, I env) (source : String) (timeout : Option UInt64) :
    MadeOf config P I (evaluateScript config source timeout scope location) := by
  refine madeOf_get_bind fun env => madeOf_request_bind (by simp) fun r => ?_
  cases r with
  | ok outcome => exact madeOf_bind (madeOf_modify fun _ _ => hI _) fun _ => madeOf_pure _
  | error e =>
    dsimp only
    split
    · exact madeOf_request_bind (by simp) fun _ => madeOf_throw _
    · exact madeOf_throw (.scriptFailed e.message)

/-! ### Conditions and loops -/

theorem madeOf_holds (c : Condition) : MadeOf config P I (holds c) := by
  refine madeOf_get_bind fun env => ?_
  split
  · exact madeOf_pure _
  · exact madeOf_throw _

theorem madeOf_loopItems (items : Option Value) : MadeOf config P I (loopItems items) := by
  refine madeOf_get_bind fun env => ?_
  split
  · exact madeOf_pure _
  · exact madeOf_pure _
  · split
    · exact madeOf_pure _
    · exact madeOf_throw _
  · exact madeOf_throw _

section Loops

variable {body : Nat → Exec (List Value)}

theorem madeOf_iteration (hI : ∀ env, I env) (h : ∀ i, MadeOf config P I (body i))
    (prepare : Environment → Environment) (i : Nat) :
    MadeOf config P I (iteration scope prepare body i) := by
  refine madeOf_request_bind (by simp) fun stopped => ?_
  exact madeOf_bind (madeOf_orCancelled _) fun _ => madeOf_bind (madeOf_modify fun _ _ => hI _)
    fun _ => madeOf_bind (h i) fun results => madeOf_pure _

theorem madeOf_forItems (hI : ∀ env, I env) (h : ∀ i, MadeOf config P I (body i)) (key : String) :
    (items : List Value) → (i : Nat) → (acc : List Value) →
      MadeOf config P I (forItems scope key body items i acc)
  | [], _, _ => madeOf_pure _
  | _ :: rest, i, _ => madeOf_bind (madeOf_iteration hI h _ i) fun _ =>
    madeOf_forItems hI h key rest (i + 1) _

theorem madeOf_forTimes (hI : ∀ env, I env) (h : ∀ i, MadeOf config P I (body i)) :
    (remaining i : Nat) → (acc : List Value) →
      MadeOf config P I (forTimes scope body remaining i acc)
  | 0, _, _ => madeOf_pure _
  | remaining + 1, i, _ => madeOf_bind (madeOf_iteration hI h _ i) fun _ =>
    madeOf_forTimes hI h remaining (i + 1) _

theorem madeOf_whileHolds (hI : ∀ env, I env) (h : ∀ i, MadeOf config P I (body i))
    (c : Condition) : (remaining i : Nat) → (acc : List Value) →
      MadeOf config P I (whileHolds scope (holds c) body remaining i acc)
  | 0, _, _ => madeOf_bind (madeOf_holds c) fun _ => madeOf_pure _
  | remaining + 1, i, _ => by
    refine madeOf_bind (madeOf_holds c) fun met => ?_
    cases met with
    | true =>
      exact madeOf_bind (madeOf_iteration hI h _ i) fun _ =>
        madeOf_whileHolds hI h c remaining (i + 1) _
    | false => exact madeOf_pure _

/-- A loop is made of the parts of its iterations. -/
theorem madeOf_loopResults (hI : ∀ env, I env) (h : ∀ i, MadeOf config P I (body i))
    (spec : LoopSpec) : MadeOf config P I (loopResults config spec scope body) := by
  unfold loopResults
  dsimp only
  generalize spec.kind = kind
  cases kind with
  | forEach =>
    exact madeOf_bind (madeOf_loopItems _) fun items =>
      madeOf_bind (madeOf_forItems hI h _ _ 0 []) fun _ => madeOf_pure _
  | whileTrue =>
    dsimp only
    split
    · exact madeOf_throw _
    · exact madeOf_whileHolds hI h _ _ 0 []
  | times =>
    refine madeOf_get_bind fun env => ?_
    split
    · exact madeOf_throw _
    · exact madeOf_bind (madeOf_forTimes hI h _ 0 []) fun _ => madeOf_pure _

end Loops

/-! ### Sub-workflows -/

theorem madeOf_subWorkflowId (workflowId : Value) :
    MadeOf config P I (subWorkflowId workflowId) := by
  refine madeOf_get_bind fun env => ?_
  split
  · exact madeOf_throw _
  · exact madeOf_pure _

/-- The step of a sub-workflow has its frame as its part, and keeps the summary of a frame that was
cancelled. -/
theorem madeOf_callWorkflow {depths : Nat}
    (hI : ∀ v env, I env → I (env.set Key.subWorkflowResult v))
    (hhas : ∀ d definition run, depths = d + 1 →
      P.has (.frame d (scope.child definition run) definition))
    (hleaves : ∀ d definition id run ended i env, depths = d + 1 → I env →
      ended.failure = some ⟨i, .cancelled⟩ →
      P.leaves (.frame d (scope.child definition run) definition) ended
        (env.set Key.subWorkflowResult (subWorkflowSummary id run ended)))
    (workflowId : Value) (vars : Bindings Value) :
    MadeOf config P I (callWorkflow config (runnerWithin config depths) workflowId vars scope) := by
  refine madeOf_bind (madeOf_subWorkflowId workflowId) fun id =>
    madeOf_request_bind (by simp) fun found => ?_
  cases found with
  | none => exact madeOf_throw _
  | some definition =>
    cases depths with
    | zero => exact madeOf_throw _
    | succ d =>
      refine madeOf_get_bind fun parent => madeOf_request_bind (by simp) fun run => ?_
      intro env henv
      rw [run_lift_bind]
      refine .part (u := .frame d (scope.child definition run) definition)
        ⟨hhas d definition run rfl, fun ended hc => ?_⟩ fun ended => ?_
      · obtain ⟨i, hc⟩ := hc
        refine ⟨_, ?_, hleaves d definition id run ended i env rfl henv hc⟩
        simp only [hc]
        rfl
      · obtain ⟨record, failure, env'⟩ := ended
        rcases failure with _ | ⟨i, e⟩
        · exact .done (hI _ _ henv)
        · cases e <;> exact .done (hI _ _ henv)

/-! ### Kinds of step and lists -/

/-- The parts of a task unwind, and it ends in a way of its own when it hands the cancellation of
one on. -/
def Task.parts (config : Config) (t : Task) (env : Environment) (ends : Environment → t.End) :
    Parts where
  has := Unwinds config
  leaves part r e := t.HandsOn env part r (ends e)

/-- A step unwinds if an attempt at it is made of parts that unwind, and passes the cancellation of
each of them on. -/
theorem Task.unwinds_step_of {depths : Nat} {s : Step}
    (h : ∀ env, ∃ I : Environment → Prop, I (env.stamp scope.identity) ∧
      MadeOf config ((step depths scope location s).parts config env (.error .cancelled, ·)) I
        (dispatch config (runnerWithin config depths) scope location s)) :
    (step depths scope location s).Unwinds config := by
  intro env next hgoes
  obtain ⟨I, henv, hdispatch⟩ := h env
  obtain ⟨next', hflow, hnext⟩ := madeOf_enter s hdispatch henv
  change (step depths scope location s).flow config env = _ at hflow
  rw [hflow] at hgoes
  cases hgoes with
  | refl => exact ⟨depths, scope, location, s, env, .done, .self, by rw [Flow.bind_done, hflow]⟩
  | ask goesOn hgoes =>
    refine isAtStep_of_goesOnAs (fun u k hk => ⟨hk.1, fun r hr => ?_⟩) ?_ (hnext goesOn) hgoes
    · obtain ⟨e, hdone, hhands⟩ := hk.2 r hr
      exact ⟨_, hdone, hhands⟩
    · rw [hflow]
      exact .ask goesOn (.refl _)

/-- What begins at a place of a list: the item there, and what begins at the next place. -/
theorem drop_eq_cons {α : Type} {l rest : List α} {i : Nat} {a : α} (h : l.drop i = a :: rest) :
    l[i]? = some a ∧ l.drop (i + 1) = rest := by
  constructor
  · rw [← Nat.add_zero i, ← List.getElem?_drop, h]
    rfl
  · rw [← List.drop_drop, h]
    rfl

/-- A list is made of its steps, each at its place, and a cancelled one ends it whatever the policy
of the frame says. -/
theorem madeOf_runItems {depths : Nat} {steps : List Step} (hI : ∀ env, I env)
    (hhas : ∀ i s, steps[i]? = some s → P.has (.step depths scope (location.child (.step i)) s))
    (hleaves : ∀ i s e, steps[i]? = some s →
      P.leaves (.step depths scope (location.child (.step i)) s) (.error .cancelled, e) e) :
    (rest : List Step) → (i : Nat) → (acc : List Value) → steps.drop i = rest →
      MadeOf config P I (runItems config (runnerWithin config depths) scope location i acc rest)
  | [], _, _, _ => by
    rw [runItems]
    exact madeOf_pure _
  | s :: rest, i, acc, hrest => by
    obtain ⟨hs, hnext⟩ := drop_eq_cons hrest
    intro env _
    rw [runItems, run_observe_bind]
    refine .part (u := .step depths scope (location.child (.step i)) s)
      ⟨hhas i s hs, fun r hr => ?_⟩ fun r => ?_
    · obtain ⟨_, e⟩ := r
      obtain rfl := hr
      exact ⟨e, rfl, hleaves i s e hs⟩
    · obtain ⟨e | v, env'⟩ := r
      · cases e with
        | cancelled => exact .done (hI _)
        | _ =>
          generalize scope.onError = policy
          cases policy with
          | stop => exact .done (hI _)
          | «continue» => exact madeOf_runItems hI hhas hleaves rest (i + 1) _ hnext env' (hI _)
      · exact madeOf_runItems hI hhas hleaves rest (i + 1) _ hnext env' (hI _)

/-- A list of steps is a part of what runs it. -/
theorem madeOf_list {depths : Nat} {steps : List Step} (hI : ∀ env, I env)
    (hhas : P.has (.list depths scope location steps))
    (hleaves : ∀ e, P.leaves (.list depths scope location steps) (.error .cancelled, e) e) :
    MadeOf config P I
      (runItems config (runnerWithin config depths) scope location 0 [] steps) := by
  intro env _
  rw [← Flow.bind_done (((runItems config _ scope location 0 [] steps).run).run env)]
  refine .part (u := .list depths scope location steps) ⟨hhas, fun r hr => ?_⟩ fun _ => .done (hI _)
  obtain ⟨_, e⟩ := r
  obtain rfl := hr
  exact ⟨e, rfl, hleaves e⟩

/-- A list unwinds if its steps do. -/
theorem Task.unwinds_list {depths : Nat} {steps : List Step}
    (hsteps : ∀ s ∈ steps, ∀ location, (step depths scope location s).Unwinds config) :
    (list depths scope location steps).Unwinds config := by
  intro env next hgoes
  have hmade : MadeOf config ((list depths scope location steps).parts config env
      (.error .cancelled, ·)) (fun _ => True)
      (runItems config (runnerWithin config depths) scope location 0 [] steps) :=
    madeOf_runItems (fun _ => trivial) (fun _ s hs => hsteps s (List.mem_of_getElem? hs) _)
      (fun _ _ _ hs => HandsOn.item hs) steps 0 [] rfl
  refine isAtStep_of_goesOnAs (fun u k hk => ⟨hk.1, fun r hr => ?_⟩) (.refl _) (hmade env trivial)
    hgoes
  obtain ⟨e, hdone, hhands⟩ := hk.2 r hr
  exact ⟨_, hdone, hhands⟩

/-- The frames of the sub-workflows that a frame with some depths below it calls unwind. -/
def Task.FramesUnwind (config : Config) (depths : Nat) : Prop :=
  ∀ d, depths = d + 1 → ∀ scope definition, (frame d scope definition).Unwinds config

mutual

/-- A step unwinds if the frames of sub-workflows do. -/
theorem Task.unwinds_step {depths : Nat} (hframes : FramesUnwind config depths) :
    (location : Location) → (s : Step) → (step depths scope location s).Unwinds config
  | _, .action _ payload => unwinds_step_of fun env =>
    ⟨fun _ => True, trivial, madeOf_performAction payload⟩
  | location, .condition _ test yes no => unwinds_step_of fun env => by
    refine ⟨fun _ => True, trivial, madeOf_bind (madeOf_holds test) fun met => ?_⟩
    cases met with
    | true =>
      exact madeOf_map _ (madeOf_list (fun _ => trivial)
        (unwinds_list (unwinds_steps hframes yes)) fun _ => .whenTrue)
    | false =>
      exact madeOf_map _ (madeOf_list (fun _ => trivial)
        (unwinds_list (unwinds_steps hframes no)) fun _ => .whenFalse)
  | location, .loop _ spec body => unwinds_step_of fun env => by
    refine ⟨fun _ => True, trivial, madeOf_bind
      (madeOf_loopResults (fun _ => trivial) (fun n => ?_) spec) fun _ => madeOf_pure _⟩
    exact madeOf_list (fun _ => trivial) (unwinds_list (unwinds_steps hframes body))
      fun _ => .iteration n
  | _, .wait _ duration => unwinds_step_of fun env =>
    ⟨fun _ => True, trivial, madeOf_waitFor duration⟩
  | _, .parallel _ _ => unwinds_step_of fun env =>
    ⟨fun _ => True, trivial, madeOf_get_bind fun _ => madeOf_runBranches _⟩
  | _, .subWorkflow _ workflowId vars => unwinds_step_of fun env => by
    let base := env.stamp scope.identity
    refine ⟨fun e => e = base ∨ ∃ v, e = base.set Key.subWorkflowResult v, .inl rfl,
      madeOf_callWorkflow ?_ (fun d definition run hd => hframes d hd _ definition) ?_ workflowId
        vars⟩
    · rintro v e (rfl | ⟨w, rfl⟩)
      · exact .inr ⟨v, rfl⟩
      · exact .inr ⟨v, Environment.set_set base _ w v⟩
    · rintro d definition id run ended i e rfl (rfl | ⟨w, rfl⟩) hended
      · exact .call hended
      · rw [Environment.set_set]
        exact .call hended
  | _, .script _ source timeout => unwinds_step_of fun env =>
    ⟨fun _ => True, trivial, madeOf_evaluateScript (fun _ => trivial) source timeout⟩

/-- The steps of a list unwind if the frames of sub-workflows do. -/
theorem Task.unwinds_steps {depths : Nat} (hframes : FramesUnwind config depths) :
    (steps : List Step) → ∀ s ∈ steps, ∀ location, (step depths scope location s).Unwinds config
  | [], _, hs, _ => nomatch hs
  | first :: rest, s, hs, location => by
    rcases List.mem_cons.mp hs with heq | hs
    · rw [heq]
      exact unwinds_step hframes location first
    · exact unwinds_steps hframes rest s hs location

end

end Steps

/-! ### Frames -/

section Frames

open Exec

variable {config : Config} {scope : Scope}

/-- The steps of a frame from one on are its parts, and a cancelled one ends it whatever its policy
says; its log tells of the steps before. -/
theorem madeOf_frameFrom {depths : Nat} {definition : Definition} {env₀ : Environment}
    (hsteps : ∀ s ∈ definition.steps, ∀ location,
      (Task.step depths scope location s).Unwinds config) :
    (rest : List Step) → (i : Nat) → (record : RunRecord) → (env : Environment) →
      definition.steps.drop i = rest → record.steps.map StepRecord.index = List.range i →
      (((frameFrom config (runnerWithin config depths) scope i record rest).run env).bind
        fun p => .done (FrameEnd.mk p.1.1.close p.1.2 p.2)).MadeOf config
          ((Task.frame depths scope definition).HasPart config env₀) fun _ => True
  | [], _, _, _, _, _ => .done trivial
  | s :: rest, i, record, env, hrest, hrecord => by
    obtain ⟨hs, hnext⟩ := drop_eq_cons hrest
    have hrange : ∀ outcome, (record.steps ++ [(⟨i, s.label, outcome⟩ : StepRecord)]).map
        StepRecord.index = List.range (i + 1) := fun outcome => by
      rw [List.map_append, hrecord, List.range_succ]
      rfl
    unfold frameFrom
    dsimp only
    split
    case' isTrue => refine .ask (by simp) fun _ => ?_
    all_goals
      change Flow.MadeOf _ _ _ ((((runStep config _ s scope (.top i)).run.run env).bind _).bind _)
      rw [Flow.bind_assoc]
      refine .part (u := .step depths scope (.top i) s)
        (And.intro (hsteps s (List.mem_of_getElem? hs) _) fun r hr => ?_) fun r => ?_
      · obtain ⟨_, e⟩ := r
        obtain rfl := hr
        exact ⟨_, rfl, .top hs hrecord⟩
      · obtain ⟨e | v, env'⟩ := r
        · cases e with
          | cancelled => exact .done trivial
          | _ =>
            generalize scope.onError = policy
            cases policy with
            | stop => exact .done trivial
            | «continue» => exact madeOf_frameFrom hsteps rest (i + 1) _ env' hnext (hrange _)
        · exact madeOf_frameFrom hsteps rest (i + 1) _ env' hnext (hrange _)

/-- A frame unwinds if its steps do. -/
theorem Task.unwinds_frame_of {depths : Nat} {definition : Definition}
    (hsteps : ∀ s ∈ definition.steps, ∀ location,
      (Task.step depths scope location s).Unwinds config) :
    (frame depths scope definition).Unwinds config := by
  intro env next hgoes
  have hflow : (frame depths scope definition).flow config env =
      runFrame config (runnerWithin config depths) definition scope env := by
    rw [flow, frameWithin_eq]
  rw [hflow] at hgoes
  exact isAtStep_of_goesOnAs (fun _ _ h => h) (hflow ▸ .refl _)
    (madeOf_frameFrom hsteps definition.steps 0 _ env rfl rfl) hgoes

/-- Frames of any depth unwind. -/
theorem Task.unwinds_frame : (depths : Nat) → (scope : Scope) → (definition : Definition) →
    (frame depths scope definition).Unwinds config
  | 0, _, definition => unwinds_frame_of fun s hs =>
    unwinds_steps (fun d (hd : 0 = d + 1) => nomatch hd) definition.steps s hs
  | depths + 1, _, definition => unwinds_frame_of fun s hs =>
    unwinds_steps (fun _ hd => Nat.succ.inj hd ▸ unwinds_frame depths) definition.steps s hs

/-- Every task unwinds. -/
theorem Task.unwinds : (t : Task) → t.Unwinds config
  | step _ _ location s => unwinds_step (fun d _ => unwinds_frame d) location s
  | list _ _ _ steps => unwinds_list (unwinds_steps (fun d _ => unwinds_frame d) steps)
  | frame depths scope definition => unwinds_frame depths scope definition

/-- Wherever a task asks to pass a step boundary, a step begins within tasks that wait for each
other, and the run goes on as the step, followed by what they do after it. Each of the tasks hands
the cancellation of its part on; so when the step comes to cancellation, all that follows it is that
the task has come to cancellation as well. -/
theorem Task.cancellation_unwinds (t : Task) (env : Environment)
    {next : Request.boundary.Answer → Flow t.End}
    (h : (t.flow config env).GoesOnAs (.ask .boundary next)) :
    ∃ depths scope location s env' k,
      Encloses config (.step depths scope location s) env' t env k ∧
        .ask .boundary next = ((step depths scope location s).flow config env').bind k ∧
          ∀ e, ∃ r, k (.error .cancelled, e) = .done r ∧ t.IsCancelled r := by
  obtain ⟨depths, scope, location, s, env', k, henc, hflow⟩ := t.unwinds env next h
  exact ⟨depths, scope, location, s, env', k, henc, hflow, fun e => henc.passes rfl⟩

/-- A workflow with a condition around an action. -/
private def innerWorkflow : Definition :=
  .named "inner" [.condition Step.plain (.literal true) [.ofAction .null] []]

/-- A frame that calls another workflow. -/
private def outerFrame : Task :=
  .frame 1 ⟨⟨"outer", .ofNat 0, none⟩, .continue, 0, 0⟩
    (.named "outer" [.subWorkflow Step.plain (.bool true) []])

/-- The action of a condition of a sub-workflow of a frame. -/
theorem Task.cancellation_unwinds_inner :
    ∃ next, (outerFrame.flow .default .empty).GoesOnAs (.ask .boundary next) ∧
      ∃ depths scope location s env' k,
        Encloses .default (.step depths scope location s) env' outerFrame .empty k ∧
          .ask .boundary next = ((step depths scope location s).flow .default env').bind k ∧
            ∀ e, ∃ r, k (.error .cancelled, e) = .done r ∧ outerFrame.IsCancelled r := by
  obtain ⟨next, h⟩ : ∃ next, (outerFrame.flow .default .empty).GoesOnAs (.ask .boundary next) :=
    ⟨_, .ask () <| .ask true <| .ask () <| .ask () <| .ask (some innerWorkflow) <|
      .ask (RunId.ofNat 1) <| .ask true <| .ask () <| .ask () <| .refl _⟩
  exact ⟨next, h, cancellation_unwinds outerFrame .empty h⟩

end Frames

end Workflow

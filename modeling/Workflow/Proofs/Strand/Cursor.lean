import Workflow.Proofs.Protocol.Frame
import Workflow.Proofs.Strand.Doings

/-!
# The top-level step that a run is at

The frame of a run enters its top-level steps one after another. It is at a step from where the
step is about to run until the next one has been entered, and the last step that it has entered it
is at forever. Between two steps it records the number of the next and its variables; nothing else
that is done on any of its lines, in branches or in sub-workflows, records anything.

## Main definitions

* `Workflow.Strand.Quiet` — strands that change on no line how a run stands.
* `Workflow.Job.StandsAt` — the strand of a frame is at a step, entered with some variables.
* `Workflow.Job.RunsAt`, `Workflow.Job.Settles` — so is the strand of a call, until its frame has
  ended.
* `Workflow.Deed.Enters` — what is done leads from a step to the same or enters the next.

## Main results

* `Workflow.Job.StandsAt.turn`, `Workflow.Job.RunsAt.turn` — a turn stays at the step or enters the
  next one.
* `Workflow.Job.StandsAt.reached` — a frame that has ended is at the last step that it has reached.
-/

namespace Workflow

variable {config : Config} {token : Token} {job : Job} {c c' : Control}

/-! ### Quiet strands -/

/-- What is done changes on no line how a run stands. -/
def Deed.Quiet (d : Deed) : Prop := ∀ r a, d.own = .answer r a → ¬ r.IsOfTrunk

/-- The strand asks on no line for what changes how a run stands. -/
def Strand.Quiet {α : Type} (x : Strand α) : Prop :=
  x.Tracks .trunk (fun _ _ => True) fun _ => false

section

variable {α β : Type} {x y : Strand α} {d : Deed}

/-- What a quiet strand does is quiet, and so is the strand then. -/
theorem quiet_turn (h : Turn c x d c' y) (hx : x.Quiet) : y.Quiet ∧ d.Quiet := by
  obtain ⟨hy, hasks⟩ := tracks_turn h hx
  have hsame : Lined.after (fun _ => false) Protocol.trunk.step d = fun _ => false :=
    Lined.after_of_same (by cases d.own <;> rfl)
  rw [hsame] at hy
  exact ⟨hy, fun r a ha hr => nomatch hasks r a ha hr⟩

theorem quiet_follows {l : List Stroke} (h : Follows x l y) (hx : x.Quiet) : y.Quiet := by
  induction h with
  | refl => exact hx
  | turn _ t ih => exact (quiet_turn t ih).1

theorem quiet_line {flow : Flow α} (h : flow.Tracks .trunk (fun _ _ => True) false) :
    (Strand.line flow).Quiet := ⟨h, fun _ _ _ => rfl⟩

/-- A quiet flow in the place of the end of a quiet strand is quiet beside its branches. -/
theorem quiet_graft {flow : Flow β} (h : flow.Tracks .trunk (fun _ _ => True) false) :
    {α : Type} → (x : Strand α) → x.Quiet → (x.graft (.line flow)).Quiet
  | _, .line _, _ => quiet_line h
  | _, .crashed _, _ => quiet_line h
  | _, .joining .., _ => quiet_line h
  | _, .beside _ _ rest, hx => ⟨hx.1, quiet_graft h rest hx.2⟩

/-- A flow that follows what stands in the place of the end of a strand. -/
theorem graft_bind {flow : Flow α} (f : α → Flow β) :
    {γ : Type} → (x : Strand γ) → (x.graft (.line flow)).bind f = x.graft (.line (flow.bind f))
  | _, .line _ => rfl
  | _, .crashed _ => rfl
  | _, .joining .. => rfl
  | _, .beside n branch rest => congrArg (Strand.beside n branch) (graft_bind f rest)

end

/-! ### The frame of a run, step by step -/

namespace Job

variable (config : Config) (token : Token) (job : Job)

/-- The scope of the frame of a run. -/
def scope : Scope := ⟨job.identity, job.definition.onError, token, 0⟩

/-- A top-level step of a run, entered with some variables. -/
def stepAt (k : Nat) (step : Step) (env : Environment) :
    Flow (Except StepError Value × Environment) :=
  (runStep config (runnerWithin config config.maxDepth) step (job.scope token) (.top k)).run.run env

/-- The frame of a run from a top-level step on, with the log so far. -/
def frameAt (k : Nat) (record : RunRecord) (steps : List Step) (env : Environment) :
    Flow FrameEnd :=
  ((frameFrom config (runnerWithin config config.maxDepth) (job.scope token) k record steps).run
    env).bind fun p => .done ⟨p.1.1.close, p.1.2, p.2⟩

/-- What the frame of a run does behind a top-level step. -/
def behind (k : Nat) (record : RunRecord) (step : Step) (rest : List Step) :
    Except StepError Value × Environment → Flow FrameEnd
  | (.ok v, env) => job.frameAt config token (k + 1) (record.pushSuccess k step.label v) rest env
  | (.error .cancelled, env) =>
    .done ⟨(record.pushError k StepError.cancelled.message).close, some ⟨k, .cancelled⟩, env⟩
  | (.error e, env) =>
    let record := record.pushFailure k step.label e.message
    match job.definition.onError with
    | .stop => .done ⟨record.close, some ⟨k, e⟩, env⟩
    | .continue => job.frameAt config token (k + 1) record rest env

variable {config token job}

theorem frame_eq : job.frame config token =
    job.frameAt config token 0 (.start job.identity) job.definition.steps job.env := by
  rw [frame, frameWithin_eq]
  rfl

theorem frameAt_cons (k : Nat) (record : RunRecord) (step : Step) (rest : List Step)
    (env : Environment) : job.frameAt config token k record (step :: rest) env =
      .ask (.recordProgress k env) fun _ =>
        (job.stepAt config token k step env).bind (job.behind config token k record step rest) := by
  refine congrArg (Flow.ask (.recordProgress k env)) (funext fun _ =>
    (Flow.bind_assoc (job.stepAt config token k step env) _ _).trans ?_)
  refine congrArg (Flow.bind (job.stepAt config token k step env)) (funext ?_)
  rintro ⟨e | v, env'⟩
  · cases e with
    | cancelled => rfl
    | _ =>
      have hpolicy : (job.scope token).onError = job.definition.onError := rfl
      simp only [behind, hpolicy]
      cases job.definition.onError <;> rfl
  · rfl

/-- Behind a top-level step the frame has ended there, or goes on with the next. -/
theorem behind_cases (config : Config) (token : Token) (job : Job) (k : Nat) (record : RunRecord)
    (step : Step) (rest : List Step) (p : Except StepError Value × Environment) :
    (∃ record' e, job.behind config token k record step rest p =
      .done ⟨record', some ⟨k, e⟩, p.2⟩) ∨
    ∃ record', job.behind config token k record step rest p =
      job.frameAt config token (k + 1) record' rest p.2 := by
  obtain ⟨e | v, env⟩ := p
  · cases e with
    | cancelled => exact .inl ⟨_, _, rfl⟩
    | _ =>
      simp only [behind]
      cases job.definition.onError with
      | stop => exact .inl ⟨_, _, rfl⟩
      | «continue» => exact .inr ⟨_, rfl⟩
  · exact .inr ⟨_, rfl⟩

/-- A top-level step changes on no line how a run stands. -/
theorem tracks_stepAt (k : Nat) (step : Step) (env : Environment) :
    (job.stepAt config token k step env).Tracks .trunk (fun _ _ => True) false :=
  Flow.Tracks.mono (fun _ _ _ => trivial) _
    (upholds_trunk config _ (job.scope token) (.top k) step
      (hosts_trunk config config.maxDepth (job.scope token)) env false trivial)

/-! ### Where the frame of a run is -/

/-- The strand of the frame of a run is at a top-level step: the first is about to run, or the step
was entered with some variables and the strand is what turns of the step have led to. Branches of
steps before it may go on beside. -/
inductive StandsAt (config : Config) (token : Token) (job : Job) :
    Strand FrameEnd → Nat → Environment → Prop
  | first : StandsAt config token job (.line (job.frame config token)) 0 job.env
  | within {k : Nat} {env : Environment} {record : RunRecord} {step : Step} {rest : List Step}
      {past x : Strand (Except StepError Value × Environment)} {l : List Stroke}
      (hsteps : job.definition.steps.drop k = step :: rest) (hpast : past.Quiet)
      (hx : Follows (past.graft (.line (job.stepAt config token k step env))) l x) :
      StandsAt config token job (x.bind (job.behind config token k record step rest)) k env

end Job

/-- What is done while a run is at a step entered with some variables leaves it there, or records
that it enters the next. -/
inductive Deed.Enters (k : Nat) (env : Environment) : Deed → Nat → Environment → Prop
  | stay {d : Deed} (h : d.Quiet) : Enters k env d k env
  | first : Enters k env (.answer (.recordProgress k env) ()) k env
  | next (env' : Environment) :
    Enters k env (.answer (.recordProgress (k + 1) env') ()) (k + 1) env'

/-- The last top-level step that a frame of some steps has reached. -/
def FrameEnd.reached (total : Nat) (e : FrameEnd) : Nat :=
  match e.failure with
  | some f => f.index
  | none => total - 1

namespace Job.StandsAt

variable {x y : Strand FrameEnd} {k : Nat} {env : Environment} {d : Deed}

theorem lt (h : job.StandsAt config token x k env) (hne : job.definition.steps ≠ []) :
    k < job.definition.steps.length := by
  cases h with
  | first => exact List.length_pos_of_ne_nil hne
  | within hsteps =>
    have hlength := congrArg List.length hsteps
    simp only [List.length_drop, List.length_cons] at hlength
    omega

/-- A frame that is about to enter a step records that, and enters it. -/
theorem entered {record : RunRecord} (past : Strand (Except StepError Value × Environment))
    (hpast : past.Quiet)
    (t : Turn c (.line (job.frameAt config token k record (job.definition.steps.drop k) env)) d c'
      y) : d = .answer (.recordProgress k env) () ∧
        job.StandsAt config token (past.graft y) k env := by
  rcases hsteps : job.definition.steps.drop k with _ | ⟨step, rest⟩
  · rw [hsteps] at t
    exact nomatch t
  · rw [hsteps, frameAt_cons] at t
    cases t with
    | crash h => exact h.elim
    | answer =>
      refine ⟨rfl, ?_⟩
      rw [← graft_bind]
      exact .within hsteps hpast (.refl _)

/-- A turn stays at the step of the frame or enters the next one. -/
theorem turn (h : job.StandsAt config token x k env) (t : Turn c x d c' y) :
    ∃ k' env', job.StandsAt config token y k' env' ∧ d.Enters k env k' env' := by
  cases h with
  | first =>
    rw [frame_eq] at t
    obtain ⟨rfl, hy⟩ := entered (k := 0) (.crashed "") trivial t
    exact ⟨0, job.env, hy, .first⟩
  | @within _ _ record step rest past x l hsteps hpast hx =>
    have hquiet := quiet_follows hx (quiet_graft (tracks_stepAt k step env) past hpast)
    rcases turn_bind x t with ⟨x', u, rfl⟩ | ⟨p, z, -, u, rfl⟩
    · exact ⟨k, env, .within hsteps hpast (hx.turn (s := ⟨0, c, d⟩) u),
        .stay (quiet_turn u hquiet).2⟩
    · rcases behind_cases config token job k record step rest p with
        ⟨_, _, hbehind⟩ | ⟨record', hbehind⟩
      · rw [hbehind] at u
        exact nomatch u
      · have hnext : rest = job.definition.steps.drop (k + 1) := by
          rw [← List.tail_drop, hsteps]
          rfl
        rw [hbehind, hnext] at u
        obtain ⟨rfl, hy⟩ := entered _ hquiet u
        exact ⟨k + 1, p.2, hy, .next p.2⟩

/-- A frame that has ended is at the last step that it has reached. -/
theorem reached {ended : FrameEnd} (h : job.StandsAt config token x k env)
    (he : x.ended? = some (.ok ended)) : ended.reached job.definition.steps.length = k := by
  cases h with
  | first =>
    rw [frame_eq] at he
    rcases hsteps : job.definition.steps with _ | ⟨step, rest⟩
    · rw [hsteps] at he
      cases he
      rfl
    · rw [hsteps, frameAt_cons] at he
      exact nomatch he
  | @within _ _ record step rest past x l hsteps hpast hx =>
    obtain ⟨_, -, herror⟩ | ⟨p, -, he⟩ := ended?_bind x he
    · exact nomatch herror
    · rcases behind_cases config token job k record step rest p with
        ⟨_, _, hbehind⟩ | ⟨record', hbehind⟩
      · rw [hbehind] at he
        cases he
        rfl
      · rw [hbehind] at he
        cases rest with
        | nil =>
          cases he
          have hlength := congrArg List.length hsteps
          simp only [List.length_drop, List.length_cons, List.length_nil] at hlength
          change job.definition.steps.length - 1 = k
          omega
        | cons step' rest' =>
          rw [frameAt_cons] at he
          exact nomatch he

end Job.StandsAt

/-! ### Where a run is -/

namespace Job

variable (config : Config) (token : Token) (job : Job)

/-- The strand of the call of a run is at a top-level step, entered with some variables or about to
be: the run is to be told to start, or its frame is there and has recorded no last variables. -/
inductive RunsAt : Strand RunEnd → Nat → Environment → Prop
  | started : RunsAt (.line (job.toRun config token)) 0 job.env
  | framed {y : Strand FrameEnd} {k : Nat} {env : Environment}
      (h : job.StandsAt config token y k env) : RunsAt (y.bind (settle job.run)) k env

/-- The frame of the run of a call has ended and its variables are recorded; the call is to end the
run, to tell how it has ended, or to return. -/
inductive Settles (ended : FrameEnd) : Strand RunEnd → Prop
  | after {y : Strand FrameEnd} {k : Nat} {env : Environment} {flow : Flow RunEnd}
      (h : job.StandsAt config token y k env) (he : y.ended? = some (.ok ended))
      (hflow : flow = ended.toFinish job.run ∨ ∃ p, flow = ended.toTell job.run p ∨
        flow = .done (ended.verdict job.run p).2) : Settles ended (y.graft (.line flow))

variable {config token job} {x y : Strand RunEnd} {k : Nat} {env : Environment} {d : Deed}
  {ended : FrameEnd}

/-- A turn of a run stays at its step or enters the next one, or its frame has ended at this step
and its variables are recorded. -/
theorem RunsAt.turn (h : job.RunsAt config token x k env) (t : Turn c x d c' y) :
    (∃ k' env', job.RunsAt config token y k' env' ∧ d.Enters k env k' env') ∨
    ∃ ended, job.Settles config token ended y ∧ ended.reached job.definition.steps.length = k ∧
      d = .answer (.recordEnvironment ended.env) () := by
  cases h with
  | started =>
    cases t with
    | crash h => exact h.elim
    | answer =>
      refine .inl ⟨0, job.env, .framed .first, .stay ?_⟩
      rintro r a ⟨⟩
      exact id
  | framed h =>
    rcases turn_bind _ t with ⟨y', u, rfl⟩ | ⟨ended, z, he, u, rfl⟩
    · obtain ⟨k', env', hy, henters⟩ := h.turn u
      exact .inl ⟨k', env', .framed hy, henters⟩
    · rw [settle_eq] at u
      cases u with
      | crash h => exact h.elim
      | answer => exact .inr ⟨ended, .after h he (.inl rfl), h.reached he, rfl⟩

theorem RunsAt.lt (h : job.RunsAt config token x k env) (hne : job.definition.steps ≠ []) :
    k < job.definition.steps.length := by
  cases h with
  | started => exact List.length_pos_of_ne_nil hne
  | framed h => exact h.lt hne

/-- A run that is at a step has not returned. -/
theorem RunsAt.not_returned (h : job.RunsAt config token x k env) (e : RunEnd) :
    x.ended? ≠ some (.ok e) := by
  intro he
  cases h with
  | started => exact nomatch he
  | framed h =>
    obtain ⟨_, -, he⟩ | ⟨ended, -, he⟩ := ended?_bind _ he
    · exact nomatch he
    · rw [settle_eq] at he
      exact nomatch he

theorem Settles.reached_lt (h : job.Settles config token ended x)
    (hne : job.definition.steps ≠ []) :
    ended.reached job.definition.steps.length < job.definition.steps.length := by
  obtain ⟨h, he, -⟩ := h
  exact h.reached he ▸ h.lt hne

/-- What a settled call returns tells how its frame has ended. -/
theorem Settles.returns {e : RunEnd} (h : job.Settles config token ended x)
    (he : x.ended? = some (.ok e)) : ∃ p, e = (ended.verdict job.run p).2 := by
  obtain @⟨y, k, env, flow, -, -, hflow⟩ := h
  rw [ended?_graft] at he
  rcases hflow with rfl | ⟨p, rfl | rfl⟩
  · exact nomatch he
  · exact nomatch he
  · exact ⟨p, (Except.ok.inj (Option.some.inj he)).symm⟩

/-- While a run settles it changes how it stands only by ending. -/
theorem Settles.turn (h : job.Settles config token ended x) (t : Turn c x d c' y) :
    job.Settles config token ended y ∧
      ∀ r a, d.own = .answer r a → r.IsOfTrunk → ∃ outcome, r = .finish outcome := by
  obtain @⟨z, k, env, flow, h, he, hflow⟩ := h
  rcases turn_graft z t with ⟨z', u, rfl⟩ | ⟨z', u, rfl⟩
  · obtain ⟨k', env', hz, henters⟩ := h.turn u
    have hline := line_ne_nil_of_ended u (he ▸ Option.some_ne_none _)
    refine ⟨.after hz (ended?_turn u he) hflow, fun r a ha hr => ?_⟩
    cases henters with
    | stay hquiet => exact absurd hr (hquiet r a ha)
    | first => exact absurd rfl hline
    | next => exact absurd rfl hline
  · rcases hflow with rfl | ⟨p, rfl | rfl⟩
    · cases u with
      | crash h => exact h.elim
      | @answer _ _ _ _ p =>
        refine ⟨.after h he (.inr ⟨p, .inl rfl⟩), ?_⟩
        rintro r a ⟨⟩ -
        exact ⟨_, rfl⟩
    · cases u with
      | crash h => exact h.elim
      | answer =>
        refine ⟨.after h he (.inr ⟨p, .inr rfl⟩), ?_⟩
        rintro r a ⟨⟩ hr
        exact hr.elim
    · exact nomatch u

end Job

end Workflow

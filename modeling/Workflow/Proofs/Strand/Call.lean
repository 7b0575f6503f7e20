import Workflow.Proofs.Contract.Step
import Workflow.Proofs.Strand.Contract
import Mathlib.Data.List.Nodup

/-!
# Calls

A call of an engine is a strand that carries on an execution. However far it has been carried on, it
is at one of a few stages: it has not asked to begin a run; it was turned away; it tells that its
run has started; its frame goes on; its frame has ended and the run is to be ended; the end is to be
told; it has returned. The stages tell which of its turns were milestones, that is, which of them
asked to begin or to end a run or told that a run has ended, and what these had to do with how its
frame has ended. Branches that nothing waits for any more may go on at every stage, but reach no
milestone.

## Main definitions

* `Workflow.Errand`, `Workflow.Job` — what an engine is called for, and what a run is begun with.
* `Workflow.FrameEnd.verdict` — what a run tells at its end, and what its call returns.
* `Workflow.milestones` — the milestones among some turns.
* `Workflow.Ran` — some turns carry a frame to its end.
* `Workflow.Stage` — the stages of a call.

## Main results

* `Workflow.stage_follows` — a call is always at one of the stages.
-/

namespace Workflow

/-! ### Errands and jobs -/

/-- What an engine is called for. -/
inductive Errand where
  | execute (id : String) (options : RunOptions)
  | executeDefinition (definition : Definition) (options : RunOptions)

/-- The execution that is called for. -/
def Errand.flow (config : Config) : Errand → Flow RunEnd
  | execute id options => Workflow.execute config id options
  | executeDefinition definition options => Workflow.executeDefinition config definition options

/-- What a run is begun with. -/
structure Job where
  definition : Definition
  options : RunOptions
  run : RunId

namespace FrameEnd

/-- What a run tells at its end, and what its call returns; the state and the step are those that
the engine has settled on. -/
def verdict (run : RunId) (e : FrameEnd) (p : RunState × Nat) : Event × RunEnd :=
  let result : RunResult :=
    ⟨p.1, e.env.vars, e.failure.map fun f => (f.index, f.error.message), e.record⟩
  match p.1, e.failure with
  | .completed, _ =>
    (.completed run p.2 0 (e.record.steps.countP StepRecord.success)
      (e.record.steps.map StepRecord.toValue), .completed result)
  | .failed, some f => (.failed run f.index f.error.message, .failed f.index f.error result)
  | _, _ => (.cancelled run p.2, .cancelled result)

/-- What is left of a run that tells how it has ended. -/
def toTell (run : RunId) (e : FrameEnd) (p : RunState × Nat) : Flow RunEnd :=
  .ask (.publish (e.verdict run p).1) fun _ => .done (e.verdict run p).2

/-- What is left of a run that asks to end. -/
def toFinish (run : RunId) (e : FrameEnd) : Flow RunEnd :=
  .ask (.finish e.outcome) (e.toTell run)

end FrameEnd

theorem settle_eq (run : RunId) (e : FrameEnd) :
    settle run e = .ask (.recordEnvironment e.env) fun _ => e.toFinish run := by
  refine congrArg (Flow.ask _) (funext fun _ => congrArg (Flow.ask _) (funext fun p => ?_))
  obtain ⟨record, failure, env⟩ := e
  obtain ⟨state, index⟩ := p
  cases state <;> cases failure <;> rfl

namespace Job

def identity (j : Job) : Identity := ⟨j.definition.id, j.run, j.options.target⟩

/-- The variables that the run starts with. -/
def env (j : Job) : Environment :=
  (Environment.seed j.definition.vars j.options.vars).stamp j.identity

/-- Asks to begin. -/
def beginning (j : Job) : Request := .begin j.identity j.definition.steps.length j.env

def started (j : Job) : Event := .started j.run j.definition.id j.definition.steps.length

/-- The frame of the run under its token. -/
def frame (config : Config) (token : Token) (j : Job) : Flow FrameEnd :=
  frameWithin config config.maxDepth j.definition ⟨j.identity, j.definition.onError, token, 0⟩ j.env

/-- What is left of a run that has begun. -/
def toRun (config : Config) (token : Token) (j : Job) : Flow RunEnd :=
  .ask (.publish j.started) fun _ => (j.frame config token).bind (settle j.run)

/-- What is left of a call that asks to begin. -/
def toBegin (config : Config) (j : Job) : Flow RunEnd :=
  .ask j.beginning fun
    | .error e => .done (.refused e)
    | .ok token => j.toRun config token

end Job

theorem executeDefinition_eq (config : Config) (definition : Definition) (options : RunOptions) :
    executeDefinition config definition options =
      .ask .freshId fun run => Job.toBegin config ⟨definition, options, run⟩ := by
  refine congrArg (Flow.ask _) (funext fun run => congrArg (Flow.ask _) (funext fun a => ?_))
  cases a <;> rfl

theorem execute_eq (config : Config) (id : String) (options : RunOptions) :
    execute config id options = .ask (.lookup id) fun
      | some definition => executeDefinition config definition options
      | none => .done (.notFound id) := by
  refine congrArg (Flow.ask _) (funext fun a => ?_)
  cases a <;> rfl

/-! ### Milestones -/

/-- The state in which a run has ended, if the event tells of that. -/
def Event.endState? : Event → Option RunState
  | completed .. => some .completed
  | failed .. => some .failed
  | cancelled .. => some .cancelled
  | _ => none

/-- The event tells that a run has ended. -/
def Event.isTerminal (e : Event) : Bool := e.endState?.isSome

/-- The state in which a run has ended that a call returns. -/
def RunEnd.state? : RunEnd → Option RunState
  | completed _ => some .completed
  | failed .. => some .failed
  | cancelled _ => some .cancelled
  | _ => none

/-- The turns of a call that matter to others. -/
inductive Milestone where
  /-- It asks to begin a run. -/
  | begin
  /-- It ends its run. -/
  | finish
  /-- It tells that its run has ended. -/
  | tell
deriving DecidableEq

def Request.milestone? : Request → Option Milestone
  | begin .. => some .begin
  | finish _ => some .finish
  | publish e => if e.isTerminal then some .tell else none
  | _ => none

def Stroke.milestone? (s : Stroke) : Option Milestone :=
  s.deed.answered?.bind fun p => p.1.milestone?

/-- The milestones among some turns. -/
def milestones (l : List Stroke) : List Stroke := l.filter fun s => s.milestone?.isSome

theorem Stroke.milestone?_eq {s : Stroke} {r : Request} {a : r.Answer}
    (h : s.deed.answered? = some ⟨r, a⟩) : s.milestone? = r.milestone? := by
  rw [milestone?, h, Option.bind_some]

theorem milestones_concat_mark {s : Stroke} {k : Milestone} (l : List Stroke)
    (h : s.milestone? = some k) : milestones (l ++ [s]) = milestones l ++ [s] := by
  simp [milestones, h]

theorem milestones_concat_quiet {s : Stroke} (l : List Stroke) (h : s.milestone? = none) :
    milestones (l ++ [s]) = milestones l := by simp [milestones, h]

theorem Request.IsOfFrame.milestone?_eq_none {token : Token} {limit : Nat} :
    {r : Request} → r.IsOfFrame token limit → r.milestone? = none
  | publish e, h => by cases e <;> first | rfl | exact h.elim
  | begin .., h => h.elim
  | finish _, h => h.elim
  | boundary, _ => rfl
  | attempt _, _ => rfl
  | perform _, _ => rfl
  | evaluate _, _ => rfl
  | sleep .., _ => rfl
  | isCancelled _, _ => rfl
  | recordProgress .., _ => rfl
  | recordEnvironment _, _ => rfl
  | lookup _, _ => rfl
  | freshId, _ => rfl

/-! ### Stages -/

section

variable {config : Config}

/-- Some turns lead to a job: its definition is called for or looked up, and its run is given an
identifier. -/
def Prepared (l : List Stroke) (job : Job) : Errand → Prop
  | .execute id options => ∃ s s', l = [s, s'] ∧ job.options = options ∧
      s.deed = .answer (.lookup id) (some job.definition) ∧ s'.deed = .answer .freshId job.run
  | .executeDefinition definition options => ∃ s, l = [s] ∧ job.definition = definition ∧
      job.options = options ∧ s.deed = .answer .freshId job.run

/-- Some turns carry a run from its begin on, under a token, to the end of its frame, and perhaps
further. -/
def Ran (config : Config) (k : Errand) (l : List Stroke) (b : Stroke) (job : Job) (token : Token)
    (ended : FrameEnd) : Prop :=
  ∃ pre st τ post y, l = pre ++ b :: st :: τ ++ post ∧ Prepared pre job k ∧
    b.deed = .answer job.beginning (.ok token) ∧ st.deed = .answer (.publish job.started) () ∧
    Follows (.line (job.frame config token)) τ y ∧ y.ended? = some (.ok ended)

theorem Ran.append {k : Errand} {l : List Stroke} {b : Stroke} {job : Job} {token : Token}
    {ended : FrameEnd} (h : Ran config k l b job token ended) (post : List Stroke) :
    Ran config k (l ++ post) b job token ended := by
  obtain ⟨pre, st, τ, post', y, rfl, h⟩ := h
  exact ⟨pre, st, τ, post' ++ post, y, by simp, h⟩

theorem prepared_unique {k : Errand} {l l' r r' : List Stroke} {job job' : Job}
    (hl : l ++ r = l' ++ r') (h : Prepared l job k) (h' : Prepared l' job' k) :
    l = l' ∧ job = job' := by
  obtain ⟨definition, options, run⟩ := job
  obtain ⟨definition', options', run'⟩ := job'
  cases k with
  | execute id o =>
    obtain ⟨s, t, rfl, ho, hs, ht⟩ := h
    obtain ⟨s', t', rfl, ho', hs', ht'⟩ := h'
    cases hl
    cases hs.symm.trans hs'
    cases ht.symm.trans ht'
    cases ho.trans ho'.symm
    exact ⟨rfl, rfl⟩
  | executeDefinition d o =>
    obtain ⟨s, rfl, hd, ho, hs⟩ := h
    obtain ⟨s', rfl, hd', ho', hs'⟩ := h'
    cases hl
    cases hs.symm.trans hs'
    cases hd.trans hd'.symm
    cases ho.trans ho'.symm
    exact ⟨rfl, rfl⟩

/-- The job of a run and how its frame has ended are settled by the turns of its call. -/
theorem Ran.unique {k : Errand} {l : List Stroke} {b b' : Stroke} {job job' : Job}
    {token token' : Token} {ended ended' : FrameEnd} (h : Ran config k l b job token ended)
    (h' : Ran config k l b' job' token' ended') : job = job' ∧ ended = ended' := by
  obtain ⟨pre, st, τ, post, y, hl, hp, hb, -, hy, he⟩ := h
  obtain ⟨pre', st', τ', post', y', hl', hp', hb', -, hy', he'⟩ := h'
  rw [hl, List.append_assoc, List.append_assoc, List.cons_append, List.cons_append,
    List.cons_append, List.cons_append] at hl'
  obtain ⟨rfl, rfl⟩ := prepared_unique hl' hp hp'
  have hrest := List.append_cancel_left hl'
  simp only [List.cons.injEq] at hrest
  obtain ⟨rfl, -, hτ⟩ := hrest
  cases hb.symm.trans hb'
  exact ⟨rfl, Except.ok.inj (ended?_unique hτ hy hy' he he')⟩

/-- What a call does before it asks to begin. -/
inductive Asking (config : Config) (k : Errand) : List Stroke → Flow RunEnd → Prop
  | called : Asking config k [] (k.flow config)
  | found {id : String} {options : RunOptions} {definition : Definition} {s : Stroke}
      (hk : k = .execute id options) (hs : s.deed = .answer (.lookup id) (some definition)) :
      Asking config k [s] (executeDefinition config definition options)
  | toBegin {l : List Stroke} {job : Job} (h : Prepared l job k) :
      Asking config k l (job.toBegin config)

/-- A call that has not asked to begin yet has not ended. -/
theorem Asking.ended?_eq_none {k : Errand} {l : List Stroke} {flow : Flow RunEnd}
    (h : Asking config k l flow) : (Strand.line flow).ended? = none := by
  cases h with
  | called =>
    cases k with
    | execute id options =>
      rw [Errand.flow, execute_eq]
      rfl
    | executeDefinition definition options =>
      rw [Errand.flow, executeDefinition_eq]
      rfl
  | found =>
    rw [executeDefinition_eq]
    rfl
  | toBegin => rfl

/-- The branches beside a strand keep the contract of a frame, as the strand does. -/
def Strand.Drifts (config : Config) (token : Token) (y : Strand FrameEnd) : Prop :=
  y.Keeps (.frame token config.maxDepth True) fun _ => True

/-- The stages of a call after some turns. -/
inductive Stage (config : Config) (k : Errand) (l : List Stroke) : Strand RunEnd → Prop
  | asking {flow : Flow RunEnd} (h : Asking config k l flow) (marks : milestones l = []) :
      Stage config k l (.line flow)
  | away {e : RunEnd} (he : e.result? = none)
      (marks : milestones l = [] ∨ ∃ (b : Stroke) (job : Job) (error : ControlError),
        milestones l = [b] ∧ b.deed = .answer job.beginning (.error error)) :
      Stage config k l (.line (.done e))
  | announcing {pre : List Stroke} {b : Stroke} {job : Job} {token : Token} (hl : l = pre ++ [b])
      (hp : Prepared pre job k) (hb : b.deed = .answer job.beginning (.ok token))
      (marks : milestones l = [b]) : Stage config k l (.line (job.toRun config token))
  | running {pre τ : List Stroke} {b st : Stroke} {job : Job} {token : Token} {y : Strand FrameEnd}
      (hl : l = pre ++ b :: st :: τ) (hp : Prepared pre job k)
      (hb : b.deed = .answer job.beginning (.ok token))
      (hst : st.deed = .answer (.publish job.started) ())
      (hy : Follows (.line (job.frame config token)) τ y) (marks : milestones l = [b]) :
      Stage config k l (y.bind (settle job.run))
  | finishing {b : Stroke} {job : Job} {token : Token} {ended : FrameEnd} {y : Strand FrameEnd}
      (ran : Ran config k l b job token ended) (hy : y.Drifts config token)
      (marks : milestones l = [b]) : Stage config k l (y.graft (.line (ended.toFinish job.run)))
  | telling {l₀ rest : List Stroke} {b f : Stroke} {job : Job} {token : Token} {ended : FrameEnd}
      {p : RunState × Nat} {y : Strand FrameEnd} (hl : l = l₀ ++ f :: rest)
      (ran : Ran config k l₀ b job token ended) (hf : f.deed = .answer (.finish ended.outcome) p)
      (hy : y.Drifts config token) (marks : milestones l = [b, f]) :
      Stage config k l (y.graft (.line (ended.toTell job.run p)))
  | told {l₀ rest : List Stroke} {b f t : Stroke} {job : Job} {token : Token} {ended : FrameEnd}
      {p : RunState × Nat} {y : Strand FrameEnd} (hl : l = l₀ ++ f :: rest)
      (ran : Ran config k l₀ b job token ended) (hf : f.deed = .answer (.finish ended.outcome) p)
      (ht : t.deed = .answer (.publish (ended.verdict job.run p).1) ())
      (hy : y.Drifts config token) (marks : milestones l = [b, f, t]) :
      Stage config k l (y.graft (.line (.done (ended.verdict job.run p).2)))

namespace FrameEnd

theorem verdict_isTerminal (run : RunId) (e : FrameEnd) (p : RunState × Nat) :
    (e.verdict run p).1.isTerminal = true := by
  obtain ⟨state, index⟩ := p
  obtain ⟨record, failure, env⟩ := e
  cases state <;> cases failure <;> rfl

theorem verdict_run (run : RunId) (e : FrameEnd) (p : RunState × Nat) :
    (e.verdict run p).1.run = run := by
  obtain ⟨state, index⟩ := p
  obtain ⟨record, failure, env⟩ := e
  cases state <;> cases failure <;> rfl

theorem verdict_result (run : RunId) (e : FrameEnd) (p : RunState × Nat) :
    (e.verdict run p).2.result? = some
      ⟨p.1, e.env.vars, e.failure.map fun f => (f.index, f.error.message), e.record⟩ := by
  obtain ⟨state, index⟩ := p
  obtain ⟨record, failure, env⟩ := e
  cases state <;> cases failure <;> rfl

/-- What a run tells and what its call returns are of the kind of the state that was settled on. -/
theorem verdict_state (run : RunId) (e : FrameEnd) (p : RunState × Nat)
    (h : p.1 = .completed ∨ p.1 = .cancelled ∨ p.1 = .failed ∧ e.failure ≠ none) :
    (e.verdict run p).1.endState? = some p.1 ∧ (e.verdict run p).2.state? = some p.1 := by
  obtain ⟨state, index⟩ := p
  obtain ⟨record, failure, env⟩ := e
  rcases h with rfl | rfl | ⟨rfl, h⟩ <;> cases failure <;>
    first | exact ⟨rfl, rfl⟩ | exact absurd rfl h

end FrameEnd

/-- The frame of a run keeps its contract. -/
theorem keeps_frame (config : Config) (job : Job) (token : Token) (cancels : Prop) :
    (Strand.line (job.frame config token)).Keeps (.frame token config.maxDepth cancels)
      (FrameEnd.Abides cancels) :=
  keeps_frameWithin config.maxDepth job.definition ⟨job.identity, job.definition.onError, token, 0⟩
    job.env (Nat.le_of_eq (Nat.zero_add _))

/-- However far a frame is carried on, it keeps its contract. -/
theorem drifts_follows {job : Job} {token : Token} {τ : List Stroke} {y : Strand FrameEnd}
    (h : Follows (.line (job.frame config token)) τ y) : y.Drifts config token := by
  have hx : (Strand.line (job.frame config token)).Drifts config token :=
    Flow.Keeps.mono (fun _ _ => trivial) _ (keeps_frame config job token True)
  exact (keeps_follows h (fun _ _ => Contract.reckons_of_cancels trivial _) hx).1

/-- What a strand does that drifts is no milestone. -/
theorem quiet_of_drifts {token : Token} {y z : Strand FrameEnd} {s : Stroke} {c' : Control}
    (hy : y.Drifts config token) (t : Turn s.control y s.deed c' z) :
    z.Drifts config token ∧ s.milestone? = none := by
  obtain ⟨hz, hd⟩ := keeps_turn t (Contract.reckons_of_cancels trivial _) hy
  refine ⟨hz, ?_⟩
  rcases ha : s.deed.answered? with _ | ⟨r, a⟩
  · rw [Stroke.milestone?, ha, Option.bind_none]
  · rw [Stroke.milestone?_eq ha, (hd r a ha).milestone?_eq_none]

section

variable {k : Errand} {l : List Stroke} {s : Stroke} {x : Strand RunEnd} {c' : Control}

private theorem stage_turn_asking {flow : Flow RunEnd} (h : Asking config k l flow)
    (marks : milestones l = []) (t : Turn s.control (.line flow) s.deed c' x) :
    Stage config k (l ++ [s]) x := by
  obtain ⟨time, c, d⟩ := s
  cases h with
  | called =>
    cases k with
    | execute id options =>
      rw [Errand.flow, execute_eq] at t
      cases t with
      | crash h => exact h.elim
      | @answer _ _ _ _ a _ h =>
        cases a with
        | none => exact .away rfl (.inl rfl)
        | some definition => exact .asking (.found rfl rfl) rfl
    | executeDefinition definition options =>
      rw [Errand.flow, executeDefinition_eq] at t
      cases t with
      | crash h => exact h.elim
      | answer h => exact .asking (.toBegin ⟨_, rfl, rfl, rfl, rfl⟩) rfl
  | @found id options definition s hk hs =>
    rw [executeDefinition_eq] at t
    cases t with
    | crash h => exact h.elim
    | answer h =>
      subst hk
      refine .asking (.toBegin ⟨s, _, rfl, rfl, hs, rfl⟩) ?_
      rw [milestones_concat_quiet _ rfl, marks]
  | toBegin hp =>
    cases t with
    | crash h => exact h.elim
    | @answer _ _ _ _ a _ h =>
      have hm := marks ▸ milestones_concat_mark (s := ⟨time, c, .answer _ a⟩) l rfl
      cases a with
      | error e => exact .away rfl (.inr ⟨_, _, e, hm, rfl⟩)
      | ok token => exact .announcing rfl hp rfl hm

private theorem stage_turn_announcing {pre : List Stroke} {b : Stroke} {job : Job} {token : Token}
    (hl : l = pre ++ [b]) (hp : Prepared pre job k)
    (hb : b.deed = .answer job.beginning (.ok token)) (marks : milestones l = [b])
    (t : Turn s.control (.line (job.toRun config token)) s.deed c' x) :
    Stage config k (l ++ [s]) x := by
  have hl' : l ++ [s] = pre ++ b :: s :: [] := by rw [hl, List.append_assoc, List.singleton_append]
  obtain ⟨time, c, d⟩ := s
  cases t with
  | crash h => exact h.elim
  | answer h =>
    exact .running hl' hp hb rfl (.refl _) (by rw [milestones_concat_quiet _ rfl, marks])

private theorem stage_turn_running {pre τ : List Stroke} {b st : Stroke} {job : Job} {token : Token}
    {y : Strand FrameEnd} (hl : l = pre ++ b :: st :: τ) (hp : Prepared pre job k)
    (hb : b.deed = .answer job.beginning (.ok token))
    (hst : st.deed = .answer (.publish job.started) ())
    (hy : Follows (.line (job.frame config token)) τ y) (marks : milestones l = [b])
    (t : Turn s.control (y.bind (settle job.run)) s.deed c' x) : Stage config k (l ++ [s]) x := by
  have hd := drifts_follows hy
  rcases turn_bind _ t with ⟨y', u, rfl⟩ | ⟨ended, z, he, u, rfl⟩
  · have hl' : l ++ [s] = pre ++ b :: st :: (τ ++ [s]) := by
      rw [hl, List.append_assoc, List.cons_append, List.cons_append]
    refine .running hl' hp hb hst (hy.turn u) ?_
    rw [milestones_concat_quiet _ (quiet_of_drifts hd u).2, marks]
  · obtain ⟨time, c, d⟩ := s
    rw [settle_eq] at u
    cases u with
    | crash h => exact h.elim
    | answer h =>
      have ran : Ran config k l b job token ended :=
        ⟨pre, st, τ, [], y, by rw [hl, List.append_nil], hp, hb, hst, hy, he⟩
      exact .finishing (ran.append _) hd (by rw [milestones_concat_quiet _ rfl, marks])

private theorem stage_turn_finishing {b : Stroke} {job : Job} {token : Token} {ended : FrameEnd}
    {y : Strand FrameEnd} (ran : Ran config k l b job token ended) (hy : y.Drifts config token)
    (marks : milestones l = [b])
    (t : Turn s.control (y.graft (.line (ended.toFinish job.run))) s.deed c' x) :
    Stage config k (l ++ [s]) x := by
  rcases turn_graft _ t with ⟨y', u, rfl⟩ | ⟨z, u, rfl⟩
  · obtain ⟨hy', hq⟩ := quiet_of_drifts hy u
    exact .finishing (ran.append _) hy' (by rw [milestones_concat_quiet _ hq, marks])
  · obtain ⟨time, c, d⟩ := s
    cases u with
    | crash h => exact h.elim
    | answer h => exact .telling rfl ran rfl hy (by rw [milestones_concat_mark _ rfl, marks]; rfl)

private theorem stage_turn_telling {l₀ rest : List Stroke} {b f : Stroke} {job : Job}
    {token : Token} {ended : FrameEnd} {p : RunState × Nat} {y : Strand FrameEnd}
    (hl : l = l₀ ++ f :: rest) (ran : Ran config k l₀ b job token ended)
    (hf : f.deed = .answer (.finish ended.outcome) p) (hy : y.Drifts config token)
    (marks : milestones l = [b, f])
    (t : Turn s.control (y.graft (.line (ended.toTell job.run p))) s.deed c' x) :
    Stage config k (l ++ [s]) x := by
  have hl' : l ++ [s] = l₀ ++ f :: (rest ++ [s]) := by rw [hl, List.append_assoc, List.cons_append]
  rcases turn_graft _ t with ⟨y', u, rfl⟩ | ⟨z, u, rfl⟩
  · obtain ⟨hy', hq⟩ := quiet_of_drifts hy u
    exact .telling hl' ran hf hy' (by rw [milestones_concat_quiet _ hq, marks])
  · obtain ⟨time, c, d⟩ := s
    cases u with
    | crash h => exact h.elim
    | @answer _ _ _ _ a _ h =>
      have hm : (Stroke.mk time c (.answer (.publish (ended.verdict job.run p).1) a)).milestone? =
        some .tell := if_pos (FrameEnd.verdict_isTerminal job.run ended p)
      exact .told hl' ran hf rfl hy (by rw [milestones_concat_mark _ hm, marks]; rfl)

private theorem stage_turn_told {l₀ rest : List Stroke} {b f e : Stroke} {job : Job} {token : Token}
    {ended : FrameEnd} {p : RunState × Nat} {y : Strand FrameEnd} (hl : l = l₀ ++ f :: rest)
    (ran : Ran config k l₀ b job token ended) (hf : f.deed = .answer (.finish ended.outcome) p)
    (he : e.deed = .answer (.publish (ended.verdict job.run p).1) ())
    (hy : y.Drifts config token) (marks : milestones l = [b, f, e])
    (t : Turn s.control (y.graft (.line (.done (ended.verdict job.run p).2))) s.deed c' x) :
    Stage config k (l ++ [s]) x := by
  have hl' : l ++ [s] = l₀ ++ f :: (rest ++ [s]) := by rw [hl, List.append_assoc, List.cons_append]
  rcases turn_graft _ t with ⟨y', u, rfl⟩ | ⟨z, u, -⟩
  · obtain ⟨hy', hq⟩ := quiet_of_drifts hy u
    exact .told hl' ran hf he hy' (by rw [milestones_concat_quiet _ hq, marks])
  · exact nomatch u

end

/-- A turn of a call leads from stage to stage. -/
theorem stage_turn {k : Errand} {l : List Stroke} {s : Stroke} {x y : Strand RunEnd}
    {c' : Control} (h : Stage config k l x) (t : Turn s.control x s.deed c' y) :
    Stage config k (l ++ [s]) y := by
  cases h with
  | asking h marks => exact stage_turn_asking h marks t
  | away => exact nomatch t
  | announcing hl hp hb marks => exact stage_turn_announcing hl hp hb marks t
  | running hl hp hb hst hy marks => exact stage_turn_running hl hp hb hst hy marks t
  | finishing ran hy marks => exact stage_turn_finishing ran hy marks t
  | telling hl ran hf hy marks => exact stage_turn_telling hl ran hf hy marks t
  | told hl ran hf he hy marks => exact stage_turn_told hl ran hf he hy marks t

/-- However far a call is carried on, it is at one of the stages. -/
theorem stage_follows {k : Errand} {l : List Stroke} {x : Strand RunEnd}
    (h : Follows (.line (k.flow config)) l x) : Stage config k l x := by
  induction h with
  | refl => exact .asking .called rfl
  | turn _ t ih => exact stage_turn ih t

/-! ### What the stages tell -/

section

variable {k : Errand} {l : List Stroke} {x : Strand RunEnd} {s s' : Stroke}

theorem Ran.begun {b : Stroke} {job : Job} {token : Token} {ended : FrameEnd}
    (h : Ran config k l b job token ended) :
    b ∈ l ∧ b.deed = .answer job.beginning (.ok token) := by
  obtain ⟨pre, st, τ, post, y, rfl, -, hb, -⟩ := h
  exact ⟨by simp, hb⟩

/-- The identifier of a run was given to the call. -/
theorem Ran.named {b : Stroke} {job : Job} {token : Token} {ended : FrameEnd}
    (h : Ran config k l b job token ended) : ∃ s ∈ l, s.deed = .answer .freshId job.run := by
  obtain ⟨pre, st, τ, post, y, rfl, hp, -⟩ := h
  cases k with
  | execute id options =>
    obtain ⟨s, s', rfl, -, -, hs⟩ := hp
    exact ⟨s', by simp, hs⟩
  | executeDefinition definition options =>
    obtain ⟨s, rfl, -, -, hs⟩ := hp
    exact ⟨s, by simp, hs⟩

private theorem mem_milestones {mark : Milestone} (hs : s ∈ l) (hk : s.milestone? = some mark) :
    s ∈ milestones l := List.mem_filter.mpr ⟨hs, by rw [hk]; rfl⟩

private theorem milestone?_begin {b : Stroke} {job : Job} {a : Except ControlError Token}
    (hb : b.deed = .answer job.beginning a) : b.milestone? = some .begin :=
  Stroke.milestone?_eq (congrArg Deed.answered? hb)

private theorem milestone?_finish {f : Stroke} {o : RunState} {p : RunState × Nat}
    (hf : f.deed = .answer (.finish o) p) : f.milestone? = some .finish :=
  Stroke.milestone?_eq (congrArg Deed.answered? hf)

private theorem milestone?_tell {t : Stroke} {run : RunId} {e : FrameEnd} {p : RunState × Nat}
    (ht : t.deed = .answer (.publish (e.verdict run p).1) ()) : t.milestone? = some .tell :=
  (Stroke.milestone?_eq (congrArg Deed.answered? ht)).trans
    (if_pos (FrameEnd.verdict_isTerminal run e p))

/-- A call reaches each of its milestones once. -/
theorem milestone_once_of_stage {mark : Milestone} (h : Stage config k l x) (hs : s ∈ l)
    (hs' : s' ∈ l) (hk : s.milestone? = some mark) (hk' : s'.milestone? = some mark) : s = s' := by
  have hnodup : ((milestones l).map Stroke.milestone?).Nodup := by
    cases h with
    | asking h marks => simp [marks]
    | away he marks => rcases marks with marks | ⟨b, job, error, marks, -⟩ <;> simp [marks]
    | announcing hl hp hb marks => simp [marks]
    | running hl hp hb hst hy marks => simp [marks]
    | finishing ran hy marks => simp [marks]
    | telling hl ran hf hy marks =>
      simp [marks, milestone?_begin ran.begun.2, milestone?_finish hf]
    | told hl ran hf he hy marks =>
      simp [marks, milestone?_begin ran.begun.2, milestone?_finish hf, milestone?_tell he]
  exact List.inj_on_of_nodup_map hnodup (mem_milestones hs hk) (mem_milestones hs' hk')
    (hk.trans hk'.symm)

/-- All milestones but the first come after the frame has ended: the run ends as its frame asks, and
it is told how it has settled. -/
private theorem settled_of_milestone {mark : Milestone} (h : Stage config k l x) (hs : s ∈ l)
    (hk : s.milestone? = some mark) (hne : mark ≠ .begin) :
    ∃ l₀ rest b f job token ended p, l = l₀ ++ f :: rest ∧ Ran config k l₀ b job token ended ∧
      f.deed = .answer (.finish ended.outcome) p ∧
      (s = f ∨ s.deed = .answer (.publish (ended.verdict job.run p).1) ()) := by
  have hm := mem_milestones hs hk
  have first : ∀ {b : Stroke} {job : Job} {a : Except ControlError Token},
      b.deed = .answer job.beginning a → s ≠ b := by
    rintro b job a hb rfl
    exact hne (Option.some.inj (hk.symm.trans (milestone?_begin hb)))
  have early : ∀ {b : Stroke} {job : Job} {a : Except ControlError Token},
      b.deed = .answer job.beginning a → milestones l ≠ [b] := fun hb marks =>
    first hb (List.mem_singleton.mp (marks ▸ hm))
  cases h with
  | asking h marks => exact nomatch marks ▸ hm
  | away he marks =>
    rcases marks with marks | ⟨b, job, error, marks, hb⟩
    · exact nomatch marks ▸ hm
    · exact absurd marks (early hb)
  | announcing hl hp hb marks => exact absurd marks (early hb)
  | running hl hp hb hst hy marks => exact absurd marks (early hb)
  | finishing ran hy marks => exact absurd marks (early ran.begun.2)
  | @telling l₀ rest b f job token ended p y hl ran hf hy marks =>
    refine ⟨l₀, rest, b, f, job, token, ended, p, hl, ran, hf, .inl ?_⟩
    simpa [marks, first ran.begun.2] using hm
  | @told l₀ rest b f t job token ended p y hl ran hf ht hy marks =>
    refine ⟨l₀, rest, b, f, job, token, ended, p, hl, ran, hf, ?_⟩
    have hft : s = f ∨ s = t := by simpa [marks, first ran.begun.2] using hm
    rcases hft with hsf | rfl
    · exact .inl hsf
    · exact .inr ht

/-- A run ends after its frame has ended, and as its frame asks. -/
theorem ran_of_finish {o : RunState} {p : RunState × Nat} (h : Stage config k l x) (hs : s ∈ l)
    (ha : s.deed.answered? = some ⟨.finish o, p⟩) :
    ∃ l₀ rest b job token ended, l = l₀ ++ s :: rest ∧ Ran config k l₀ b job token ended ∧
      o = ended.outcome := by
  obtain ⟨l₀, rest, b, f, job, token, ended, p', hl, ran, hf, rfl | ht⟩ :=
    settled_of_milestone h hs (Stroke.milestone?_eq ha) (fun h => nomatch h)
  · rw [hf] at ha
    cases ha
    exact ⟨l₀, rest, b, job, token, ended, hl, ran, rfl⟩
  · rw [ht] at ha
    exact nomatch ha

/-- It is told that a run has ended only after it has, and as it has settled. -/
theorem ran_of_tell {e : Event} (h : Stage config k l x) (hs : s ∈ l)
    (ha : s.deed.answered? = some ⟨.publish e, ()⟩) (he : e.isTerminal = true) :
    ∃ l₀ rest b f job token ended p, l = l₀ ++ f :: rest ∧ Ran config k l₀ b job token ended ∧
      f.deed = .answer (.finish ended.outcome) p ∧ e = (ended.verdict job.run p).1 := by
  have hk : s.milestone? = some .tell := (Stroke.milestone?_eq ha).trans (if_pos he)
  obtain ⟨l₀, rest, b, f, job, token, ended, p, hl, ran, hf, rfl | ht⟩ :=
    settled_of_milestone h hs hk (fun h => nomatch h)
  · rw [hf] at ha
    exact nomatch ha
  · rw [ht] at ha
    cases ha
    exact ⟨l₀, rest, b, f, job, token, ended, p, hl, ran, hf, rfl⟩

/-- A call that has returned was turned away, or has told of the end of its run and returns so. -/
theorem told_of_ended {e : RunEnd} (h : Stage config k l x) (he : x.ended? = some (.ok e)) :
    (e.result? = none ∧ ∀ s ∈ l, ∀ identity total env token,
      s.deed.answered? ≠ some ⟨.begin identity total env, .ok token⟩) ∨
    ∃ l₀ rest b f t job token ended p, l = l₀ ++ f :: rest ∧ Ran config k l₀ b job token ended ∧
      f.deed = .answer (.finish ended.outcome) p ∧ t ∈ l ∧
      t.deed = .answer (.publish (ended.verdict job.run p).1) () ∧
      e = (ended.verdict job.run p).2 := by
  cases h with
  | @away e' he' marks =>
    cases he
    refine .inl ⟨he', fun s hs identity total env token ha => ?_⟩
    have hm := mem_milestones hs (Stroke.milestone?_eq ha)
    rcases marks with marks | ⟨b, job, error, marks, hb⟩
    · exact nomatch marks ▸ hm
    · rw [marks, List.mem_singleton] at hm
      subst hm
      rw [hb] at ha
      exact nomatch ha
  | asking h marks => exact nomatch h.ended?_eq_none.symm.trans he
  | announcing hl hp hb marks => exact nomatch he
  | running hl hp hb hst hy marks =>
    rcases ended?_bind _ he with ⟨report, -, h⟩ | ⟨ended, -, h⟩
    · exact nomatch h
    · rw [settle_eq] at h
      exact nomatch h
  | finishing ran hy marks =>
    rw [ended?_graft] at he
    exact nomatch he
  | telling hl ran hf hy marks =>
    rw [ended?_graft] at he
    exact nomatch he
  | @told l₀ rest b f t job token ended p y hl ran hf ht hy marks =>
    rw [ended?_graft] at he
    cases he
    have htl : t ∈ l := (List.mem_filter.mp (marks ▸ by simp : t ∈ milestones l)).1
    exact .inr ⟨l₀, rest, b, f, t, job, token, ended, p, hl, ran, hf, htl, ht, rfl⟩

end

end

end Workflow

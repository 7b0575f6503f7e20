import Workflow.Run.Control

/-!
# Histories of the control of runs

An engine is used over and over: runs begin, are paused, resumed, cancelled and end, and the same
control serves them one after another. What it has done is told by the history of the operations
alone: which state it is in, which tokens are cancelled, and for which run and step it has told that
it was paused or resumed.

## Main definitions

* `Workflow.Control.Operation`, `Workflow.Control.Moment` — what may be asked of the control, and
  what comes of it.
* `Workflow.Control.history` — the moments of a list of operations.
* `Workflow.Control.Moves` — the moves between the states.
* `Workflow.Control.Lawful` — the laws that a history keeps.

## Main results

* `Workflow.Control.recounts_of_effect` — one more operation leaves the control as the history
  tells.
* `Workflow.Control.lawful` — the histories of a new engine are lawful.
-/

namespace Workflow

theorem RunState.isActive_iff {s : RunState} : s.isActive = true ↔ s = .running ∨ s = .paused := by
  cases s <;> simp [isActive]

theorem RunState.isActive_eq_false_iff {s : RunState} :
    s.isActive = false ↔ s = .idle ∨ s.isTerminal = true := by
  cases s <;> simp [isActive, isTerminal]

theorem RunState.ne_of_isTerminal {s s' : RunState} (h : s.isTerminal = true)
    (h' : s'.isTerminal = false) : s ≠ s' := by
  rintro rfl
  simp [h] at h'

namespace Control

/-! ### Operations and moments -/

/-- What may be asked of the control. -/
inductive Operation where
  | begin (identity : Identity) (totalSteps : Nat) (env : Environment)
  | pause
  | resume
  | cancel
  | finish (outcome : {s : RunState // s.isTerminal = true})
  | recordProgress (index : Nat) (env : Environment)
  | recordEnvironment (env : Environment)
  | boundary
  | snapshot

/-- What the control answers. -/
inductive Answer where
  | begun (token : Token)
  | done
  | refused (why : ControlError)
  | settled (state : RunState)
  /-- A boundary that waits has not answered yet. -/
  | met (boundary : Boundary)
  | shows (snapshot : StatusSnapshot)

/-- One operation as it went: the control before and after it, the answer, and the event that was
published. -/
structure Moment where
  before : Control
  operation : Operation
  answer : Answer
  event? : Option Event
  after : Control

/-- What comes of an operation. -/
def moment (c : Control) (op : Operation) : Moment :=
  match op with
  | .begin identity totalSteps env =>
    match c.begin identity totalSteps env with
    | .ok (token, c') => ⟨c, op, .begun token, none, c'⟩
    | .error why => ⟨c, op, .refused why, none, c⟩
  | .pause =>
    match c.pause with
    | .ok (c', e) => ⟨c, op, .done, some e, c'⟩
    | .error why => ⟨c, op, .refused why, none, c⟩
  | .resume =>
    match c.resume with
    | .ok (c', e) => ⟨c, op, .done, some e, c'⟩
    | .error why => ⟨c, op, .refused why, none, c⟩
  | .cancel => ⟨c, op, .done, none, c.cancel⟩
  | .finish outcome => ⟨c, op, .settled (c.finish outcome).1, none, (c.finish outcome).2⟩
  | .recordProgress index env => ⟨c, op, .done, none, c.recordProgress index env⟩
  | .recordEnvironment env => ⟨c, op, .done, none, c.recordEnvironment env⟩
  | .boundary => ⟨c, op, .met c.boundary, none, c⟩
  | .snapshot => ⟨c, op, .shows c.snapshot, none, c⟩

/-- The moments of operations one after another. -/
def history (c : Control) : List Operation → List Moment
  | [] => []
  | op :: ops => c.moment op :: history (c.moment op).after ops

/-- The control after operations one after another. -/
def afterAll (c : Control) (ops : List Operation) : Control :=
  ops.foldl (fun c op => (c.moment op).after) c

@[simp] theorem afterAll_nil (c : Control) : c.afterAll [] = c := rfl

@[simp] theorem afterAll_cons (c : Control) (op : Operation) (ops : List Operation) :
    c.afterAll (op :: ops) = (c.moment op).after.afterAll ops := rfl

/-- What comes first in a history is the history of the first operations. -/
theorem exists_of_append_eq_history {c : Control} {ops : List Operation} {h h' : List Moment}
    (hh : c.history ops = h ++ h') :
    ∃ ops' ops'', h = c.history ops' ∧ h' = (c.afterAll ops').history ops'' := by
  induction h generalizing c ops with
  | nil => exact ⟨[], ops, rfl, hh.symm⟩
  | cons m h ih =>
    cases ops with
    | nil => exact nomatch hh
    | cons op ops =>
      rw [history, List.cons_append, List.cons.injEq] at hh
      obtain ⟨rfl, hh⟩ := hh
      obtain ⟨ops', ops'', rfl, rfl⟩ := ih hh
      exact ⟨op :: ops', ops'', rfl, rfl⟩

/-! ### The laws -/

/-- The moves between the states. -/
def Moves : Operation → RunState → RunState → Prop
  | .begin .., s, s' => (s = .idle ∨ s.isTerminal = true) ∧ s' = .running
  | .pause, s, s' => s = .running ∧ s' = .paused
  | .resume, s, s' => s = .paused ∧ s' = .running
  | .cancel, s, s' => (s = .running ∨ s = .paused) ∧ s' = .cancelled
  | .finish outcome, s, s' => s ≠ .cancelled ∧ s' = outcome
  | _, _, _ => False

/-- What is asked for by a request may be refused. -/
def Operation.IsRequest : Operation → Prop
  | begin .. => True
  | pause => True
  | resume => True
  | cancel => True
  | _ => False

namespace Moment

/-- The run that has begun. -/
def begun? (m : Moment) : Option RunId :=
  match m.operation, m.answer with
  | .begin identity _ _, .begun _ => some identity.executionId
  | _, _ => none

/-- The index of a step that is recorded; a run that begins has it at zero. -/
def step? (m : Moment) : Option Nat :=
  match m.operation, m.answer with
  | .begin .., .begun _ => some 0
  | .recordProgress index _, _ => some index
  | _, _ => none

/-- A run that goes on was cancelled. -/
def Cancels (m : Moment) : Prop :=
  m.operation = .cancel ∧ (m.before.state = .running ∨ m.before.state = .paused)

/-- A request was refused, or there was nothing to cancel. -/
def IsRefused (m : Moment) : Prop :=
  (∃ why, m.answer = .refused why) ∨ m.operation = .cancel ∧ ¬ m.Cancels

end Moment

/-- How many runs have begun. -/
def begins (h : List Moment) : Nat := (h.filterMap Moment.begun?).length

/-- The latest run that has begun, and the index that was recorded last. -/
def StandsAt (h : List Moment) (run : RunId) (index : Nat) : Prop :=
  (h.filterMap Moment.begun?).getLast? = some run ∧
    (h.filterMap Moment.step?).getLast? = some index

/-- The event of a moment is the one that what came before it calls for. -/
def ToldRightly (earlier : List Moment) (m : Moment) : Prop :=
  match m.operation, m.answer with
  | .pause, .done => ∃ run index, StandsAt earlier run index ∧ m.event? = some (.paused run index)
  | .resume, .done => ∃ run index, StandsAt earlier run index ∧ m.event? = some (.resumed run index)
  | _, _ => m.event? = none

/-- Events that tell in turn of a pause and of its end; the first stands at place `n`. -/
def Alternate (n : Nat) (es : List Event) : Prop :=
  ∀ i e, es[i]? = some e → e.kindName = if (n + i) % 2 = 0 then "paused" else "resumed"

/-- The laws of a history and of the control at its end. -/
structure Lawful (h : List Moment) (c : Control) : Prop where
  /-- The state makes the move that the operation makes from there, if it makes any. -/
  moves : ∀ m ∈ h, Moves m.operation m.before.state m.after.state ∨
    (∀ s, ¬ Moves m.operation m.before.state s) ∧ m.after.state = m.before.state
  /-- No operation leads back to the first state. -/
  leaves_idle : ∀ m ∈ h, m.after.state = .idle → m.before.state = .idle
  /-- Every run gets a token of its own, in order. -/
  minted : c.tokens.length = begins h
  token : ∀ earlier m, earlier ++ [m] <+: h → ∀ t, m.answer = .begun t → t = begins earlier
  /-- A token is cancelled just when its run was the latest to begin as one was cancelled. -/
  cancelled : ∀ k, c.isCancelled k = true ↔
    ∃ earlier m, earlier ++ [m] <+: h ∧ m.Cancels ∧ begins earlier = k + 1
  /-- The requests that make no move are refused, and no others. -/
  refuses : ∀ m ∈ h, m.IsRefused ↔
    m.operation.IsRequest ∧ ∀ s, ¬ Moves m.operation m.before.state s
  /-- What is refused changes nothing and is not told. -/
  refused : ∀ m ∈ h, m.IsRefused → m.after = m.before ∧ m.event? = none
  told : ∀ earlier m, earlier ++ [m] <+: h → ToldRightly earlier m
  /-- Between two runs that begin, the first event tells of a pause, and then they take turns. -/
  alternate : ∀ earlier m since, earlier ++ [m] ++ since <+: h → m.begun?.isSome = true →
    (∀ x ∈ since, x.begun? = none) → Alternate 0 (since.filterMap Moment.event?)

/-! ### What one operation does -/

/-- The operation records something and makes no move. -/
def Operation.Records : Operation → Prop
  | recordProgress .. => True
  | recordEnvironment _ => True
  | _ => False

/-- What may come of an operation. -/
inductive Effect (c : Control) : Moment → Prop
  | begins {identity : Identity} {totalSteps : Nat} {env : Environment}
      (h : c.state = .idle ∨ c.state.isTerminal = true) :
      Effect c ⟨c, .begin identity totalSteps env, .begun c.tokens.length, none,
        .running, c.tokens ++ [false],
        some identity.executionId, some identity.workflowId, 0, totalSteps, env.vars⟩
  | pauses (h : c.state = .running) :
      Effect c ⟨c, .pause, .done, some (.paused c.position.1 c.position.2),
        { c with state := .paused }⟩
  | resumes (h : c.state = .paused) :
      Effect c ⟨c, .resume, .done, some (.resumed c.position.1 c.position.2),
        { c with state := .running }⟩
  | cancels (h : c.state = .running ∨ c.state = .paused) :
      Effect c ⟨c, .cancel, .done, none,
        { c with state := .cancelled, tokens := c.tokens.set (c.tokens.length - 1) true }⟩
  | ends {outcome : {s : RunState // s.isTerminal = true}} (h : c.state ≠ .cancelled) :
      Effect c ⟨c, .finish outcome, .settled outcome, none, { c with state := outcome }⟩
  | recordsProgress {index : Nat} {env : Environment} :
      Effect c ⟨c, .recordProgress index env, .done, none, c.recordProgress index env⟩
  | recordsEnvironment {env : Environment} :
      Effect c ⟨c, .recordEnvironment env, .done, none, c.recordEnvironment env⟩
  | idles {op : Operation} {answer : Answer} (hm : ∀ s, ¬ Moves op c.state s)
      (hr : ¬ op.Records)
      (ha : op.IsRequest ∧ op ≠ .cancel ↔ ∃ why, answer = .refused why)
      (hb : ∀ t, answer ≠ .begun t) :
      Effect c ⟨c, op, answer, none, c⟩

/-- Every operation has one of these effects. -/
theorem effect_moment (c : Control) (op : Operation) : Effect c (c.moment op) := by
  cases op with
  | begin identity totalSteps env =>
    cases hs : c.state.isActive with
    | true =>
      have hm : ¬ (c.state = .idle ∨ c.state.isTerminal = true) := by
        simp [← RunState.isActive_eq_false_iff, hs]
      simp only [moment, begin, hs, if_true]
      exact .idles (fun s h => hm h.1) id (by simp [Operation.IsRequest]) (fun t => nofun)
    | false =>
      simp only [moment, begin, hs]
      exact .begins (RunState.isActive_eq_false_iff.mp hs)
  | pause =>
    by_cases hs : c.state = .running
    · simp only [moment, pause, hs, if_true]
      exact .pauses hs
    · simp only [moment, pause, hs, if_false]
      exact .idles (fun s h => hs h.1) id (by simp [Operation.IsRequest]) (fun t => nofun)
  | resume =>
    by_cases hs : c.state = .paused
    · simp only [moment, resume, hs, if_true]
      exact .resumes hs
    · simp only [moment, resume, hs, if_false]
      exact .idles (fun s h => hs h.1) id (by simp [Operation.IsRequest]) (fun t => nofun)
  | cancel =>
    by_cases hs : c.state.isActive = true
    · simp only [moment, cancel, hs, if_true]
      exact .cancels (RunState.isActive_iff.mp hs)
    · simp only [moment, cancel, hs]
      exact .idles (fun s h => hs (RunState.isActive_iff.mpr h.1)) id
        (by simp [Operation.IsRequest]) (fun t => nofun)
  | finish outcome =>
    by_cases hs : c.state = .cancelled
    · simp only [moment, finish, hs, if_true]
      exact .idles (fun s h => h.1 hs) id (by simp [Operation.IsRequest]) (fun t => nofun)
    · simp only [moment, finish, hs, if_false]
      exact .ends hs
  | recordProgress index env => exact .recordsProgress
  | recordEnvironment env => exact .recordsEnvironment
  | boundary => exact .idles (fun s => id) id (by simp [Operation.IsRequest]) (fun t => nofun)
  | snapshot => exact .idles (fun s => id) id (by simp [Operation.IsRequest]) (fun t => nofun)

/-! ### The laws of one moment -/

theorem moves_of_effect {c : Control} {m : Moment} (h : Effect c m) :
    Moves m.operation m.before.state m.after.state ∨
      (∀ s, ¬ Moves m.operation m.before.state s) ∧ m.after.state = m.before.state := by
  cases h with
  | recordsProgress => exact .inr ⟨fun s => id, rfl⟩
  | recordsEnvironment => exact .inr ⟨fun s => id, rfl⟩
  | idles hm => exact .inr ⟨hm, rfl⟩
  | _ h => exact .inl ⟨h, rfl⟩

theorem refuses_of_effect {c : Control} {m : Moment} (h : Effect c m) :
    m.IsRefused ↔ m.operation.IsRequest ∧ ∀ s, ¬ Moves m.operation m.before.state s := by
  cases h with
  | @idles op answer hm _ ha _ =>
    have hc : ¬ (Moment.mk c op answer none c).Cancels := by
      rintro ⟨rfl, hs⟩
      exact hm .cancelled ⟨hs, rfl⟩
    simp only [Moment.IsRefused, ← ha, hm, hc]
    by_cases hop : op = .cancel <;> simp [hop, Operation.IsRequest]
  | cancels h => simp [Moment.IsRefused, Moment.Cancels, Moves, h]
  | recordsProgress => simp [Moment.IsRefused, Operation.IsRequest]
  | recordsEnvironment => simp [Moment.IsRefused, Operation.IsRequest]
  | _ h => simp [Moment.IsRefused, Moves, h]

theorem leaves_idle_of_effect {c : Control} {m : Moment} (h : Effect c m)
    (hm : m.after.state = .idle) : m.before.state = .idle := by
  cases h with
  | @ends outcome => exact absurd hm (RunState.ne_of_isTerminal outcome.2 rfl)
  | recordsProgress => exact hm
  | recordsEnvironment => exact hm
  | idles => exact hm
  | _ => exact nomatch hm

theorem refused_of_effect {c : Control} {m : Moment} (h : Effect c m) (hm : m.IsRefused) :
    m.after = m.before ∧ m.event? = none := by
  cases h with
  | idles => exact ⟨rfl, rfl⟩
  | cancels h => simp [Moment.IsRefused, Moment.Cancels, h] at hm
  | _ => simp [Moment.IsRefused] at hm

/-! ### The laws of a history -/

/-- The control is as the history tells. -/
structure Recounts (h : List Moment) (c : Control) : Prop where
  minted : c.tokens.length = begins h
  cancelled : ∀ k, c.isCancelled k = true ↔
    ∃ earlier m, earlier ++ [m] <+: h ∧ m.Cancels ∧ begins earlier = k + 1
  stands : c.state = .running ∨ c.state = .paused →
    ∃ run, c.progress.executionId = some run ∧ StandsAt h run c.progress.currentStep

theorem exists_prefix_concat {P : List Moment → Moment → Prop} {h : List Moment} {m : Moment} :
    (∃ earlier m', earlier ++ [m'] <+: h ++ [m] ∧ P earlier m') ↔
      P h m ∨ ∃ earlier m', earlier ++ [m'] <+: h ∧ P earlier m' := by
  simp only [List.prefix_concat_iff, or_and_right, exists_or]
  refine or_congr_left ⟨?_, fun hp => ⟨h, m, rfl, hp⟩⟩
  rintro ⟨earlier, m', he, hp⟩
  obtain ⟨rfl, hm⟩ := List.append_inj' he rfl
  obtain rfl := List.singleton_inj.mp hm
  exact hp

theorem begins_concat (h : List Moment) (m : Moment) :
    begins (h ++ [m]) = begins h + m.begun?.toList.length := by
  cases hm : m.begun? <;> simp [begins, hm]

/-- A token is not cancelled at first. -/
theorem isCancelled_mint {c c' : Control} (h : c'.tokens = c.tokens ++ [false]) (k : Token) :
    c'.isCancelled k = c.isCancelled k := by
  rw [isCancelled, isCancelled, h, List.getElem?_append]
  by_cases hk : k < c.tokens.length
  · rw [if_pos hk]
  · rw [if_neg hk, List.getElem?_eq_none (Nat.not_lt.mp hk)]
    cases k - c.tokens.length <;> rfl

/-- The latest token is cancelled, and no other. -/
theorem isCancelled_cancel {c c' : Control} (hpos : 0 < c.tokens.length)
    (h : c'.tokens = c.tokens.set (c.tokens.length - 1) true) (k : Token) :
    c'.isCancelled k = true ↔ c.tokens.length = k + 1 ∨ c.isCancelled k = true := by
  rw [isCancelled, isCancelled, h, List.getElem?_set]
  split
  · simp only [Nat.sub_lt hpos Nat.one_pos, if_true, Option.getD_some, true_iff]
    exact .inl (by omega)
  · have hk : c.tokens.length ≠ k + 1 := by omega
    simp [hk]

theorem recounts_initial : Recounts [] initial where
  minted := rfl
  cancelled k := by simp [isCancelled, initial]
  stands h := by simp [initial] at h

/-- A moment in which nothing begins and nothing is cancelled leaves the tokens as they are. -/
theorem Recounts.keeps {h : List Moment} {c : Control} {m : Moment} (hr : Recounts h c)
    (ht : m.after.tokens = c.tokens) (hb : m.begun? = none) (hc : ¬ m.Cancels)
    (hs : m.after.state = .running ∨ m.after.state = .paused →
      ∃ run, m.after.progress.executionId = some run ∧
        StandsAt (h ++ [m]) run m.after.progress.currentStep) :
    Recounts (h ++ [m]) m.after where
  minted := by simp [ht, hr.minted, begins_concat, hb]
  cancelled k := by
    rw [exists_prefix_concat, isCancelled, ht, ← isCancelled, hr.cancelled]
    simp [hc]
  stands := hs

theorem standsAt_concat {h : List Moment} {m : Moment} {run : RunId} {index : Nat}
    (hs : StandsAt h run index) (hb : m.begun? = none) (hm : m.step? = none) :
    StandsAt (h ++ [m]) run index := by
  simpa [StandsAt, List.filterMap_append, List.filterMap_cons, hb, hm] using hs

/-- One more operation leaves the control as the history tells. -/
theorem recounts_of_effect {h : List Moment} {c : Control} {m : Moment} (hr : Recounts h c)
    (hm : Effect c m) : Recounts (h ++ [m]) m.after := by
  cases hm with
  | @begins identity totalSteps env hs =>
    refine ⟨by simp [hr.minted, begins_concat, Moment.begun?], fun k => ?_, fun _ => ?_⟩
    · rw [exists_prefix_concat, ← hr.cancelled, isCancelled_mint rfl]
      simp [Moment.Cancels]
    · simp [StandsAt, List.filterMap_append, Moment.begun?, Moment.step?]
  | pauses hs =>
    refine hr.keeps rfl rfl (by simp [Moment.Cancels]) fun _ => ?_
    obtain ⟨run, he, hst⟩ := hr.stands (.inl hs)
    exact ⟨run, he, standsAt_concat hst rfl rfl⟩
  | resumes hs =>
    refine hr.keeps rfl rfl (by simp [Moment.Cancels]) fun _ => ?_
    obtain ⟨run, he, hst⟩ := hr.stands (.inr hs)
    exact ⟨run, he, standsAt_concat hst rfl rfl⟩
  | cancels hs =>
    -- A run goes on, so one has begun, and the latest token is its own.
    obtain ⟨run, -, hst, -⟩ := hr.stands hs
    have hpos : 0 < c.tokens.length := by
      rw [hr.minted, begins, List.length_pos_iff]
      intro hnil
      simp [hnil] at hst
    refine ⟨by simp [hr.minted, begins_concat, Moment.begun?], fun k => ?_, fun ha => by simp at ha⟩
    rw [exists_prefix_concat, ← hr.cancelled, isCancelled_cancel hpos rfl, hr.minted]
    simp [Moment.Cancels, hs]
  | @ends outcome hs =>
    refine hr.keeps rfl rfl (by simp [Moment.Cancels]) fun ha => ?_
    rcases ha with ha | ha
    · exact absurd ha (RunState.ne_of_isTerminal outcome.2 rfl)
    · exact absurd ha (RunState.ne_of_isTerminal outcome.2 rfl)
  | @recordsProgress index env =>
    refine hr.keeps rfl rfl (by simp [Moment.Cancels]) fun ha => ?_
    obtain ⟨run, he, hst⟩ := hr.stands ha
    refine ⟨run, he, ?_⟩
    simpa [StandsAt, List.filterMap_append, List.filterMap_cons, Moment.begun?, Moment.step?,
      recordProgress] using hst.1
  | recordsEnvironment =>
    refine hr.keeps rfl rfl (by simp [Moment.Cancels]) fun ha => ?_
    obtain ⟨run, he, hst⟩ := hr.stands ha
    exact ⟨run, he, standsAt_concat hst rfl rfl⟩
  | @idles op answer hm hrec ha _ =>
    have hb : (Moment.mk c op answer none c).begun? = none ∧
        (Moment.mk c op answer none c).step? = none := by
      cases op with
      | begin identity totalSteps env =>
        obtain ⟨why, rfl⟩ := ha.mp ⟨trivial, fun h => by simp at h⟩
        exact ⟨rfl, rfl⟩
      | recordProgress => exact absurd trivial hrec
      | _ => exact ⟨rfl, rfl⟩
    refine hr.keeps rfl hb.1 ?_ fun hs => ?_
    · rintro ⟨rfl, hs⟩
      exact hm .cancelled ⟨hs, rfl⟩
    · obtain ⟨run, he, hst⟩ := hr.stands hs
      exact ⟨run, he, standsAt_concat hst hb.1 hb.2⟩

/-- By induction on the operations, with the history before them kept apart. -/
theorem recounts_history {h : List Moment} {c : Control} (hr : Recounts h c)
    (ops : List Operation) : Recounts (h ++ c.history ops) (c.afterAll ops) := by
  induction ops generalizing h c with
  | nil => simpa [history] using hr
  | cons op ops ih =>
    simpa [history] using ih (recounts_of_effect hr (effect_moment c op))

/-- Every moment of a history comes upon a control that is as the history tells until then. -/
theorem exists_of_prefix {ops : List Operation} {earlier since : List Moment} {m : Moment}
    (h : earlier ++ [m] ++ since <+: initial.history ops) :
    ∃ c, Recounts earlier c ∧ Effect c m ∧ ∃ ops', since = m.after.history ops' := by
  obtain ⟨later, hl⟩ := h
  rw [List.append_assoc, List.append_assoc] at hl
  obtain ⟨ops₁, ops₂, rfl, hl⟩ := exists_of_append_eq_history hl.symm
  cases ops₂ with
  | nil => exact nomatch hl
  | cons op ops₂ =>
    rw [history, List.singleton_append, List.cons.injEq] at hl
    obtain ⟨rfl, hsince⟩ := hl
    obtain ⟨ops₃, _, hs, -⟩ := exists_of_append_eq_history hsince.symm
    exact ⟨_, recounts_history recounts_initial ops₁, effect_moment _ op, ops₃, hs⟩

theorem effect_of_mem {c : Control} {ops : List Operation} {m : Moment}
    (hm : m ∈ c.history ops) : ∃ c', Effect c' m := by
  induction ops generalizing c with
  | nil => exact nomatch hm
  | cons op ops ih =>
    rcases List.mem_cons.mp hm with rfl | hm
    · exact ⟨c, effect_moment c op⟩
    · exact ih hm

/-! ### Tokens and events -/

theorem token_of_effect {h : List Moment} {c : Control} {m : Moment} {t : Token}
    (hr : Recounts h c) (hm : Effect c m) (ha : m.answer = .begun t) : t = begins h := by
  cases hm with
  | begins => rw [← hr.minted]; exact (Answer.begun.inj ha).symm
  | idles _ _ _ hb => exact absurd ha (hb t)
  | _ => exact nomatch ha

theorem toldRightly_of_effect {h : List Moment} {c : Control} {m : Moment}
    (hr : Recounts h c) (hm : Effect c m) : ToldRightly h m := by
  cases hm with
  | pauses hs =>
    obtain ⟨run, he, hst⟩ := hr.stands (.inl hs)
    exact ⟨run, _, hst, by simp [position, he]⟩
  | resumes hs =>
    obtain ⟨run, he, hst⟩ := hr.stands (.inr hs)
    exact ⟨run, _, hst, by simp [position, he]⟩
  | @idles op answer _ _ ha _ =>
    cases op with
    | pause => obtain ⟨why, rfl⟩ := ha.mp ⟨trivial, nofun⟩; rfl
    | resume => obtain ⟨why, rfl⟩ := ha.mp ⟨trivial, nofun⟩; rfl
    | _ => rfl
  | _ => rfl

/-- The event that is due at place `n`: while a run is running that of a pause, while it is paused
that of its end. -/
def Due (c : Control) (n : Nat) : Prop :=
  (c.state = .running → n % 2 = 0) ∧ (c.state = .paused → n % 2 = 1)

theorem alternate_cons {n : Nat} {e : Event} {es : List Event}
    (he : e.kindName = if n % 2 = 0 then "paused" else "resumed") (hes : Alternate (n + 1) es) :
    Alternate n (e :: es) := by
  intro i e' hi
  cases i with
  | zero => cases hi; exact he
  | succ i =>
    rw [show n + (i + 1) = n + 1 + i by omega]
    exact hes i e' hi

theorem due_of_effect {c : Control} {m : Moment} {n : Nat} (hm : Effect c m)
    (hb : m.begun? = none) (hn : c.Due n) :
    (m.event? = none ∧ m.after.Due n) ∨ ∃ e, m.event? = some e ∧
      e.kindName = (if n % 2 = 0 then "paused" else "resumed") ∧ m.after.Due (n + 1) := by
  cases hm with
  | begins => exact nomatch hb
  | pauses hs =>
    have h0 := hn.1 hs
    exact .inr ⟨_, rfl, by simp [h0, Event.kindName], by simp [Due]; omega⟩
  | resumes hs =>
    have h1 := hn.2 hs
    exact .inr ⟨_, rfl, by simp [h1, Event.kindName], by simp [Due]; omega⟩
  | cancels => exact .inl ⟨rfl, by simp [Due]⟩
  | @ends outcome =>
    refine .inl ⟨rfl, ?_⟩
    obtain ⟨_ | _ | _, hout⟩ := outcome <;> simp [Due, RunState.isTerminal] at hout ⊢
  | recordsProgress => exact .inl ⟨rfl, hn⟩
  | recordsEnvironment => exact .inl ⟨rfl, hn⟩
  | idles => exact .inl ⟨rfl, hn⟩

theorem alternate_history {c : Control} {ops : List Operation} {n : Nat}
    (hb : ∀ m ∈ c.history ops, m.begun? = none) (hn : c.Due n) :
    Alternate n ((c.history ops).filterMap Moment.event?) := by
  induction ops generalizing c n with
  | nil => exact fun i e he => nomatch he
  | cons op ops ih =>
    have hbs := fun m hm => hb m (List.mem_cons_of_mem _ hm)
    obtain ⟨he, hd⟩ | ⟨e, he, hk, hd⟩ :=
      due_of_effect (effect_moment c op) (hb _ List.mem_cons_self) hn
    · rw [history, List.filterMap_cons_none he]
      exact ih hbs hd
    · rw [history, List.filterMap_cons_some he]
      exact alternate_cons hk (ih hbs hd)

theorem due_of_begun {c : Control} {m : Moment} (hm : Effect c m) (hb : m.begun?.isSome = true) :
    m.after.Due 0 := by
  cases hm with
  | begins => simp [Due]
  | @idles op answer _ _ _ ha =>
    cases op with
    | begin =>
      cases answer with
      | begun t => exact absurd rfl (ha t)
      | _ => exact nomatch hb
    | _ => exact nomatch hb
  | _ => exact nomatch hb

/-- The histories of a new engine are lawful. -/
theorem lawful (ops : List Operation) : Lawful (initial.history ops) (initial.afterAll ops) where
  moves m hm := (effect_of_mem hm).elim fun _ => moves_of_effect
  refuses m hm := (effect_of_mem hm).elim fun _ => refuses_of_effect
  leaves_idle m hm := (effect_of_mem hm).elim fun _ => leaves_idle_of_effect
  minted := (recounts_history recounts_initial ops).minted
  token earlier m h t ha := by
    rw [← List.append_nil (earlier ++ [m])] at h
    obtain ⟨c, hr, hm, -⟩ := exists_of_prefix h
    exact token_of_effect hr hm ha
  cancelled := (recounts_history recounts_initial ops).cancelled
  refused m hm := (effect_of_mem hm).elim fun _ => refused_of_effect
  told earlier m h := by
    rw [← List.append_nil (earlier ++ [m])] at h
    obtain ⟨c, hr, hm, -⟩ := exists_of_prefix h
    exact toldRightly_of_effect hr hm
  alternate earlier m since h hm hb := by
    obtain ⟨c, -, he, ops', rfl⟩ := exists_of_prefix h
    exact alternate_history hb (due_of_begun he hm)

end Control

end Workflow

import Workflow.Proofs.Course.Progress
import Workflow.Proofs.Course.Termination
import Workflow.Proofs.Story.Call
import Workflow.Proofs.Strand.Cursor

/-!
# The status of a run that is alone in flight

While a run is alone in flight, the engine shows at every moment the top-level step that the run is
at and the variables with which it has entered the step, or will: a step is shown from where it is
about to run until the next one is. The number of the step only grows and stays below the number of
steps. What is shown changes only where the call itself records it, between two top-level steps and
when the frame of the run has ended; from then on the variables with which it has ended are shown,
and the last step that it has reached.

## Main definitions

* `Workflow.Job.Recorded` — what is recorded shows where the strand of a call is.

## Main results

* `Workflow.Course.recorded_succ` — it shows that after every turn.
* `Workflow.Course.status_tracks_cursor` — the status of a run at every moment.
-/

namespace Workflow

variable {config : Config} {token : Token} {job : Job} {k k' : Nat} {env env' : Environment}
  {d : Deed} {p : Progress}

/-! ### What is recorded -/

/-- What is quiet records nothing. -/
theorem Progress.after_of_quiet (p : Progress) (h : d.Quiet) : p.after d.own = p :=
  p.after_eq_self (fun _ _ _ _ ha => h _ _ ha trivial) fun r a ha hr => h r a ha hr.isOfTrunk

/-- The step and the variables are recorded that a run has entered. -/
def Progress.Shows (p : Progress) (k : Nat) (env : Environment) : Prop :=
  p.currentStep = k ∧ p.environment = env.vars

theorem Deed.Enters.shows (h : d.Enters k env k' env') (hp : p.Shows k env) :
    (p.after d.own).Shows k' env' := by
  cases h with
  | stay hquiet => rwa [p.after_of_quiet hquiet]
  | first => exact ⟨rfl, rfl⟩
  | next => exact ⟨rfl, rfl⟩

theorem Deed.Enters.le (h : d.Enters k env k' env') : k ≤ k' := by
  cases h with
  | next => exact Nat.le_succ k
  | _ => exact Nat.le_refl k

/-- The frame of the run of a call has ended, and the last step that it has reached and its last
variables are recorded. -/
def Job.Closes (config : Config) (token : Token) (job : Job) (x : Strand RunEnd) (p : Progress) :
    Prop :=
  ∃ ended, job.Settles config token ended x ∧
    p.currentStep = ended.reached job.definition.steps.length ∧ p.environment = ended.env.vars

/-- What is recorded shows where the strand of a call is: the step that its run is at, with the
variables that it was entered with, or the last step and the last variables. -/
inductive Job.Recorded (config : Config) (token : Token) (job : Job) (x : Strand RunEnd)
    (p : Progress) : Prop
  | runs {env : Environment} (h : job.RunsAt config token x p.currentStep env)
      (henv : p.environment = env.vars)
  | closes (h : job.Closes config token x p)

section

variable {c c' : Control} {x y : Strand RunEnd} {e : RunEnd}

/-- When a run has closed nothing more is recorded. -/
theorem Job.Closes.turn (h : job.Closes config token x p) (t : Turn c x d c' y) :
    job.Closes config token y p ∧ p.after d.own = p := by
  obtain ⟨ended, h, hshown⟩ := h
  obtain ⟨hy, hfinish⟩ := h.turn t
  refine ⟨⟨ended, hy, hshown⟩, p.after_eq_self (fun _ _ _ _ ha => ?_) fun r a ha hr => ?_⟩
  · obtain ⟨_, hr⟩ := hfinish _ _ ha trivial
    exact nomatch hr
  · obtain ⟨_, rfl⟩ := hfinish r a ha hr.isOfTrunk
    exact hr

/-- What is recorded goes on to show where the strand of a call is after each of its turns. -/
theorem Job.Recorded.turn (h : job.Recorded config token x p) (t : Turn c x d c' y) :
    job.Recorded config token y (p.after d.own) ∧
      p.currentStep ≤ (p.after d.own).currentStep ∧ (p.after d.own).totalSteps = p.totalSteps := by
  cases h with
  | @runs env h henv =>
    rcases h.turn t with ⟨k', env', hy, henters⟩ | ⟨ended, hy, hreached, rfl⟩
    · obtain ⟨hstep, henv'⟩ := henters.shows ⟨rfl, henv⟩
      refine ⟨.runs (hstep ▸ hy) henv', hstep ▸ henters.le, ?_⟩
      cases henters with
      | stay hquiet => rw [p.after_of_quiet hquiet]
      | first => rfl
      | next => rfl
    · exact ⟨.closes ⟨ended, hy, hreached.symm, rfl⟩, Nat.le_refl _, rfl⟩
  | closes h =>
    obtain ⟨hy, hsame⟩ := h.turn t
    rw [hsame]
    exact ⟨.closes hy, Nat.le_refl _, rfl⟩

theorem Job.Recorded.lt (h : job.Recorded config token x p) (hne : job.definition.steps ≠ []) :
    p.currentStep < job.definition.steps.length := by
  cases h with
  | runs h henv => exact h.lt hne
  | closes h =>
    obtain ⟨ended, h, hstep, -⟩ := h
    exact hstep ▸ h.reached_lt hne

/-- A call that returns has closed its run, and returns what was recorded last. -/
theorem Job.Recorded.returns (h : job.Recorded config token x p) (he : x.ended? = some (.ok e)) :
    job.Closes config token x p ∧
      ∃ result, e.result? = some result ∧ result.environment = p.environment := by
  cases h with
  | runs h henv => exact absurd he (h.not_returned e)
  | closes h =>
    obtain ⟨ended, h, hshown⟩ := h
    obtain ⟨p, rfl⟩ := h.returns he
    exact ⟨⟨ended, h, hshown⟩, _, FrameEnd.verdict_result job.run ended p, hshown.2.symm⟩

end

namespace Course

variable {C : Course config} {i m n t : Nat} {identity : Identity} {total : Nat}
  {x : Strand RunEnd}

/-- A call that has just begun a run is to tell that it has started, and has recorded that it is
about to run the first step. -/
theorem exists_job (hb : C.Does i m (.begin identity total env) (.ok token)) :
    ∃ job : Job, job.beginning = .begin identity total env ∧
      C.strand? i (m + 1) = some (.line (job.toRun config token)) ∧
      job.Recorded config token (.line (job.toRun config token)) (C.recorded i (m + 1)) ∧
      (C.recorded i (m + 1)).totalSteps = total := by
  obtain ⟨-, x, -, hx, -⟩ := exists_stage_of_does hb
  obtain ⟨k, -, hfollows⟩ := follows hx
  obtain ⟨b, hbl, -, hbd⟩ := mem_turns_of_does hb (Nat.lt_succ_self m)
  obtain ⟨pre, rest, job, hl, -, hrest, s, hs, -⟩ :=
    exists_prepared hfollows ⟨b, hbl, _, _, _, _, hbd⟩
  cases rest with
  | nil => exact nomatch hs
  | cons s' rest =>
    obtain ⟨a, ha, hrest⟩ := follows_line_cons_ask hrest not_false
    have hmem : s' ∈ C.turns i (m + 1) := hl ▸ by simp
    have hdoes := (does_of_mem_turns hmem (congrArg Deed.answered? ha)).2
    have htime : s'.time = m := milestone_once hdoes hb rfl rfl
    cases (does_unique (htime ▸ hdoes) hb).2
    obtain ⟨d, hd, hda⟩ := hb
    -- nothing comes behind the turn in which the run has begun
    obtain rfl : rest = [] := by
      have hlast := turns_turn hd
      rw [← htime, turns_of_append hl, htime, hl, List.append_cancel_left_eq] at hlast
      exact (List.cons.inj hlast).2
    have hrecorded : C.recorded i (m + 1) = (C.recorded i m).after d.own := recorded_turn hd
    rw [(Deed.own_eq_answer_iff d).mpr hda] at hrecorded
    obtain rfl := eq_of_follows_nil hrest
    rw [hrecorded]
    exact ⟨job, rfl, hx, .runs .started rfl, rfl⟩

/-- After every turn of the call, what is recorded shows where the call is. -/
theorem recorded_succ (hx : C.strand? i n = some x)
    (hr : job.Recorded config token x (C.recorded i n)) :
    ∃ y, C.strand? i (n + 1) = some y ∧ job.Recorded config token y (C.recorded i (n + 1)) ∧
      (C.recorded i n).currentStep ≤ (C.recorded i (n + 1)).currentStep ∧
      (C.recorded i (n + 1)).totalSteps = (C.recorded i n).totalSteps := by
  rcases turn_or_idle hx with ⟨d, y, hd, hy, t⟩ | ⟨hidle, hkept⟩
  · rw [recorded_turn hd]
    exact ⟨y, hy, hr.turn t⟩
  · rw [recorded_idle hidle]
    exact ⟨x, hkept, hr, Nat.le_refl _, rfl⟩

/-- A run that has closed stays so. -/
theorem closes_succ (hx : C.strand? i n = some x)
    (h : job.Closes config token x (C.recorded i n)) :
    ∃ y, C.strand? i (n + 1) = some y ∧ job.Closes config token y (C.recorded i (n + 1)) := by
  rcases turn_or_idle hx with ⟨d, y, hd, hy, t⟩ | ⟨hidle, hkept⟩
  · obtain ⟨hcloses, hsame⟩ := h.turn t
    rw [recorded_turn hd, hsame]
    exact ⟨y, hy, hcloses⟩
  · rw [recorded_idle hidle]
    exact ⟨x, hkept, h⟩

theorem closes_of_le (hx : C.strand? i t = some x) (h : job.Closes config token x (C.recorded i t))
    (htn : t ≤ n) :
    ∃ y, C.strand? i n = some y ∧ job.Closes config token y (C.recorded i n) := by
  induction n, htn using Nat.le_induction with
  | base => exact ⟨x, hx, h⟩
  | succ n _ ih =>
    obtain ⟨y, hy, h⟩ := ih
    exact closes_succ hy h

/-- Only a run that settles ends. -/
theorem not_runsAt_of_finishes (hx : C.strand? i n = some x) (hf : C.Finishes i n) :
    ¬ job.RunsAt config token x k env := by
  intro h
  obtain ⟨o, p, d, hd, ha⟩ := hf
  obtain ⟨z, y, hz, hy, t⟩ := turn_of_happening hd
  cases hx.symm.trans hz
  have hown : d.own = .answer (.finish o) p := (Deed.own_eq_answer_iff d).mpr ha
  rcases h.turn t with ⟨_, _, -, henters⟩ | ⟨_, -, -, rfl⟩
  · cases henters with
    | stay hquiet => exact hquiet _ _ hown trivial
    | first => exact nomatch hown
    | next => exact nomatch hown
  · exact nomatch hown

/-- What is recorded changes only where the call records it on its own line. -/
theorem recorded_succ_of_not_records (hb : C.Begins i m) (hmn : m < n)
    (hrecords : ∀ r a, Request.Records r → C.happening n ≠ .turn i (.answer r a)) :
    C.recorded i (n + 1) = C.recorded i n := by
  by_cases hd : ∃ d, C.happening n = .turn i d
  · obtain ⟨d, hd⟩ := hd
    rw [recorded_turn hd]
    have hself {r : Request} {a : r.Answer} (hown : d.own = .answer r a) (hr : r.IsOfTrunk) :
        d = .answer r a := (d.eq_own_of_line (line_of_happening hd hown hr)).trans hown
    refine Progress.after_eq_self _ (fun identity total env token hown => ?_) fun r a hown hr => ?_
    · have hbegins : C.Begins i n := ⟨_, _, _, _, d, hd, (Deed.own_eq_answer_iff d).mp hown⟩
      exact absurd (begins_once hb hbegins) (Nat.ne_of_lt hmn)
    · exact absurd (hself hown hr.isOfTrunk ▸ hd) (hrecords r a hr)
  · exact recorded_idle (not_exists.mp hd)

/-- From its begin on, what the call of a run has recorded shows where it is, and the step only
grows. -/
theorem exists_recorded (hb : C.Does i m (.begin identity total env) (.ok token)) :
    ∃ job : Job, job.beginning = .begin identity total env ∧ ∀ n, m < n →
      ∃ x, C.strand? i n = some x ∧ job.Recorded config token x (C.recorded i n) ∧
        (C.recorded i n).totalSteps = total ∧
        ∀ t, m < t → t ≤ n → (C.recorded i t).currentStep ≤ (C.recorded i n).currentStep := by
  obtain ⟨job, hjob, hx, hr, htotal⟩ := exists_job hb
  refine ⟨job, hjob, fun n hmn => ?_⟩
  induction n, hmn using Nat.le_induction with
  | base =>
    refine ⟨_, hx, hr, htotal, fun t hmt htn => ?_⟩
    obtain rfl : t = m + 1 := by omega
    exact Nat.le_refl _
  | succ n _ ih =>
    obtain ⟨x, hx, hr, htotal, hgrows⟩ := ih
    obtain ⟨y, hy, hr, hstep, hsame⟩ := recorded_succ hx hr
    refine ⟨y, hy, hr, hsame.trans htotal, fun t hmt htn => ?_⟩
    rcases Nat.le_or_eq_of_le_succ htn with htn | rfl
    · exact (hgrows t hmt htn).trans hstep
    · exact Nat.le_refl _

/-- The engine shows at every moment where a run is that no other is in flight beside: the top-level
step that it is at with the variables before the step, or, when its frame has ended, the last step
reached and the last variables. The number of the step stays below the number of steps, if there are
any, and only grows, and what is shown changes only where the call records it on its own line. When
the run has ended the last variables are shown, and the call returns these. -/
theorem status_tracks_cursor (C : Course config) {i m : Nat} {identity : Identity} {total : Nat}
    {env : Environment} {token : Token}
    (hb : C.Does i m (.begin identity total env) (.ok token)) :
    ∃ job : Job, job.beginning = .begin identity total env ∧
      ∀ n, m < n → C.Alone i m n → ∃ x, C.strand? i n = some x ∧
        let s := (C.situation n).runs.snapshot
        let closes := job.Closes config token x (C.situation n).runs.progress
        ((∃ before, job.RunsAt config token x s.currentStep before ∧
          s.environment = before.vars) ∨ closes) ∧
        s.totalSteps = total ∧ (0 < total → s.currentStep < total) ∧
        (∀ t, m < t → t ≤ n → (C.situation t).runs.snapshot.currentStep ≤ s.currentStep) ∧
        (C.Alone i m (n + 1) → (∀ r a, Request.Records r → C.happening n ≠ .turn i (.answer r a)) →
          (C.situation (n + 1)).runs.snapshot.currentStep = s.currentStep ∧
          (C.situation (n + 1)).runs.snapshot.environment = s.environment) ∧
        (∀ t < n, C.Finishes i t → closes) ∧
        ∀ e, C.Returned i n e → closes ∧
          ∃ result, e.result? = some result ∧ result.environment = s.environment := by
  have hbegins : C.Begins i m := ⟨_, _, _, _, hb⟩
  obtain ⟨job, hjob, hrecorded⟩ := exists_recorded hb
  refine ⟨job, hjob, fun n hmn alone => ?_⟩
  obtain ⟨x, hx, hr, htotal, hgrows⟩ := hrecorded n hmn
  have hlength : job.definition.steps.length = total := by
    cases hjob
    rfl
  have hprogress (t : Nat) (hmt : m < t) (htn : t ≤ n) :
      (C.situation t).runs.progress = C.recorded i t :=
    progress_eq hbegins hmt fun u hu hut => alone u hu (hut.trans htn)
  have hn := hprogress n hmn (Nat.le_refl n)
  have hshown : (C.situation n).runs.snapshot.currentStep = (C.recorded i n).currentStep ∧
      (C.situation n).runs.snapshot.environment = (C.recorded i n).environment ∧
      (C.situation n).runs.snapshot.totalSteps = (C.recorded i n).totalSteps := by
    rw [← hn]
    exact ⟨rfl, rfl, rfl⟩
  obtain ⟨hstep, henv, hsteps⟩ := hshown
  refine ⟨x, hx, ?_⟩
  simp only [hstep, henv, hsteps, hn]
  refine ⟨?_, htotal, fun hpos => ?_, fun t hmt htn => ?_, fun alone' hrecords => ?_,
    fun t htn hf => ?_, fun e he => ?_⟩
  · cases hr with
    | runs h henv => exact .inl ⟨_, h, henv⟩
    | closes h => exact .inr h
  · rw [← hlength] at hpos ⊢
    exact hr.lt (List.ne_nil_of_length_pos hpos)
  · rw [Control.snapshot, hprogress t hmt htn]
    exact hgrows t hmt htn
  · have hsame := recorded_succ_of_not_records hbegins hmn hrecords
    rw [Control.snapshot, progress_eq hbegins (Nat.lt_succ_of_lt hmn) alone', hsame]
    exact ⟨rfl, rfl⟩
  · obtain ⟨z, hz, hr, -⟩ := hrecorded t (begins_lt_of_finishes hbegins hf)
    cases hr with
    | runs h henv => exact absurd h (not_runsAt_of_finishes hz hf)
    | closes h =>
      obtain ⟨y, hy, hcloses⟩ := closes_of_le hz h (Nat.le_of_lt htn)
      cases hx.symm.trans hy
      exact hcloses
  · obtain ⟨z, hz, hended⟩ := he
    cases hx.symm.trans hz
    exact hr.returns hended

/-- A run that nothing happens beside has ended at its only step, and the engine shows so. -/
theorem status_tracks_cursor_plainly : ∃ C : Course .default, ∃ identity total env job x,
    C.Does 0 2 (.begin identity total env) (.ok 0) ∧ C.Alone 0 2 13 ∧
    C.strand? 0 13 = some x ∧ Job.Closes .default 0 job x (C.situation 13).runs.progress := by
  obtain ⟨C, h⟩ := exists_goesPlainly
  obtain ⟨identity, total, env, hb⟩ := h.begins
  obtain ⟨job, -, hshows⟩ := status_tracks_cursor C hb
  have alone : C.Alone 0 2 13 := fun t _ _ j => h.alone t j
  obtain ⟨x, hx, -, -, -, -, -, hfinished, -⟩ := hshows 13 (by decide) alone
  exact ⟨C, identity, total, env, job, x, hb, alone, hx, hfinished 11 (by decide)
    ⟨_, _, h.finishes⟩⟩

end Course

end Workflow

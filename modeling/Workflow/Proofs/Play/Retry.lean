import Mathlib.Data.ENat.Lattice
import Workflow.Proofs.Contract.Step
import Workflow.Proofs.Play.Flow

/-!
# How often a step is attempted

In a world, a step could be attempted again and again, each time from where the failure before has
left things; its trials are all these attempts. A step without cancellation makes the leading trials
that fail and the first one that succeeds, but after the first trial no more than its schedule
allows. It comes to what the last of them comes to, and between two of them it tells which retry
comes next and why, and lets the delay pass.

## Main definitions

* `Workflow.Step.retries` — how often a step is tried again.
* `Workflow.Trials`, `Workflow.Trials.failures` — attempts without end, and how many fail first.
* `Workflow.Step.trials` — the trials of a step.

## Main results

* `Workflow.play_attemptsFrom` — attempts end with the trial that succeeds or is the last allowed.
* `Workflow.play_runStep` — how often a step is attempted, what it tells and what it comes to.
-/

namespace Workflow

open Exec

/-- How often a step is tried again and after which delay; without a policy that is enabled it is
not tried again. -/
def Step.retries (step : Step) (config : Config) : RetrySchedule :=
  (RetrySchedule.ofPolicy? step.info.retry config).getD ⟨0, 0⟩

/-- Attempts at a step in a world, each after the failure of the one before, without end. -/
structure Trials where
  world : World
  scope : Scope
  location : Location
  schedule : RetrySchedule
  attempt : Exec Value
  /-- The juncture before the first. -/
  first : Juncture

namespace Trials

variable (t : Trials)

/-- What is exchanged between a trial that has failed and the next: that the next retry follows, and
why, and the delay. -/
def retrying (j : Nat) : Except StepError Value → List Exchange
  | .ok _ => []
  | .error e =>
    [.answered (.publish (.retrying t.scope.identity.executionId t.location.forEvents
      (UInt32.ofNat (j + 1)) t.schedule.maxRetries t.schedule.delay e.message)) (),
     .answered (.sleep t.scope.token t.schedule.delay) true]

/-- The juncture before a trial, counted from zero. -/
def before : Nat → Juncture
  | 0 => t.first
  | j + 1 =>
    let (r, m) := t.attempt.play t.world (before j)
    { m with past := m.past ++ t.retrying j r }

/-- What a trial comes to. -/
def result (j : Nat) : Except StepError Value := (t.attempt.play t.world (t.before j)).1

/-- The juncture after a trial. -/
def after (j : Nat) : Juncture := (t.attempt.play t.world (t.before j)).2

/-- What is exchanged in a trial. -/
def exchanged (j : Nat) : List Exchange := (t.after j).since (t.before j)

theorem play_before (j : Nat) : t.attempt.play t.world (t.before j) = (t.result j, t.after j) := rfl

/-- What was exchanged before a trial is what was exchanged in all trials before it, and between
them. -/
theorem past_before (j : Nat) :
    (t.before j).past = t.first.past ++
      (List.range j).flatMap fun i => t.exchanged i ++ t.retrying i (t.result i) := by
  induction j with
  | zero => simp [before]
  | succ j ih =>
    have hafter : (t.after j).past = (t.before j).past ++ t.exchanged j :=
      past_play_append t.world (t.before j) t.attempt
    have hnext : (t.before (j + 1)).past = (t.after j).past ++ t.retrying j (t.result j) := rfl
    simp [hnext, hafter, ih, List.range_succ, List.flatMap_append]

open Classical in
/-- How many trials fail before the first that succeeds; without end if none does. -/
noncomputable def failures : ℕ∞ :=
  if h : ∃ j, (t.result j).isOk then (Nat.find h : ℕ∞) else ⊤

/-- The number of trials before the last that is made: all that fail first, if so many retries are
scheduled. -/
noncomputable def last : Nat := (min t.failures t.schedule.maxRetries.toNat).toNat

theorem coe_last : (t.last : ℕ∞) = min t.failures t.schedule.maxRetries.toNat :=
  ENat.natCast_toNat (ne_top_of_le_ne_top (ENat.natCast_ne_top _) (min_le_right _ _))

theorem last_le : t.last ≤ t.schedule.maxRetries.toNat := by
  have h : (t.last : ℕ∞) ≤ t.schedule.maxRetries.toNat := t.coe_last ▸ min_le_right _ _
  exact_mod_cast h

/-- Every trial before the first that succeeds fails. -/
theorem exists_error_of_lt_failures {j : Nat} (h : (j : ℕ∞) < t.failures) :
    ∃ e, t.result j = .error e := by
  have hj : ¬ (t.result j).isOk := by
    intro hok
    have hex : ∃ i, (t.result i).isOk := ⟨j, hok⟩
    rw [failures, dif_pos hex, Nat.cast_lt] at h
    exact Nat.find_min hex h hok
  cases hr : t.result j with
  | ok v => exact absurd (by rw [hr]; rfl) hj
  | error e => exact ⟨e, rfl⟩

/-- If some trial is the first that succeeds, so many have failed before. -/
theorem isOk_of_failures_eq {j : Nat} (h : t.failures = j) : (t.result j).isOk := by
  unfold failures at h
  split at h
  · next hex => exact Nat.cast_inj.mp h ▸ Nat.find_spec hex
  · exact absurd h.symm (ENat.natCast_ne_top j)

theorem failures_eq {j : Nat} (hfail : ∀ i < j, ¬ (t.result i).isOk) (hok : (t.result j).isOk) :
    t.failures = j := by
  classical
  have hex : ∃ i, (t.result i).isOk := ⟨j, hok⟩
  rw [failures, dif_pos hex, Nat.cast_inj, Nat.find_eq_iff]
  exact ⟨hok, hfail⟩

theorem exists_error_of_lt_last {j : Nat} (h : j < t.last) : ∃ e, t.result j = .error e := by
  refine t.exists_error_of_lt_failures (lt_of_lt_of_le (Nat.cast_lt.mpr h) ?_)
  exact t.coe_last ▸ min_le_left _ _

/-- The last trial that is made succeeds just if no more trials fail than are tried again. -/
theorem isOk_last_iff : (t.result t.last).isOk ↔ t.failures ≤ t.schedule.maxRetries.toNat := by
  have hlast := t.coe_last
  rcases le_or_gt t.failures t.schedule.maxRetries.toNat with h | h
  · rw [min_eq_left h] at hlast
    exact iff_of_true (t.isOk_of_failures_eq hlast.symm) h
  · refine iff_of_false ?_ (not_le.mpr h)
    rw [min_eq_right h.le] at hlast
    obtain ⟨e, he⟩ := t.exists_error_of_lt_failures (hlast ▸ h)
    simp [he, Except.isOk, Except.toBool]

/-- If more retries are scheduled, the last trial that is made has succeeded. -/
theorem isOk_last_of_lt (h : t.last < t.schedule.maxRetries.toNat) :
    (t.result t.last).isOk := by
  refine t.isOk_last_iff.mpr (le_of_not_gt fun hgt => ?_)
  have hlast := t.coe_last
  rw [min_eq_right hgt.le, Nat.cast_inj] at hlast
  omega

end Trials

/-! ### Attempts -/

/-- Attempts from one on end with the trial that succeeds or is the last allowed. -/
theorem play_attemptsFrom {t : Trials} (hw : t.world.Uncancelled)
    (hattempt : ∀ j, t.result j ≠ .error .cancelled) (remaining done : Nat)
    (hmax : done + remaining = t.schedule.maxRetries.toNat) (hdone : done ≤ t.last) :
    (attemptsFrom t.scope t.location t.schedule t.attempt remaining done).play t.world
      (t.before done) = (t.result t.last, t.after t.last) := by
  induction remaining generalizing done with
  | zero =>
    obtain rfl : done = t.last := by
      have := t.last_le
      omega
    exact t.play_before t.last
  | succ remaining ih =>
    rw [attemptsFrom, play_observe_bind, t.play_before]
    rcases Nat.lt_or_eq_of_le hdone with hlt | rfl
    · obtain ⟨e, he⟩ := t.exists_error_of_lt_last hlt
      have hretry : e.isRetryable = true := by
        cases e with
        | cancelled => exact absurd he (hattempt done)
        | _ => rfl
      have hallows : t.schedule.allows done e = true := by
        have := t.last_le
        simp only [RetrySchedule.allows, hretry, Bool.true_and, decide_eq_true_eq]
        omega
      have hnext : ((t.after done).ask t.world (.publish (.retrying t.scope.identity.executionId
          t.location.forEvents (UInt32.ofNat (done + 1)) t.schedule.maxRetries t.schedule.delay
          e.message))).ask t.world (.sleep t.scope.token t.schedule.delay) =
            t.before (done + 1) := by
        have hslept := answer_sleep hw
        have hplay := t.play_before done
        rw [he] at hplay
        simp [Trials.before, hplay, Trials.retrying, Juncture.ask, hslept]
      simp only [he, hallows, if_true, play_publish_bind]
      rw [play_sleep_bind _ hw, hnext]
      exact ih (done + 1) (by omega) hlt
    · have hok := t.isOk_last_of_lt (by omega)
      cases hr : t.result t.last with
      | ok v => rfl
      | error e => exact absurd hok (by simp [hr, Except.isOk, Except.toBool])

theorem attempts_eq (scope : Scope) (location : Location) (schedule : Option RetrySchedule)
    (attempt : Exec Value) :
    attempts scope location schedule attempt =
      attemptsFrom scope location (schedule.getD ⟨0, 0⟩) attempt
        (schedule.getD ⟨0, 0⟩).maxRetries.toNat 0 := by
  cases schedule <;> rfl

namespace Step

variable (step : Step) (config : Config) (scope : Scope) (location : Location)

/-- One attempt at a step: it is marked, and the step does what it does. -/
def attempt (depths : Nat) : Exec Value := do
  request (.attempt ⟨step, scope, location, ← get⟩)
  dispatch config (runnerWithin config depths) scope location step

/-- The juncture before the first attempt at a step: it has passed its boundary, the identity of the
run is in the variables, and it was told that the step starts. -/
def opened (w : World) (m : Juncture) : Juncture :=
  ((m.ask w .boundary).write fun env => env.stamp scope.identity).ask w
    (.publish (.stepStarted scope.identity.executionId location.forEvents step.label step.kindName))

/-- The trials of a step, with some depths for sub-workflows below it. -/
def trials (w : World) (depths : Nat) (m : Juncture) : Trials where
  world := w
  scope := scope
  location := location
  schedule := step.retries config
  attempt := step.attempt config scope location depths
  first := step.opened scope location w m

variable {step config scope location} {w : World} {depths : Nat} {m : Juncture}

theorem result_trials_ne_cancelled (hw : w.Uncancelled) (j : Nat) :
    (step.trials config scope location w depths m).result j ≠ .error .cancelled := by
  have hkeeps : Abides (.frame scope.token (scope.depth + depths) False)
      (step.attempt config scope location depths) := by
    refine abides_get_bind fun env => abides_bind (abides_request (Nat.le_add_right ..)) fun _ => ?_
    exact abides_dispatch (Nat.le_add_right ..) (runnerAbides_within le_rfl) location step
  exact hkeeps.play_ne_cancelled _ hw

theorem play_conclude {r : Except StepError Value} (hr : r ≠ .error .cancelled) (m : Juncture) :
    (step.conclude scope location r).play w m =
      (r, (m.write fun env => step.kept env r).ask w
        (.publish (step.closing scope location r))) := by
  rw [play, run_conclude _ _ _ hr]
  rfl

/-- A step that passes its boundary is concluded with what its attempts come to. -/
theorem play_runStep_eq_conclude (hpass : w.answer m.past .boundary = true) :
    let q := (attempts scope location (RetrySchedule.ofPolicy? step.info.retry config)
      (step.attempt config scope location depths)).play w (step.opened scope location w m)
    (runStep config (runnerWithin config depths) step scope location).play w m =
      (step.conclude scope location q.1).play w q.2 := by
  intro q
  rw [runStep, enter_eq, play_boundary_bind _ hpass, play_modify_bind, play_publish_bind]
  exact play_observe_bind w (step.opened scope location w m) _ _

/-- A step ends with the last trial that is made: its value is stored, and it tells how it ended. -/
theorem play_runStep_eq (hw : w.Uncancelled) :
    let t := step.trials config scope location w depths m
    (runStep config (runnerWithin config depths) step scope location).play w m =
      (t.result t.last, ((t.after t.last).write fun env => step.kept env (t.result t.last)).ask w
        (.publish (step.closing scope location (t.result t.last)))) := by
  intro t
  have hattempts : (attempts scope location (RetrySchedule.ofPolicy? step.info.retry config)
      (step.attempt config scope location depths)).play w (step.opened scope location w m) =
        (t.result t.last, t.after t.last) := by
    rw [attempts_eq]
    exact play_attemptsFrom hw (result_trials_ne_cancelled hw) _ 0 (Nat.zero_add _) (Nat.zero_le _)
  rw [play_runStep_eq_conclude (answer_boundary hw m.past), hattempts,
    play_conclude (result_trials_ne_cancelled hw t.last)]

end Step

/-- In a world without cancellation, a step makes as many trials as fail first and one more, but
after the first no more than its schedule allows. Each of them attempts the step once. The step
comes to what the last of them comes to, which is a value just if no more fail than are tried again;
only a value is stored. Between two trials it tells the number of the retry, how many there may be
and the text of the failure just before, and lets the delay pass; the numbers fit into 32 bits. -/
theorem play_runStep {w : World} (hw : w.Uncancelled) (config : Config) (depths : Nat) (step : Step)
    (scope : Scope) (location : Location) (m : Juncture) :
    let t := step.trials config scope location w depths m
    let allowed := (step.retries config).maxRetries
    let p := (runStep config (runnerWithin config depths) step scope location).play w m
    (t.last : ℕ∞) = min t.failures allowed.toNat ∧
    (∀ j, (t.result j, t.after j) =
      (dispatch config (runnerWithin config depths) scope location step).play w
        ((t.before j).ask w (.attempt ⟨step, scope, location, (t.before j).env⟩))) ∧
    p.1 = t.result t.last ∧
    (p.1.isOk ↔ t.failures ≤ allowed.toNat) ∧
    p.2.env = step.kept (t.after t.last).env p.1 ∧
    p.2.past = (step.opened scope location w m).past ++
      ((List.range t.last).flatMap fun j => t.exchanged j ++ t.retrying j (t.result j)) ++
      t.exchanged t.last ++ [.answered (.publish (step.closing scope location p.1)) ()] ∧
    ∀ j < t.last, (UInt32.ofNat (j + 1)).toNat = j + 1 ∧ ∃ e, t.result j = .error e ∧
      t.retrying j (t.result j) =
        [.answered (.publish (.retrying scope.identity.executionId location.forEvents
          (UInt32.ofNat (j + 1)) allowed (step.retries config).delay e.message)) (),
         .answered (.sleep scope.token (step.retries config).delay) true] := by
  intro t allowed p
  have hp : p = _ := Step.play_runStep_eq hw
  have hresult : p.1 = t.result t.last := by rw [hp]
  have hafter : (t.after t.last).past = (t.before t.last).past ++ t.exchanged t.last :=
    past_play_append w (t.before t.last) t.attempt
  refine ⟨t.coe_last, fun j => rfl, hresult, hresult ▸ t.isOk_last_iff, ?_, ?_, fun j hj => ?_⟩
  · rw [hresult, hp]
    rfl
  · rw [hresult, hp, Juncture.ask_past, Juncture.write_past, hafter, t.past_before]
    rfl
  · obtain ⟨e, he⟩ := t.exists_error_of_lt_last hj
    have hlast : t.last ≤ allowed.toNat := t.last_le
    have hallowed := allowed.toNat_lt
    refine ⟨UInt32.toNat_ofNat_of_lt' (by simp only [UInt32.size]; omega), e, he, ?_⟩
    rw [he]
    rfl

/-- An action that may be tried three times more. -/
private def stubborn : Step :=
  .action { Step.plain with retry := some ⟨true, some 3, some 0⟩ } .null

/-- A host that refuses actions until two were refused. -/
private def flaky : World := .granting fun past _ =>
  if past.countP (fun | .answered (.perform _) _ => true | _ => false) < 2 then
    .error (.failed "busy")
  else .ok .null

private def flakyScope : Scope := ⟨⟨"flaky", .ofNat 0, none⟩, .stop, 0, 0⟩

/-- The action fails twice and is performed at the third trial. -/
theorem play_runStep_flaky :
    flaky.Uncancelled ∧
    ((runStep .default none stubborn flakyScope (.top 0)).play flaky ⟨.empty, []⟩).1.isOk ∧
    (stubborn.trials .default flakyScope (.top 0) flaky 0 ⟨.empty, []⟩).last = 2 := by
  have hw : flaky.Uncancelled := World.uncancelled_granting _
  let t := stubborn.trials .default flakyScope (.top 0) flaky 0 ⟨.empty, []⟩
  have hfailures : t.failures = (2 : Nat) := by
    refine t.failures_eq (fun i hi => ?_) (by decide +kernel)
    obtain rfl | rfl : i = 0 ∨ i = 1 := by omega
    all_goals decide +kernel
  have hallowed : (stubborn.retries .default).maxRetries.toNat = 3 := rfl
  have hle : t.failures ≤ (3 : Nat) := hfailures ▸ Nat.cast_le.mpr (by decide)
  obtain ⟨hlast, -, -, hok, -⟩ :=
    play_runStep hw .default 0 stubborn flakyScope (.top 0) ⟨.empty, []⟩
  refine ⟨hw, hok.mpr (hallowed ▸ hle), ?_⟩
  rw [hallowed, min_eq_left hle, hfailures] at hlast
  exact Nat.cast_inj.mp hlast

end Workflow

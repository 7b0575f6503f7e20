import Workflow.Proofs.Course.Run
import Workflow.Proofs.Pact.Call
import Workflow.Proofs.Strand.Termination
import Mathlib.Tactic.IntervalCases

/-!
# Calls come to an end

Whatever the registry holds, and whatever a host, a script or the clock answers, a call takes
finitely many turns, those of its branches and of branches that nothing waits for any more included,
and attempts no step deeper than the limit of the configuration. If it is given its turns, no pause
is left pending, and the host returns from what it is asked, then the call returns.

## Main definitions

* `Workflow.Course.Fair` — a call that time and again can take a turn takes one.
* `Workflow.Course.NotLeftPaused`, `Workflow.Course.HostReturns`.

## Main results

* `Workflow.Course.comes_to_end` — calls take finitely many turns, within the depth limit, and
  return.
-/

namespace Workflow

/-! ### The depth of attempts -/

/-- What a call may do: attempts are made down to a depth. -/
def Contract.call (limit : Nat) : Contract where
  asks
    | .attempt a => a.scope.depth ≤ limit
    | _ => True
  joins _ := True
  cancels := True

theorem everyOf_allows_call {scope : Scope} {depths limit : Nat} (h : scope.depth + depths ≤ limit)
    (steps : List Step) : Step.EveryOf ((Contract.call limit).pact.Allows scope) steps :=
  Step.everyOf_of_forall (fun _ => ⟨fun _ _ => Nat.le_of_add_right_le h, fun _ h => nomatch h⟩)
    steps

/-- The pact of this contract attends to all calls, with as many depths below a frame as the limit
leaves. -/
theorem attends_call (config : Config) :
    (Contract.call config.maxDepth).pact.Attends config
      fun scope depths => scope.depth + depths ≤ config.maxDepth where
  suits _ _ _ :=
    { asks := fun r hr => by cases r <;> first | exact trivial | exact hr.elim
      tells := fun _ _ _ => trivial
      joins := trivial
      fails := fun _ _ _ => trivial
      cancelled := fun _ _ _ _ _ => trivial
      abandoned := fun _ _ => trivial }
  child scope depths child hscope _ hd := by omega
  allows scope depths _ definition hscope _ := everyOf_allows_call hscope definition.steps
  asks r hr := by cases r <;> first | exact trivial | exact hr.elim
  started _ _ _ := trivial
  tells _ _ _ := trivial
  top _ _ _ := by simp

/-- Whatever an engine is called for, attempts are made only down to the limit. -/
theorem keeps_errand (config : Config) (k : Errand) :
    (k.flow config).Keeps (.call config.maxDepth) fun _ => True := by
  rw [Flow.keeps_iff_honours]
  cases k with
  | execute id options => exact honours_execute (attends_call config) id options
  | executeDefinition definition options =>
    exact honours_executeDefinition (attends_call config) options
      fun _ _ hscope => everyOf_allows_call hscope definition.steps

/-! ### Calls on a course -/

namespace Course

variable {config : Config} {C : Course config} {i n : Nat}

/-- The call can take a turn. -/
def CanMove (C : Course config) (i n : Nat) : Prop :=
  ∃ x d c y, C.strand? i n = some x ∧ Turn (C.situation n).runs x d c y

/-- A call that can take a turn time and again takes one. -/
def Fair (C : Course config) (i : Nat) : Prop :=
  ∀ n, (∀ k, ∃ t ≥ k, C.CanMove i t) → ∃ t ≥ n, ∃ d, C.happening t = .turn i d

/-- Every pause is over at some time. -/
def NotLeftPaused (C : Course config) : Prop := ∀ n, ∃ t ≥ n, C.state t ≠ .paused

/-- The host returns from what the call asks of it; in branches it may crash. -/
def HostReturns (C : Course config) (i : Nat) : Prop :=
  ∀ n report, C.happening n ≠ .turn i (.crash report)

/-- A call takes finitely many turns; from some time on it stays as it is. -/
theorem exists_last_turn {x : Strand RunEnd} (h : C.strand? i n = some x) :
    ∃ N ≥ n, ∃ z, ∀ t ≥ N, C.strand? i t = some z ∧ ∀ d, C.happening t ≠ .turn i d := by
  obtain ⟨z, ⟨N, hN, hz⟩, hmin⟩ := Strand.wellFounded_next.has_min
    {z | ∃ N ≥ n, C.strand? i N = some z} ⟨x, n, Nat.le_refl n, h⟩
  have hidle : ∀ t ≥ N, C.strand? i t = some z →
      (∀ d, C.happening t ≠ .turn i d) ∧ C.strand? i (t + 1) = some z := by
    intro t ht hx
    rcases turn_or_idle hx with ⟨d, y, -, hy, u⟩ | hidle
    · exact absurd ⟨_, _, _, u⟩ (hmin y ⟨t + 1, by omega, hy⟩)
    · exact hidle
  have hstay : ∀ t ≥ N, C.strand? i t = some z := by
    intro t ht
    induction t, ht using Nat.le_induction with
    | base => exact hz
    | succ t ht ih => exact (hidle t ht ih).2
  exact ⟨N, hN, z, fun t ht => ⟨hstay t ht, (hidle t ht (hstay t ht)).1⟩⟩

/-- A call that is given its turns ends. -/
theorem exists_ended {x : Strand RunEnd} (h : C.strand? i n = some x) (hf : C.Fair i)
    (hp : C.NotLeftPaused) : ∃ N ≥ n, ∃ z, C.strand? i N = some z ∧ z.ended? ≠ none := by
  obtain ⟨N, hN, z, hz⟩ := exists_last_turn h
  refine ⟨N, hN, z, (hz N (Nat.le_refl N)).1, fun hne => ?_⟩
  have hmove : ∀ k, ∃ t ≥ k, C.CanMove i t := by
    intro k
    obtain ⟨t, ht, hs⟩ := hp (max N k)
    obtain ⟨d, c, y, u⟩ := turn_of_not_ended hs z hne
    exact ⟨t, by omega, z, d, c, y, (hz t (by omega)).1, u⟩
  obtain ⟨t, ht, d, hd⟩ := hf N hmove
  exact (hz t ht).2 d hd

theorem not_crashed (hr : C.HostReturns i) {report : String} {x : Strand RunEnd}
    (h : C.strand? i n = some x) : x.ended? ≠ some (.error report) := by
  induction n generalizing x with
  | zero =>
    rw [strand?, C.start] at h
    cases h
  | succ n ih =>
    intro he
    rcases calls_of_moves (C.moves n) h with ⟨hx, -⟩ | ⟨k, -, -, rfl⟩ | ⟨d, y, hd, hy, u⟩
    · exact ih hx he
    · exact line_ended?_ne_error _ _ he
    · rcases crash_of_turn u he with he | rfl
      · exact ih hy he
      · exact hr n report hd

/-- A call that is given its turns returns, if the host does. -/
theorem exists_returned {x : Strand RunEnd} (h : C.strand? i n = some x) (hf : C.Fair i)
    (hp : C.NotLeftPaused) (hr : C.HostReturns i) : ∃ N ≥ n, ∃ e, C.Returned i N e := by
  obtain ⟨N, hN, z, hz, he⟩ := exists_ended h hf hp
  obtain ⟨e | e, he⟩ := Option.ne_none_iff_exists'.mp he
  · exact absurd he (not_crashed hr hz)
  · exact ⟨N, hN, e, z, hz, he⟩

/-- A call that has returned stays so. -/
theorem Returned.add {e : RunEnd} (h : C.Returned i n e) : (k : Nat) → C.Returned i (n + k) e
  | 0 => h
  | k + 1 => by
    obtain ⟨x, hx, he⟩ := h.add k
    rcases turn_or_idle hx with ⟨d, y, -, hy, u⟩ | ⟨-, hkept⟩
    · exact ⟨y, hy, ended?_turn u he⟩
    · exact ⟨x, hkept, he⟩

theorem Returned.of_le {m : Nat} {e : RunEnd} (h : C.Returned i n e) (hnm : n ≤ m) :
    C.Returned i m e := Nat.add_sub_cancel' hnm ▸ h.add (m - n)

/-- No step is attempted deeper than the limit of the configuration. -/
theorem depth_le {a : Attempt} (h : C.Does i n (.attempt a) ()) :
    a.scope.depth ≤ config.maxDepth := by
  obtain ⟨s, hs, -, ha⟩ := mem_turns_of_does h (Nat.lt_succ_self n)
  obtain ⟨k, x, -, hk⟩ := exists_follows_of_does h (Nat.lt_succ_self n)
  exact (keeps_follows hk (fun _ _ => Contract.reckons_of_cancels trivial _)
    (keeps_errand config k)).2 s hs _ _ ha

/-- A call takes finitely many turns, together with all its branches, and attempts no step deeper
than the limit of the configuration. If it is given its turns, no pause is left pending and the host
returns, then it returns. -/
theorem comes_to_end (C : Course config) (i : Nat) :
    (∃ N, ∀ t ≥ N, ∀ d, C.happening t ≠ .turn i d) ∧
    (∀ n a, C.Does i n (.attempt a) () → a.scope.depth ≤ config.maxDepth) ∧
    ((∃ n x, C.strand? i n = some x) → C.Fair i → C.NotLeftPaused → C.HostReturns i →
      ∃ n e, C.Returned i n e) := by
  refine ⟨?_, fun _ _ => depth_le, fun ⟨_, _, hx⟩ hf hp hr => ?_⟩
  · by_cases hx : ∃ n x, C.strand? i n = some x
    · obtain ⟨n, x, hx⟩ := hx
      obtain ⟨N, -, z, hz⟩ := exists_last_turn hx
      exact ⟨N, fun t ht => (hz t ht).2⟩
    · refine ⟨0, fun t _ d hd => hx ?_⟩
      obtain ⟨x, -, h, -⟩ := turn_of_moves (hd ▸ C.moves t)
      exact ⟨t, x, h⟩
  · obtain ⟨N, -, e, he⟩ := exists_returned hx hf hp hr
    exact ⟨N, e, he⟩

/-! ### A course on which a call returns -/

/-- A job of a single action. -/
private def plainJob : Job := ⟨.named "job" [.ofAction .null], default, .ofNat 0⟩

/-- The job is carried on to its end. -/
private def plainly : List Happening :=
  let job := plainJob
  let env := job.env.stamp job.identity
  let does (r : Request) (a : r.Answer) := Happening.turn 0 (.answer r a)
  [.call (.executeDefinition job.definition default), does .freshId job.run,
    does job.beginning (.ok 0 : Except ControlError Token), does (.publish job.started) (),
    does (.recordProgress 0 job.env) (), does .boundary true,
    does (.publish (.stepStarted job.run (Location.top 0).forEvents "action" "action")) (),
    does (.attempt ⟨.ofAction .null, ⟨job.identity, .stop, 0, 0⟩, .top 0, env⟩) (),
    does (.perform ⟨Template.resolveDeep env .null, none, job.run, .top 0⟩)
      (.ok .null : Except ActionError Value),
    does (.publish (.stepCompleted job.run (Location.top 0).forEvents "action" .null 0)) (),
    does (.recordEnvironment env) (), does (.finish .completed) (.completed, 0),
    does (.publish (.completed job.run 0 0 1 [StepRecord.toValue ⟨0, "action", .ok .null⟩])) ()]

private theorem stretch_plainly : ∃ s e, Stretch .default .initial plainly s ∧
    s.runs.state = .completed ∧ s.calls[0]? = some (.line (.done e)) :=
  ⟨_, _, .cons (.call _ _) <| .cons (.turn rfl (.answer rfl)) <|
    .cons (.turn rfl (.answer ⟨rfl, rfl⟩)) <| .cons (.turn rfl (.answer rfl)) <|
    .cons (.turn rfl (.answer rfl)) <| .cons (.turn rfl (.answer ⟨rfl, rfl⟩)) <|
    .cons (.turn rfl (.answer rfl)) <| .cons (.turn rfl (.answer rfl)) <|
    .cons (.turn rfl (.answer rfl)) <| .cons (.turn rfl (.answer rfl)) <|
    .cons (.turn rfl (.answer rfl)) <| .cons (.turn rfl (.answer ⟨rfl, rfl⟩)) <|
    .cons (.turn rfl (.answer rfl)) <| .nil _, rfl, rfl⟩

/-- A run is begun, carried on and ended by a call that returns, and nothing else happens. -/
structure GoesPlainly (C : Course .default) : Prop where
  fair : C.Fair 0
  notLeftPaused : C.NotLeftPaused
  hostReturns : C.HostReturns 0
  freshIds : C.FreshIds
  begins : ∃ identity total env, C.Does 0 2 (.begin identity total env) (.ok 0)
  finishes : C.Does 0 11 (.finish .completed) (.completed, 0)
  alone : ∀ n j, C.InFlight j n → j = 0
  returns : ∃ e, C.Returned 0 13 e

theorem exists_goesPlainly : ∃ C : Course .default, C.GoesPlainly := by
  obtain ⟨s, e, p, hs, he⟩ := stretch_plainly
  obtain ⟨C, hC, hrest⟩ := exists_resting_course p
  have hend : ∀ t ≥ 13, C.situation t = s := fun t ht => (hrest t ht).2
  have hturn {t i d} (hd : C.happening t = .turn i d) : t < 13 := lt_of_happening hrest hd nofun
  have hmove : ∀ t ≥ 13, ¬ C.CanMove 0 t := by
    rintro t ht ⟨x, d, c, y, hx, u⟩
    rw [strand?, hend t ht, he] at hx
    cases hx
    cases u
  refine ⟨C, ?_, ?_, ?_, freshIds_of_forall (i := 0) (n := 1) ?_, ⟨_, _, _, _, hC 2, rfl⟩,
    ⟨_, hC 11, rfl⟩, ?_,
    e, .line (.done e), ?_, rfl⟩
  · intro n h
    obtain ⟨t, ht, hm⟩ := h 13
    exact absurd hm (hmove t ht)
  · intro n
    refine ⟨max n 13, by omega, ?_⟩
    rw [state, hend _ (by omega), hs]
    decide
  · intro n report hd
    have hn := hturn hd
    rw [hC] at hd
    interval_cases n <;> cases hd
  · rintro i m run ⟨d, hd, ha⟩
    have hm := hturn hd
    rw [hC] at hd
    interval_cases m <;> cases hd <;> cases ha
    exact ⟨rfl, rfl⟩
  · rintro n j ⟨m, -, ⟨_, _, _, _, d, hd, -⟩, -⟩
    have hm := hturn hd
    rw [hC] at hd
    interval_cases m <;> cases hd <;> rfl
  · rw [strand?, hend 13 (Nat.le_refl 13)]
    exact he

/-- The conditions under which a call returns can be met. -/
theorem comes_to_end_plainly : ∃ C : Course .default, ∃ n e, C.Returned 0 n e := by
  obtain ⟨C, h⟩ := exists_goesPlainly
  obtain ⟨_, _, _, hb⟩ := h.begins
  obtain ⟨-, x, -, hx, -⟩ := exists_stage_of_does hb
  exact ⟨C, (comes_to_end C 0).2.2 ⟨3, x, hx⟩ h.fair h.notLeftPaused h.hostReturns⟩

end Course

end Workflow

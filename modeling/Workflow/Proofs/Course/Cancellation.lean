import Workflow.Proofs.Course.Settlement

/-!
# Cancelled runs

Every step boundary looks at the one state of the engine. So a cancelled run passes no boundary and
returns as cancelled as long as the state stays at cancelled; but another run that begins before the
cancelled one has ended turns the state to running, for every strand of the cancelled run as well,
until the engine is cancelled again or a run ends as cancelled.

## Main definitions

* `Workflow.Course.CancelHits` — a cancellation reaches a run in flight.
* `Workflow.Course.Reopened` — the engine has turned from cancelled to something else.
* `Workflow.Course.CancelledForGood` — a run passes no boundary any more and returns as cancelled.

## Main results

* `Workflow.Course.cancelledForGood_iff` — a run that was cancelled is so for good just if nothing
  of it meets a boundary, and it does not ask to end otherwise, while the engine is reopened.
-/

namespace Workflow.Course

variable {config : Config} {C : Course config} {i m n : Nat}

/-- A request to cancel turns the engine from running or paused to cancelled while the run of the
call is in flight. -/
def CancelHits (C : Course config) (i m : Nat) : Prop :=
  C.happening m = .control .cancel ∧ (C.state m).isActive = true ∧ C.InFlight i m

/-- The engine turns to cancelled: it is asked to while a run goes on, or a run ends so. -/
def Recloses (C : Course config) (n : Nat) : Prop :=
  (C.happening n = .control .cancel ∧ (C.state n).isActive = true) ∨
    ∃ j p, C.Does j n (.finish .cancelled) p

/-- A run has begun since a step, and the engine has not turned to cancelled since then. -/
def Reopened (C : Course config) (m n : Nat) : Prop :=
  ∃ b, m < b ∧ b < n ∧ (∃ j, C.Begins j b) ∧ ∀ t, b < t → t < n → ¬ C.Recloses t

theorem reopened_succ (hmn : m < n) : C.Reopened m (n + 1) ↔
    (∃ j, C.Begins j n) ∨ (C.Reopened m n ∧ ¬ C.Recloses n) := by
  constructor
  · rintro ⟨b, hmb, hbn, hb, hr⟩
    rcases Nat.lt_succ_iff_lt_or_eq.mp hbn with hbn | rfl
    · exact .inr ⟨⟨b, hmb, hbn, hb, fun t h h' => hr t h (by omega)⟩, hr n hbn (Nat.lt_succ_self n)⟩
    · exact .inl hb
  · rintro (hb | ⟨⟨b, hmb, hbn, hb, hr⟩, hn⟩)
    · exact ⟨n, hmn, Nat.lt_succ_self n, hb, fun t h h' => by omega⟩
    · refine ⟨b, hmb, by omega, hb, fun t h h' => ?_⟩
      rcases Nat.lt_succ_iff_lt_or_eq.mp h' with h' | rfl
      · exact hr t h h'
      · exact hn

theorem recloses_of_does {j : Nat} {r : Request} {a : r.Answer} (h : C.Does j n r a) :
    C.Recloses n ↔ ∃ p, (⟨r, a⟩ : (r : Request) × r.Answer) = ⟨.finish .cancelled, p⟩ := by
  constructor
  · rintro (⟨hc, -⟩ | ⟨_, p, hf⟩)
    · obtain ⟨d, hd, -⟩ := h
      cases hc.symm.trans hd
    · exact ⟨p, (does_unique h hf).2⟩
  · rintro ⟨p, hp⟩
    cases hp
    exact .inr ⟨j, p, h⟩

theorem recloses_of_control {c : ControlRequest} (h : C.happening n = .control c) :
    C.Recloses n ↔ c = .cancel ∧ (C.state n).isActive = true := by
  constructor
  · rintro (⟨hc, ha⟩ | ⟨j, p, d, hd, -⟩)
    · exact ⟨Happening.control.inj (h.symm.trans hc), ha⟩
    · cases h.symm.trans hd
  · rintro ⟨rfl, ha⟩
    exact .inl ⟨h, ha⟩

/-- The engine is cancelled after a step in which no run begins, if it was so or turns to it. -/
theorem cancelled_succ : C.state (n + 1) = .cancelled ↔
    (¬ ∃ j, C.Begins j n) ∧ (C.state n = .cancelled ∨ C.Recloses n) := by
  cases C.change n with
  | begins j hd hc =>
    have hs : (C.state (n + 1)).isActive = true := (Control.serves_begin hc).2.goesOn id
    have hne : C.state (n + 1) ≠ .cancelled := by
      intro h
      rw [h] at hs
      cases hs
    exact ⟨fun h => absurd h hne, fun h => absurd ⟨j, _, _, _, _, hd⟩ h.1⟩
  | @finishes j o p hd =>
    obtain ⟨hp, hs⟩ := finish_of_does hd
    have hnb : ¬ ∃ j, C.Begins j n := by
      rintro ⟨_, _, _, _, _, hb⟩
      cases (does_unique hb hd).2
    have hr : C.Recloses n ↔ o = .cancelled := by
      rw [recloses_of_does hd]
      exact ⟨fun ⟨_, h⟩ => by cases h; rfl, fun h => ⟨p, by subst h; rfl⟩⟩
    rw [hs, hp, hr]
    by_cases hc : C.state n = .cancelled <;> simp [hc, hnb]
  | control c hw hs =>
    have hnb : ¬ ∃ j, C.Begins j n := by
      rintro ⟨_, _, _, _, _, _, hd, -⟩
      cases hw.symm.trans hd
    rw [recloses_of_control hw, and_iff_right hnb]
    unfold state
    rw [hs]
    by_cases hc : c = .cancel
    · subst hc
      by_cases ha : (C.situation n).runs.state.isActive = true
      · simp [Control.asked, Control.cancel, ha]
      · simp [Control.asked, Control.cancel, ha]
    · simp [hc, (Control.asked_of_ne_cancel hc (C.situation n).runs).2.2]
  | still hb hf hc hs ht =>
    have hr : ¬ C.Recloses n := by
      rintro (⟨h, -⟩ | ⟨j, p, hd⟩)
      · exact hc _ h
      · exact hf j ⟨_, p, hd⟩
    unfold state
    simp [hs, hr, hb]

/-- After the engine has turned to cancelled it is so until it is reopened. -/
theorem cancelled_iff_not_reopened (hm : C.state (m + 1) = .cancelled) (hmn : m < n) :
    C.state n = .cancelled ↔ ¬ C.Reopened m n := by
  induction n, hmn using Nat.le_induction with
  | base => exact ⟨fun _ ⟨b, h, h', _⟩ => by omega, fun _ => hm⟩
  | succ n hmn ih =>
    rw [reopened_succ hmn, cancelled_succ, ih, not_or, not_and_or, not_not]

section

variable (hit : C.CancelHits i m)

include hit

theorem state_of_cancelHits : C.state (m + 1) = .cancelled := by
  obtain ⟨hw, ha, -⟩ := hit
  refine cancelled_succ.mpr ⟨?_, .inr (.inl ⟨hw, ha⟩)⟩
  rintro ⟨_, _, _, _, _, _, hd, _⟩
  exact nomatch hw.symm.trans hd

/-- A boundary lets a strand pass after a cancellation just while the engine is reopened. -/
theorem boundary_iff_reopened {j : Nat} {goesOn : Bool} (hmn : m < n)
    (h : C.Does j n .boundary goesOn) : goesOn = true ↔ C.Reopened m n := by
  rw [← not_iff_not, ← cancelled_iff_not_reopened (state_of_cancelHits hit) hmn, state]
  obtain ⟨hb, -⟩ := answers_of_does h
  unfold Control.boundary at hb
  cases goesOn <;> split at hb <;> simp_all

/-- A run settles as cancelled after a cancellation just if it asks to, or the engine is not
reopened then. -/
theorem settles_cancelled_iff {o : RunState} {p : RunState × Nat} (hmn : m < n)
    (h : C.Does i n (.finish o) p) : p.1 = .cancelled ↔ o = .cancelled ∨ ¬ C.Reopened m n := by
  rw [← cancelled_iff_not_reopened (state_of_cancelHits hit) hmn, (finish_of_does h).1]
  split
  · next hs => simp [hs]
  · next hs => simp [hs]

/-- A run that was in flight when it was cancelled ends after that. -/
theorem lt_of_finishes (h : C.Finishes i n) : m < n := by
  obtain ⟨hw, -, m₀, hm₀, hb, hf⟩ := hit
  have hm₁ := begins_lt_of_finishes hb h
  by_contra hmn
  rcases Nat.lt_or_eq_of_le (Nat.not_lt.mp hmn) with hnm | rfl
  · exact hf n (Nat.le_of_lt hm₁) hnm h
  · obtain ⟨_, _, d, hd, -⟩ := h
    exact nomatch hw.symm.trans hd

/-- A run that was cancelled returns what it has settled as. -/
theorem finished_of_returned {e : RunEnd} (h : C.Returned i n e) (hmn : m < n) :
    ∃ k o p, C.Does i k (.finish o) p ∧ (p.1 = .cancelled → e.state? = some .cancelled) := by
  obtain ⟨-, -, m₀, hm₀, hb, -⟩ := hit
  obtain ⟨k, -, ended, p, -, -, hd, run, -, -, rfl⟩ :=
    told_of_returned hb (Nat.lt_trans hm₀ hmn) h
  exact ⟨k, _, p, hd, fun hp => hp ▸ (FrameEnd.verdict_state run ended p (.inr (.inl hp))).2⟩

end

/-- The run of the call passes no boundary after a step, at whatever depth and in whatever branch,
it settles as cancelled, and its call returns so, which it does if it is given its turns. -/
structure CancelledForGood (C : Course config) (i m : Nat) : Prop where
  passes_none : ∀ n > m, ∀ goesOn, C.Does i n .boundary goesOn → goesOn = false
  settles : ∀ n > m, ∀ o p, C.Does i n (.finish o) p → p.1 = .cancelled
  returns : ∀ n > m, ∀ e, C.Returned i n e → e.state? = some .cancelled
  ends : C.Fair i → C.NotLeftPaused → C.HostReturns i →
    ∃ n > m, ∃ e, C.Returned i n e ∧ e.state? = some .cancelled

/-- A run that was cancelled is so for good if and only if, while the engine is reopened, nothing of
it meets a boundary and it does not ask to end otherwise than as cancelled. -/
theorem cancelledForGood_iff (C : Course config) (i m : Nat) (hit : C.CancelHits i m) :
    C.CancelledForGood i m ↔ ∀ n > m, C.Reopened m n →
      (∀ goesOn, ¬ C.Does i n .boundary goesOn) ∧
        ∀ o p, C.Does i n (.finish o) p → o = .cancelled := by
  constructor
  · intro h n hmn hr
    refine ⟨fun goesOn hd => ?_, fun o p hd => ?_⟩
    · have hpass := (boundary_iff_reopened hit hmn hd).mpr hr
      exact nomatch hpass.symm.trans (h.passes_none n hmn goesOn hd)
    · exact ((settles_cancelled_iff hit hmn hd).mp (h.settles n hmn o p hd)).resolve_right
        (not_not.mpr hr)
  · intro h
    have settles : ∀ n > m, ∀ o p, C.Does i n (.finish o) p → p.1 = .cancelled := by
      intro n hmn o p hd
      refine (settles_cancelled_iff hit hmn hd).mpr ?_
      by_cases hr : C.Reopened m n
      · exact .inl ((h n hmn hr).2 o p hd)
      · exact .inr hr
    have returns : ∀ n > m, ∀ e, C.Returned i n e → e.state? = some .cancelled := by
      intro n hmn e he
      obtain ⟨k, o, p, hd, hstate⟩ := finished_of_returned hit he hmn
      exact hstate (settles k (lt_of_finishes hit ⟨o, p, hd⟩) o p hd)
    refine ⟨fun n hmn goesOn hd => ?_, settles, returns, fun hf hp hr => ?_⟩
    · cases goesOn with
      | false => rfl
      | true => exact absurd hd ((h n hmn ((boundary_iff_reopened hit hmn hd).mp rfl)).1 true)
    · obtain ⟨x, hx⟩ := exists_strand_of_inFlight hit.2.2
      obtain ⟨y, hy⟩ := exists_strand_add hx 1
      obtain ⟨N, hN, e, he⟩ := exists_returned hy hf hp hr
      exact ⟨N, hN, e, he, returns N hN e he⟩

/-! ### A run that is cancelled for good -/

/-- A job of a single action. -/
private def shortJob : Job := ⟨.named "job" [.ofAction .null], default, .ofNat 0⟩

/-- A run is begun. -/
private def beginning : List Happening :=
  [.call (.executeDefinition shortJob.definition default), .turn 0 (.answer .freshId shortJob.run),
    .turn 0 (.answer shortJob.beginning (.ok 0 : Except ControlError Token))]

/-- The run is cancelled, meets its first boundary, and returns. -/
private def stopping : List Happening :=
  let job := shortJob
  let does (r : Request) (a : r.Answer) := Happening.turn 0 (.answer r a)
  [.control .cancel, does (.publish job.started) (), does (.recordProgress 0 job.env) (),
    does .boundary false, does (.recordEnvironment job.env) (),
    does (.finish .cancelled) (.cancelled, 0), does (.publish (.cancelled job.run 0)) ()]

private theorem stretch_stopping : ∃ s, Stretch .default .initial beginning s ∧
    s.runs.state = .running ∧ ∃ s', Stretch .default s stopping s' :=
  ⟨_, .cons (.call _ _) <| .cons (.turn rfl (.answer rfl)) <|
    .cons (.turn rfl (.answer ⟨rfl, rfl⟩)) <| .nil _,
  rfl, _, .cons (.control _ _) <| .cons (.turn rfl (.answer rfl)) <|
    .cons (.turn rfl (.answer rfl)) <| .cons (.turn rfl (.answer ⟨rfl, rfl⟩)) <|
    .cons (.turn rfl (.answer rfl)) <| .cons (.turn rfl (.answer ⟨rfl, rfl⟩)) <|
    .cons (.turn rfl (.answer rfl)) <| .nil _⟩

/-- A run that is cancelled, and that no other run follows, is so for good. -/
theorem cancelled_for_good : ∃ C : Course .default, C.CancelHits 0 3 ∧ C.CancelledForGood 0 3 := by
  obtain ⟨s, p, hs, s', q⟩ := stretch_stopping
  obtain ⟨C, hC, hsit⟩ := exists_course p q
  have hactive : (C.state 3).isActive = true := by
    rw [state, show C.situation 3 = s from hsit, hs]
    rfl
  have hb : C.Begins 0 2 := ⟨_, _, _, _, _, hC 2, rfl⟩
  have hit : C.CancelHits 0 3 :=
    ⟨hC 3, hactive, inFlight_between hb ⟨_, _, _, hC 8, rfl⟩ (by omega) (by omega)⟩
  have hnone : ∀ n, ¬ C.Reopened 3 n := by
    rintro n ⟨b, hb, -, ⟨j, _, _, _, _, d, hd, ha⟩, -⟩
    rw [hC] at hd
    rcases Nat.lt_or_ge b 10 with hlt | hge
    · interval_cases b <;> cases hd <;> cases ha
    · rw [List.getElem?_eq_none hge] at hd
      cases hd
  exact ⟨C, hit, (cancelledForGood_iff C 0 3 hit).mpr fun n _ hr => absurd hr (hnone n)⟩

/-! ### A branch that passes a boundary after its run was cancelled -/

/-- A job of two actions in a branch. -/
private def branchJob (run : Nat) : Job :=
  ⟨.named "job" [.parallel Step.plain [[.ofAction .null, .ofAction .null]]], default, .ofNat run⟩

/-- A run comes to the first action of its branch. -/
private def branching : List Happening :=
  let job := branchJob 0
  let scope : Scope := ⟨job.identity, .stop, 0, 0⟩
  let outer := Location.top 0
  let inner := (outer.child (.branch 0)).child (.step 0)
  let env := job.env.stamp job.identity
  let main (r : Request) (a : r.Answer) := Happening.turn 0 (.answer r a)
  let aside (r : Request) (a : r.Answer) := Happening.turn 0 (.aside 0 0 (.answer r a))
  [.call (.executeDefinition job.definition default), main .freshId job.run,
    main job.beginning (.ok 0 : Except ControlError Token), main (.publish job.started) (),
    main (.recordProgress 0 job.env) (), main .boundary true,
    main (.publish (.stepStarted job.run outer.forEvents "parallel" "parallel")) (),
    main (.attempt
      ⟨.parallel Step.plain [[.ofAction .null, .ofAction .null]], scope, outer, env⟩) (),
    .turn 0 .fork, aside .boundary true,
    aside (.publish (.stepStarted job.run inner.forEvents "action" "action")) (),
    aside (.attempt ⟨.ofAction .null, scope, inner, (env.forkBranch 0).stamp job.identity⟩) ()]

/-- The run is cancelled and returns, another begins, and the branch goes on. -/
private def abandoning : List Happening :=
  let job := branchJob 0
  let inner := ((Location.top 0).child (.branch 0)).child (.step 0)
  let env := job.env.stamp job.identity
  let main (r : Request) (a : r.Answer) := Happening.turn 0 (.answer r a)
  let aside (r : Request) (a : r.Answer) := Happening.turn 0 (.aside 0 0 (.answer r a))
  [.control .cancel, .turn 0 .abandon, main (.recordEnvironment env) (),
    main (.finish .cancelled) (.cancelled, 0), main (.publish (.cancelled job.run 0)) (),
    .call (.executeDefinition job.definition default), .turn 1 (.answer .freshId (RunId.ofNat 1)),
    .turn 1 (.answer (branchJob 1).beginning (.ok 1 : Except ControlError Token)),
    aside (.perform ⟨Template.resolveDeep ((env.forkBranch 0).stamp job.identity) .null, none,
      job.run, inner⟩) (.ok .null : Except ActionError Value),
    aside (.publish (.stepCompleted job.run inner.forEvents "action" .null 0)) (),
    aside .boundary true]

private theorem stretch_abandoning : ∃ s, Stretch .default .initial branching s ∧
    s.runs.state = .running ∧ ∃ s', Stretch .default s abandoning s' :=
  ⟨_, .cons (.call _ _) <| .cons (.turn rfl (.answer rfl)) <|
    .cons (.turn rfl (.answer ⟨rfl, rfl⟩)) <| .cons (.turn rfl (.answer rfl)) <|
    .cons (.turn rfl (.answer rfl)) <| .cons (.turn rfl (.answer ⟨rfl, rfl⟩)) <|
    .cons (.turn rfl (.answer rfl)) <| .cons (.turn rfl (.answer rfl)) <| .cons (.turn rfl .fork) <|
    .cons (.turn rfl (.branch (b := (0 : Fin 1)) (.answer ⟨rfl, rfl⟩))) <|
    .cons (.turn rfl (.branch (b := (0 : Fin 1)) (.answer rfl))) <|
    .cons (.turn rfl (.branch (b := (0 : Fin 1)) (.answer rfl))) <| .nil _,
  rfl, _, .cons (.control _ _) <| .cons (.turn rfl (.abandon rfl)) <|
    .cons (.turn rfl (.rest (d := .answer _ _) (.answer rfl))) <|
    .cons (.turn rfl (.rest (d := .answer _ _) (.answer ⟨rfl, rfl⟩))) <|
    .cons (.turn rfl (.rest (d := .answer _ _) (.answer rfl))) <| .cons (.call _ _) <|
    .cons (.turn rfl (.answer rfl)) <| .cons (.turn rfl (.answer ⟨rfl, rfl⟩)) <|
    .cons (.turn rfl (.drift (b := (0 : Fin 1)) (.answer rfl))) <|
    .cons (.turn rfl (.drift (b := (0 : Fin 1)) (.answer rfl))) <|
    .cons (.turn rfl (.drift (b := (0 : Fin 1)) (.answer ⟨rfl, rfl⟩))) <| .nil _⟩

private theorem exists_abandoning : ∃ C : Course .default, C.CancelHits 0 12 ∧
    C.Does 0 22 .boundary true := by
  obtain ⟨s, p, hs, s', q⟩ := stretch_abandoning
  obtain ⟨C, hC, hsit⟩ := exists_course p q
  have hb : C.Begins 0 2 := ⟨_, _, _, _, _, hC 2, rfl⟩
  have hf : C.Finishes 0 15 := ⟨_, _, _, hC 15, rfl⟩
  have hactive : (C.state 12).isActive = true := by
    rw [state, show C.situation 12 = s from hsit, hs]
    rfl
  exact ⟨C, ⟨hC 12, hactive, inFlight_between hb hf (by omega) (by omega)⟩, _, hC 22, rfl⟩

/-- A branch that was abandoned when its run was cancelled passes a boundary once another run has
begun. -/
theorem branch_passes_after_cancel : ¬ ∀ (config : Config) (C : Course config) (i m : Nat),
    C.CancelHits i m → C.CancelledForGood i m := by
  obtain ⟨C, hit, hpass⟩ := exists_abandoning
  intro h
  exact nomatch (h _ C 0 12 hit).passes_none 22 (by omega) true hpass

end Workflow.Course

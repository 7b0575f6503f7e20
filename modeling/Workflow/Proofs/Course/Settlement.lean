import Workflow.Proofs.Course.Termination

/-!
# The settlement of a run

A run that is alone in flight settles as cancelled if the engine was cancelled between its begin and
its end, whatever its frame came to meanwhile, and otherwise as its frame has ended. The state of
the engine, what the call returns and the one event that tells of the end all agree with that.

## Main definitions

* `Workflow.SettlesAs` — the state that a run settles in.
* `Workflow.Course.FrameEnds` — the frame of a run has ended.
* `Workflow.Course.Publishes`, `Workflow.Course.TellsOnce` — the events on a course.

## Main results

* `Workflow.Course.settles` — a run that is alone in flight settles so, and comes to do so.
-/

namespace Workflow

/-- The state that a run settles in, by whether it was cancelled and how its frame has ended. -/
structure SettlesAs (hit : Prop) (ended : FrameEnd) (state : RunState) : Prop where
  cancelled : hit → state = .cancelled
  completed : ¬ hit → ended.failure = none → state = .completed
  failed : ¬ hit → ended.failure ≠ none → state = .failed

/-- A frame that has not failed as cancelled asks to end as it should settle. -/
theorem settlesAs_outcome {ended : FrameEnd} (h : FrameEnd.Abides False ended) :
    SettlesAs False ended ended.outcome := by
  obtain ⟨record, failure, env⟩ := ended
  refine ⟨fun h => h.elim, ?_, ?_⟩
  · rintro - rfl
    rfl
  · intro _ hf
    obtain ⟨⟨index, error⟩, rfl⟩ := Option.ne_none_iff_exists'.mp hf
    cases error with
    | cancelled => exact (h _ rfl rfl).elim
    | _ => rfl

/-- What a call returns agrees with how the frame of its run has ended and the state that the run
has settled in. -/
structure RunEnd.Agrees (e : RunEnd) (ended : FrameEnd) (state : RunState) : Prop where
  kind : e.state? = some state
  result : ∃ r, e.result? = some r ∧ r.state = state ∧ (r.success = true ↔ state = .completed) ∧
    ∀ index, r.failure.map Prod.fst = some index ↔ ∃ f, ended.failure = some f ∧ f.index = index

theorem SettlesAs.agrees {hit : Prop} {ended : FrameEnd} {p : RunState × Nat}
    (h : SettlesAs hit ended p.1) (run : RunId) : (ended.verdict run p).1.endState? = some p.1 ∧
      (ended.verdict run p).2.Agrees ended p.1 := by
  have hp : p.1 = .completed ∨ p.1 = .cancelled ∨ p.1 = .failed ∧ ended.failure ≠ none := by
    by_cases hc : hit
    · exact .inr (.inl (h.cancelled hc))
    · by_cases hf : ended.failure = none
      · exact .inl (h.completed hc hf)
      · exact .inr (.inr ⟨h.failed hc hf, hf⟩)
  obtain ⟨he, hr⟩ := FrameEnd.verdict_state run ended p hp
  refine ⟨he, hr, _, FrameEnd.verdict_result run ended p, rfl, decide_eq_true_iff, fun index => ?_⟩
  cases ended.failure <;> simp

/-- The event tells that the engine was paused or resumed. -/
def Event.IsOfPause : Event → Prop
  | paused .. => True
  | resumed .. => True
  | _ => False

/-- When it is asked for something, the engine publishes that it was paused or resumed alone. -/
theorem Control.told?_isOfPause {c : Control} {r : ControlRequest} {e : Event}
    (h : c.told? r = some e) : e.IsOfPause := by
  obtain ⟨state, tokens, progress⟩ := c
  cases r with
  | cancel => exact nomatch h
  | pause =>
    cases state <;> cases h
    trivial
  | resume =>
    cases state <;> cases h
    trivial

theorem Event.IsOfPause.isTerminal_eq_false : {e : Event} → e.IsOfPause → e.isTerminal = false
  | .paused .., _ => rfl
  | .resumed .., _ => rfl

namespace Course

variable {config : Config} {C : Course config} {i j k m n t : Nat}

/-- A request to cancel finds a run that goes on. -/
def Cancels (C : Course config) (n : Nat) : Prop :=
  C.happening n = .control .cancel ∧ (C.state n).isActive = true

/-- The frame of the run has ended, as the turns of its call show. -/
def FrameEnds (C : Course config) (i n : Nat) (run : RunId) (ended : FrameEnd) : Prop :=
  ∃ inv b job token, C.Called i inv ∧ job.run = run ∧ Ran config inv (C.turns i n) b job token ended

/-- An event is published, by a call or by the engine itself. -/
def Publishes (C : Course config) (n : Nat) (e : Event) : Prop :=
  (∃ j, C.Does j n (.publish e) ()) ∨
    ∃ r, C.happening n = .control r ∧ (C.situation n).runs.told? r = some e

/-- It is told of the end of a run at this step, and at no other. -/
def TellsOnce (C : Course config) (n : Nat) (run : RunId) (state : RunState) : Prop :=
  (∃ e, C.Publishes n e ∧ e.run = run ∧ e.endState? = some state) ∧
    ∀ t e, C.Publishes t e → e.run = run → e.isTerminal = true → t = n

section

variable {identity : Identity} {total : Nat} {env : Environment} {token : Token} {o : RunState}
  {p : RunState × Nat} (hb : C.Does i m (.begin identity total env) (.ok token))

include hb

/-- While a run is alone in flight, a request to cancel finds it going on or cancelled before. -/
theorem exists_cancels_iff (hf : ∀ t, m < t → t < n → ¬ C.Finishes i t) (alone : C.Alone i m n) :
    (∃ t, m < t ∧ t < n ∧ C.Cancels t) ↔ C.CancelledWithin m n := by
  constructor
  · rintro ⟨t, hmt, htn, hw, -⟩
    exact ⟨t, hmt, htn, hw⟩
  · rintro ⟨t, hmt, htn, hw⟩
    induction t using Nat.strongRecOn with
    | ind t ih =>
      by_cases hc : C.CancelledWithin m t
      · obtain ⟨u, hmu, hut, hu⟩ := hc
        exact ih u hut hmu (by omega) hu
      · have hs := serves hb hmt (fun u h h' => hf u h (by omega))
          fun u h h' => alone u h (by omega)
        exact ⟨t, hmt, htn, hw, hs.goesOn hc⟩

/-- The frame that a run asks to end with is that of the job that it has begun with. -/
theorem ran_of_begin_of_finish (hk : C.Does i k (.finish o) p) :
    ∃ inv b job ended, C.Called i inv ∧ b.time = m ∧ job.run = identity.executionId ∧
      Ran config inv (C.turns i k) b job token ended ∧ o = ended.outcome := by
  obtain ⟨inv, b, job, token', ended, hc, ran, ho⟩ := ran_of_finishes hk
  obtain ⟨htime, rfl, ha⟩ := begin_unique hb ran.begun.1 ran.begun.2
  cases ha
  exact ⟨inv, b, job, ended, hc, htime, rfl, ran, ho⟩

/-- The frame of a run that is alone in flight ends as cancelled only if the engine was cancelled.
-/
theorem abides_of_ran {inv : Errand} {b : Stroke} {job : Job} {ended : FrameEnd}
    (hf : ∀ t, m < t → t < k → ¬ C.Finishes i t) (alone : C.Alone i m k)
    (htime : b.time = m) (ran : Ran config inv (C.turns i k) b job token ended) :
    FrameEnd.Abides (C.CancelledWithin m k) ended := by
  obtain ⟨pre, st, τ, post, y, hl, -, -, -, hy, he⟩ := ran
  have hk : ∀ s ∈ τ, (Contract.frame token config.maxDepth (C.CancelledWithin m k)).Reckons
      s.control := by
    intro s hs
    obtain ⟨τ₁, τ₂, rfl⟩ := List.append_of_mem hs
    have hmem : s ∈ C.turns i k := by rw [hl]; simp
    obtain ⟨hsk, -, hsc⟩ := (mem_turns k).mp hmem
    -- the turn comes after the begin and before the end
    have hturns : C.turns i s.time = pre ++ b :: st :: τ₁ :=
      turns_of_append (r := τ₂ ++ post) (by rw [hl]; simp)
    have hbs : b ∈ C.turns i s.time := by rw [hturns]; simp
    have hms : m < s.time := htime ▸ ((mem_turns s.time).mp hbs).1
    have hserves := serves hb hms (fun t h h' => hf t h (by omega))
      fun t h h' => alone t h (by omega)
    have hwithin : C.CancelledWithin m s.time → C.CancelledWithin m k :=
      fun ⟨t, h, h', hw⟩ => ⟨t, h, by omega, hw⟩
    rw [hsc]
    exact Contract.reckons_frame (fun hs => hwithin (hserves.hit_of_cancelled hs))
      fun ht => hwithin (hserves.cancelled.mp ht)
  have hx := keeps_frame config job token (C.CancelledWithin m k)
  exact keeps_ended y (keeps_follows hy hk hx).1 he

/-- A run that is alone in flight settles as it should. -/
theorem settlesAs_of_finish (hk : C.Does i k (.finish o) p) (alone : C.Alone i m k) :
    ∃ ended, C.FrameEnds i k identity.executionId ended ∧
      SettlesAs (∃ t, m < t ∧ t < k ∧ C.Cancels t) ended p.1 := by
  obtain ⟨inv, b, job, ended, hc, htime, hrun, ran, ho⟩ := ran_of_begin_of_finish hb hk
  have hf : ∀ t, m < t → t < k → ¬ C.Finishes i t := by
    rintro t - htk ⟨_, _, hd⟩
    exact Nat.ne_of_lt htk (milestone_once hd hk rfl rfl)
  have hmk : m < k := htime ▸ ((mem_turns k).mp ran.begun.1).1
  have hserves := serves hb hmk hf alone
  have habides := abides_of_ran hb hf alone htime ran
  refine ⟨ended, ⟨inv, b, job, token, hc, hrun, ran⟩, ?_⟩
  rw [exists_cancels_iff hb hf alone, (finish_of_does hk).1]
  by_cases hit : C.CancelledWithin m k
  · rw [if_pos (show C.state k = .cancelled from hserves.ended hit)]
    exact ⟨fun _ => rfl, fun hn => absurd hit hn, fun hn => absurd hit hn⟩
  · have hstate : C.state k ≠ .cancelled := fun hs => hit (hserves.hit_of_cancelled hs)
    rw [eq_false hit] at habides ⊢
    rw [if_neg hstate, ho]
    exact settlesAs_outcome habides

end

/-- How the frame of a run has ended is settled by the course. -/
theorem frameEnds_unique {run run' : RunId} {ended ended' : FrameEnd}
    (h : C.FrameEnds i n run ended) (h' : C.FrameEnds i n run' ended') :
    run = run' ∧ ended = ended' := by
  obtain ⟨inv, b, job, token, hc, hrun, ran⟩ := h
  obtain ⟨inv', b', job', token', hc', hrun', ran'⟩ := h'
  obtain rfl := called_unique hc hc'
  obtain ⟨rfl, he⟩ := ran.unique ran'
  exact ⟨hrun.symm.trans hrun', he⟩

/-- A call tells of the end of a run whose identifier it was given. -/
theorem named_of_tell {e : Event} (h : C.Does i n (.publish e) ()) (he : e.isTerminal = true) :
    ∃ t, C.Does i t .freshId e.run := by
  obtain ⟨inv, x, -, -, hx⟩ := exists_stage_of_does h
  obtain ⟨s, hs, -, ha⟩ := mem_turns_of_does h (Nat.lt_succ_self n)
  obtain ⟨l₀, rest, b, f, job, token, ended, p, hl, ran, -, rfl⟩ := ran_of_tell hx hs ha he
  obtain ⟨s', hs', hd⟩ := (ran.append (f :: rest)).named
  rw [← hl] at hs'
  rw [FrameEnd.verdict_run]
  exact ⟨s'.time, (does_of_mem_turns hs' (congrArg Deed.answered? hd)).2⟩

/-- It is told of the end of a run once. -/
theorem tellsOnce_of_does (hids : C.FreshIds) {e : Event} {run : RunId} {state : RunState}
    (h : C.Does i n (.publish e) ()) (hrun : e.run = run) (hstate : e.endState? = some state) :
    C.TellsOnce n run state := by
  have hterm : e.isTerminal = true := by rw [Event.isTerminal, hstate]; rfl
  refine ⟨⟨e, .inl ⟨i, h⟩, hrun, hstate⟩, ?_⟩
  rintro t e' (⟨j, h'⟩ | ⟨r, -, hr⟩) hrun' hterm'
  · obtain ⟨u, hu⟩ := named_of_tell h hterm
    obtain ⟨u', hu'⟩ := named_of_tell h' hterm'
    rw [hrun'] at hu'
    rw [hrun] at hu
    obtain ⟨rfl, -⟩ := hids _ _ _ _ _ hu hu'
    exact milestone_once h' h (if_pos hterm') (if_pos hterm)
  · rw [(Control.told?_isOfPause hr).isTerminal_eq_false] at hterm'
    exact nomatch hterm'

/-- A call whose run has begun returns after the run has ended, with what it has told of that. -/
theorem told_of_returned {e : RunEnd} (hb : C.Begins i m) (hmn : m < n) (h : C.Returned i n e) :
    ∃ k t ended p, k < n ∧ t < n ∧ C.Does i k (.finish ended.outcome) p ∧ ∃ run,
      C.FrameEnds i k run ended ∧ C.Does i t (.publish (ended.verdict run p).1) () ∧
        e = (ended.verdict run p).2 := by
  obtain ⟨_, _, _, _, hb⟩ := hb
  obtain ⟨x, hx, he⟩ := h
  obtain ⟨inv, hc, hs⟩ := stage hx
  rcases told_of_ended hs he with
    ⟨-, hnone⟩ | ⟨l₀, rest, b, f, t, job, token, ended, p, hl, ran, hf, ht, htd, rfl⟩
  · obtain ⟨s, hs, -, ha⟩ := mem_turns_of_does hb hmn
    exact absurd ha (hnone s hs _ _ _ _)
  · have hmem : f ∈ C.turns i n := hl ▸ by simp
    obtain ⟨hfn, hfd⟩ := does_of_mem_turns hmem (congrArg Deed.answered? hf)
    obtain ⟨htn, htd⟩ := does_of_mem_turns ht (congrArg Deed.answered? htd)
    have ran' : Ran config inv (C.turns i f.time) b job token ended := turns_of_append hl ▸ ran
    exact ⟨f.time, t.time, ended, p, hfn, htn, hfd, job.run,
      ⟨inv, b, job, token, hc, rfl, ran'⟩, htd, rfl⟩

/-- A call returns only after its run has begun, if it begins one. -/
theorem lt_of_returned {e : RunEnd} (hb : C.Begins i m) (h : C.Returned i n e) : m < n := by
  by_contra hmn
  have h' : C.Returned i (m + 1) e := h.of_le (by omega)
  obtain ⟨k, -, ended, p, hk, -, hd, -⟩ := told_of_returned hb (Nat.lt_succ_self m) h'
  have hmk : m < k := begins_lt_of_finishes hb ⟨_, p, hd⟩
  omega

/-- A run that no other run is in flight beside, from its begin to its end, settles as cancelled if
the engine was cancelled in between, else as completed or failed as its frame has ended. The engine
is in this state then, the call returns accordingly, and one event tells so. If the call is given
its turns, no pause is left pending and the host returns, then the run ends and the call returns. -/
theorem settles (C : Course config) (hids : C.FreshIds) {i m : Nat} {identity : Identity}
    {total : Nat} {env : Environment} {token : Token}
    (hb : C.Does i m (.begin identity total env) (.ok token)) :
    (∀ k o p, C.Does i k (.finish o) p → C.Alone i m k →
      ∃ ended, C.FrameEnds i k identity.executionId ended ∧
        SettlesAs (∃ t, m < t ∧ t < k ∧ C.Cancels t) ended p.1 ∧ C.state (k + 1) = p.1 ∧
        ∀ n e, C.Returned i n e → e.Agrees ended p.1 ∧
          ∃ t < n, C.TellsOnce t identity.executionId p.1) ∧
    (C.Fair i → C.NotLeftPaused → C.HostReturns i →
      ∃ k o p n e, C.Does i k (.finish o) p ∧ k < n ∧ C.Returned i n e) := by
  have hbegins : C.Begins i m := ⟨_, _, _, _, hb⟩
  refine ⟨fun k o p hk alone => ?_, fun hf hp hr => ?_⟩
  · obtain ⟨ended, hends, hs⟩ := settlesAs_of_finish hb hk alone
    refine ⟨ended, hends, hs, (finish_of_does hk).2, fun n e he => ?_⟩
    obtain ⟨k', t, ended', p', -, htn, hk', run, hends', htell, rfl⟩ :=
      told_of_returned hbegins (lt_of_returned hbegins he) he
    obtain rfl : k' = k := milestone_once hk' hk rfl rfl
    cases (does_unique hk' hk).2
    obtain ⟨rfl, rfl⟩ := frameEnds_unique hends hends'
    obtain ⟨hstate, hagrees⟩ := hs.agrees identity.executionId
    exact ⟨hagrees, t, htn, tellsOnce_of_does hids htell (FrameEnd.verdict_run ..) hstate⟩
  · obtain ⟨-, x, -, hx, -⟩ := exists_stage_of_does hb
    obtain ⟨n, hn, e, he⟩ := exists_returned hx hf hp hr
    obtain ⟨k, t, ended, p, hkn, -, hk, -⟩ := told_of_returned hbegins hn he
    exact ⟨k, _, p, n, e, hk, hkn, he⟩

/-- A run that nothing happens beside is alone in flight, and settles as completed. -/
theorem settles_plainly : ∃ C : Course .default, ∃ run ended e, C.FrameEnds 0 11 run ended ∧
    C.state 12 = .completed ∧ C.Returned 0 13 e ∧ e.Agrees ended .completed ∧
      ∃ t < 13, C.TellsOnce t run .completed := by
  obtain ⟨C, h⟩ := exists_goesPlainly
  obtain ⟨identity, _, _, hb⟩ := h.begins
  obtain ⟨e, he⟩ := h.returns
  obtain ⟨ended, hends, -, hstate, hreturn⟩ :=
    (settles C h.freshIds hb).1 11 _ _ h.finishes fun t _ _ j => h.alone t j
  obtain ⟨hagrees, ht⟩ := hreturn 13 e he
  exact ⟨C, identity.executionId, ended, e, hends, hstate, he, hagrees, ht⟩

end Course

end Workflow

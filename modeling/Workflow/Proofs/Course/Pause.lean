import Workflow.Proofs.Course.Progress
import Workflow.Proofs.Course.Story

/-!
# Pauses are not noticed

A run that nothing cancels and that is alone in flight comes to what it would come to if the engine
was never paused, as long as no pause is left pending. With collaborators that answer as functions
of what they are asked, what a call does on each of its lines until it returns, and what it returns,
is settled by what it is called for; when the engine is paused and resumed, and by how many others,
has no part in it. A pause delays the lines at their step boundaries, and of the events that belong
to the call only those that tell of pausing and resuming are not its own.

## Main definitions

* `Workflow.Passage.Served` — the collaborators answer throughout a passage that nothing cancels.
* `Workflow.Course.CarriesOn` — a call carries on a run that nothing cancels to its end.

## Main results

* `Workflow.Passage.Served.congr` — served passages of one errand do the same on all lines.
* `Workflow.Course.pause_transparent` — two calls for one errand do and return the same, however the
  engine is paused and resumed meanwhile.
-/

namespace Workflow

/-! ### What a call is to do -/

/-- Ending a run leaves what is kept of it. -/
theorem Control.progress_finish (c : Control) (outcome : RunState) :
    (c.finish outcome).2.progress = c.progress := by
  rw [finish]
  split
  · rfl
  · rfl

/-- What a call does before it asks to begin, and what for, is settled by the collaborators. -/
theorem prepared_congr {w : Collaborators} {names : Names} {k : Errand} {l l' : List Stroke}
    {job job' : Job} (h : Prepared l job k) (h' : Prepared l' job' k) (hl : w.ServeAll names l)
    (hl' : w.ServeAll names l') : job = job' ∧ l.map Stroke.deed = l'.map Stroke.deed := by
  obtain ⟨definition, options, run⟩ := job
  obtain ⟨definition', options', run'⟩ := job'
  -- the identifiers that are given before are the same on both sides
  have hnamed {l₀ l₀' : List Stroke} {s s' : Stroke}
      (hdeeds : l₀.map Stroke.deed = l₀'.map Stroke.deed)
      (hs : s.deed = .answer .freshId run) (hs' : s'.deed = .answer .freshId run')
      (hserve : w.Serve (names.past l₀) s.deed) (hserve' : w.Serve (names.past l₀') s'.deed) :
      run = run' := by
    rw [hs] at hserve
    rw [hs', ← Names.past_congr hdeeds] at hserve'
    exact (hserve trivial).trans (hserve' trivial).symm
  cases k with
  | executeDefinition d o =>
    obtain ⟨s, rfl, hd, ho, hs⟩ := h
    obtain ⟨s', rfl, hd', ho', hs'⟩ := h'
    cases hd.trans hd'.symm
    cases ho.trans ho'.symm
    obtain rfl := hnamed rfl hs hs' (hl [] s [] rfl) (hl' [] s' [] rfl)
    exact ⟨rfl, by simp [hs, hs']⟩
  | execute id o =>
    obtain ⟨s, t, rfl, ho, hs, ht⟩ := h
    obtain ⟨s', t', rfl, ho', hs', ht'⟩ := h'
    cases ho.trans ho'.symm
    have hfound := hl [] s [t] rfl
    have hfound' := hl' [] s' [t'] rfl
    rw [hs] at hfound
    rw [hs'] at hfound'
    cases (hfound trivial).trans (hfound' trivial).symm
    have hdeeds : [s].map Stroke.deed = [s'].map Stroke.deed := by simp [hs, hs']
    obtain rfl := hnamed hdeeds ht ht' (hl [s] t [] rfl) (hl' [s'] t' [] rfl)
    exact ⟨rfl, by simp [hs, hs', ht, ht']⟩

namespace Passage

variable {config : Config} {k : Errand} {l l' : List Stroke} {x x' : Strand RunEnd}
  {w : Collaborators} {names : Names}

/-- The turns of a passage before its frame takes one. -/
def opening (P : Passage config k l x) : List Stroke := P.before ++ [P.begin, P.start]

theorem map_deed_opening (P : Passage config k l x) : P.opening.map Stroke.deed =
    P.before.map Stroke.deed ++
      [.answer P.job.beginning (.ok P.token), .answer (.publish P.job.started) ()] := by
  rw [opening, List.map_append, ← P.begins, ← P.starts]
  rfl

theorem turns_opening (P : Passage config k l x) : l = P.opening ++ (P.frame ++ P.settling) :=
  P.turns.trans (by simp [opening])

theorem SettledBy.turns_opening {P : Passage config k l x} {v f s : Stroke} {p : RunState × Nat}
    (hs : P.SettledBy v f s p) : l = P.opening ++ P.frame ++ [v, f, s] :=
  P.turns_opening.trans (by simp [hs.turns])

/-- In all turns of a passage the collaborators answer what they answer, and while its frame goes on
nothing is cancelled. -/
structure Served (P : Passage config k l x) (w : Collaborators) (names : Names) : Prop where
  serveAll : w.ServeAll names l
  serves : ∀ s ∈ P.frame, s.control.Serves P.token False

namespace Served

section

variable {P : Passage config k l x} (h : P.Served w names)

include h

theorem serveAll_opening : w.ServeAll names P.opening ∧
    w.ServeAll (names.past P.opening) P.frame := by
  have hserve : w.ServeAll names (P.opening ++ (P.frame ++ P.settling)) :=
    P.turns_opening ▸ h.serveAll
  obtain ⟨hopening, hrest⟩ := hserve.of_append
  exact ⟨hopening, hrest.of_append.1⟩

theorem attend : w.Attend P.token (names.past P.opening) P.frame :=
  h.serveAll_opening.2.attend fun s hs => ⟨(h.serves s hs).hit_of_cancelled,
    Bool.eq_false_iff.mpr (h.serves s hs).cancelled.mp⟩

theorem atRest : P.strand.AtRest :=
  atRest_of_attend P.follows (keeps_frame config P.job P.token False) h.attend P.ends

end

/-- Served passages of one errand that begin under one token do the same on all lines until their
frames have ended, and these end in the same way. -/
theorem congr {P : Passage config k l x} {P' : Passage config k l' x'} (h : P.Served w names)
    (h' : P'.Served w names) (htoken : P.token = P'.token) : P.job = P'.job ∧ P.ended = P'.ended ∧
      ∀ line, doneOn line (P.opening ++ P.frame) = doneOn line (P'.opening ++ P'.frame) := by
  obtain ⟨hopening, -⟩ := h.serveAll_opening
  obtain ⟨hopening', -⟩ := h'.serveAll_opening
  obtain ⟨hjob, hbefore⟩ :=
    prepared_congr P.prepared P'.prepared hopening.of_append.1 hopening'.of_append.1
  have hdeeds : P.opening.map Stroke.deed = P'.opening.map Stroke.deed := by
    rw [P.map_deed_opening, P'.map_deed_opening, hbefore, hjob, htoken]
  have hnames : names.past P.opening = names.past P'.opening := Names.past_congr hdeeds
  have hflow : P.job.frame config P.token = P'.job.frame config P'.token := by rw [hjob, htoken]
  have hkeeps := keeps_frame config P.job P.token False
  have hkeeps' := keeps_frame config P'.job P'.token False
  refine ⟨hjob, ?_, fun line => ?_⟩
  · have hended := (comesTo_outcome w _ hkeeps).ends _ _ _ P.follows h.attend P.ends
    have hended' := (comesTo_outcome w _ hkeeps').ends _ _ _ P'.follows h'.attend P'.ends
    rw [hflow, hnames, ← hended'] at hended
    exact Except.ok.inj hended
  · have hdone := doneOn_eq P.follows hkeeps h.attend P.ends line
    have hdone' := doneOn_eq P'.follows hkeeps' h'.attend P'.ends line
    rw [doneOn_append, doneOn_append, doneOn_congr hdeeds, hdone, hdone', hflow, hnames]

end Served

end Passage

namespace Course

variable {config : Config} {C C' : Course config} {w : Collaborators} {names : Workflow.Names}
  {k : Errand} {token : Token} {i i' m m' n : Nat}

/-- In all turns of the call the collaborators answer what they answer. -/
def ServedBy (C : Course config) (w : Collaborators) (names : Workflow.Names) (i : Nat) : Prop :=
  ∀ t d, C.happening t = .turn i d → w.Serve (names.past (C.turns i t)) d

/-- A call for an errand begins a run under a token while no other run is in flight, nothing cancels
the run while it is, the collaborators answer as functions of what they are asked, the call is given
its turns, and no pause is left pending. -/
structure CarriesOn (C : Course config) (w : Collaborators) (names : Workflow.Names) (k : Errand)
    (token : Token) (i m : Nat) : Prop where
  called : C.Called i k
  begins : ∃ identity total env, C.Does i m (.begin identity total env) (.ok token)
  alone : ∀ j, ¬ C.InFlight j m
  uncancelled : ∀ t, C.InFlight i t → ¬ C.Cancels t
  served : C.ServedBy w names i
  fair : C.Fair i
  resumed : C.NotLeftPaused

theorem ServedBy.serveAll (h : C.ServedBy w names i) (n : Nat) :
    w.ServeAll names (C.turns i n) := by
  intro l₁ s l₂ hl
  have hmem : s ∈ C.turns i n := by simp [hl]
  obtain ⟨-, hd, -⟩ := (mem_turns n).mp hmem
  rw [← turns_of_append hl]
  exact h s.time s.deed hd

theorem ServedBy.hostReturns (h : C.ServedBy w names i) : C.HostReturns i :=
  fun n report hd => h n (.crash report) hd

/-- The engine answers the end of a run with the step that the run has recorded last. -/
theorem Uncancelled.settled_eq {identity : Identity} {e : RunEnd}
    (h : C.Uncancelled i m n identity token e) {x : Strand RunEnd}
    (P : Passage config k (C.turns i n) x) {v f s : Stroke} {p : RunState × Nat}
    (hs : P.SettledBy v f s p) :
    p = (P.ended.outcome, (C.recorded i f.time).currentStep) := by
  obtain ⟨hmf, hd, hf⟩ := h.finishes_settling P hs
  have hstep : p.2 = _ := congrArg Prod.snd (answers_of_does hd).1
  rw [Control.progress_finish, progress_eq h.begins' hmf (h.alone_until hmf hf)] at hstep
  exact Prod.ext (h.outcome_eq P hs) hstep

/-- What a call has recorded when its run ends. -/
theorem recorded_settling {x : Strand RunEnd} (P : Passage config k (C.turns i n) x)
    {v f s : Stroke} {p : RunState × Nat} (hs : P.SettledBy v f s p) : C.recorded i f.time =
      (doneOn [] (P.opening ++ P.frame ++ [v])).foldl Progress.after Control.initial.progress := by
  have hturns : C.turns i n = P.opening ++ P.frame ++ [v] ++ f :: [s] :=
    hs.turns_opening.trans (by simp)
  rw [recorded, turns_of_append hturns]

namespace CarriesOn

/-- The call returns, and its turns lead through the whole run. -/
theorem exists_settled (h : C.CarriesOn w names k token i m) : ∃ N x,
    ∃ P : Passage config k (C.turns i N) x, ∃ v f s p, P.SettledBy v f s p ∧
      P.Served w names ∧ P.token = token ∧ C.strand? i N = some x ∧ x.AtRest ∧
        C.Returned i N (P.ended.verdict P.job.run p).2 ∧
          p = (P.ended.outcome, (C.recorded i f.time).currentStep) := by
  obtain ⟨identity, total, env, hb⟩ := h.begins
  obtain ⟨-, y, -, hy, -⟩ := exists_stage_of_does hb
  obtain ⟨N, -, e, he⟩ := exists_returned hy h.fair h.resumed h.served.hostReturns
  have hrun : C.Uncancelled i m N identity token e := ⟨⟨_, _, hb⟩, h.alone, h.uncancelled, he⟩
  obtain ⟨k', x, hk, hx, hended, ⟨P⟩⟩ := hrun.exists_passage
  obtain rfl := called_unique hk h.called
  have hserved : P.Served w names :=
    ⟨h.served.serveAll N, fun s hs => hrun.serves_frame P hs⟩
  have hne : x.ended? ≠ none := by
    rw [hended]
    exact Option.some_ne_none _
  obtain ⟨v, f, s, p, hs⟩ := P.exists_settling hserved.atRest hne
  have hrest : x.AtRest := by
    rw [hs.returns]
    exact atRest_graft_done P.strand hserved.atRest
  exact ⟨N, x, P, v, f, s, p, hs, hserved, (hrun.begin_eq P).2.1, hx, hrest,
    ⟨x, hx, (congrArg Strand.ended? hs.returns).trans (ended?_graft ..)⟩, hrun.settled_eq P hs⟩

end CarriesOn

/-- While the engine is paused no line of a call passes a step boundary. -/
theorem not_paused_of_boundary {goesOn : Bool} (h : C.Does i n .boundary goesOn) :
    C.state n ≠ .paused := by
  intro hp
  have hanswer : (C.situation n).runs.boundary = _ := (answers_of_does h).1
  rw [Control.boundary, show (C.situation n).runs.state = .paused from hp] at hanswer
  cases goesOn <;> exact nomatch hanswer

/-- Two calls for one errand, each of which carries on a run that nothing cancels while no pause is
left pending, return the same, and each of their lines does the same in the same order. However the
engine is paused and resumed, all other events of the run are published by the call, and no line
passes a step boundary while the engine is paused. -/
theorem pause_transparent (h : C.CarriesOn w names k token i m)
    (h' : C'.CarriesOn w names k token i' m') :
    (∃ N e, C.Returned i N e ∧ C'.Returned i' N e ∧
      ∀ t ≥ N, ∀ t' ≥ N, ∀ line, doneOn line (C.turns i t) = doneOn line (C'.turns i' t')) ∧
    (C'.FreshIds → ∀ t e, C'.Publishes t e → C'.Owns i' e.run →
      C'.Does i' t (.publish e) () ∨ e.IsOfPause) ∧
    ∀ t goesOn, C'.Does i' t .boundary goesOn → C'.state t ≠ .paused := by
  refine ⟨?_, ?_, fun _ _ => not_paused_of_boundary⟩
  · obtain ⟨N, x, P, v, f, s, p, hs, hserved, htoken, hx, hrest, he, hp⟩ := h.exists_settled
    obtain ⟨N', x', P', v', f', s', p', hs', hserved', htoken', hx', hrest', he', hp'⟩ :=
      h'.exists_settled
    obtain ⟨hjob, hended, hdone⟩ := hserved.congr hserved' (htoken.trans htoken'.symm)
    have hrecorded : C.recorded i f.time = C'.recorded i' f'.time := by
      rw [recorded_settling P hs, recorded_settling P' hs']
      have hrecords : [v].map Stroke.deed = [v'].map Stroke.deed := by
        simp [hs.records, hs'.records, hended]
      rw [doneOn_append, hdone, doneOn_congr hrecords, ← doneOn_append]
    obtain rfl : p = p' := by rw [hp, hp', hended, hrecorded]
    have hsettling : [v, f, s].map Stroke.deed = [v', f', s'].map Stroke.deed := by
      simp [hs.records, hs'.records, hs.finishes, hs'.finishes, hs.tells, hs'.tells, hended, hjob]
    refine ⟨max N N', _, he.of_le (by omega), ?_, fun t ht t' ht' line => ?_⟩
    · rw [hended, hjob]
      exact he'.of_le (by omega)
    · rw [turns_eq_of_atRest hx hrest (by omega : N ≤ t), turns_eq_of_atRest hx' hrest' (by omega),
        hs.turns_opening, hs'.turns_opening, doneOn_append line (P.opening ++ P.frame),
        doneOn_append line (P'.opening ++ P'.frame), hdone, doneOn_congr hsettling]
  · rintro hids t e (⟨j, hd⟩ | ⟨r, -, hr⟩) howns
    · exact .inl (owner_unique hids (owns_of_does hd) howns ▸ hd)
    · exact .inr (Control.told?_isOfPause hr)

/-! ### A run that is paused -/

/-- What the call is made for: a single action. -/
private def calmJob : Job := ⟨.named "job" [.ofAction .null], default, .ofNat 0⟩

/-- Every action gives nothing, no script is admitted, and nothing is registered. -/
private def calmHost : Collaborators :=
  ⟨fun _ => .ok .null, fun _ => .error .disabled, fun _ => none⟩

/-- The job is carried on to its end, with something else between the begin of the run and its step.
-/
private def interrupted (between : List Happening) : List Happening :=
  let job := calmJob
  let env := job.env.stamp job.identity
  let does (r : Request) (a : r.Answer) := Happening.turn 0 (.answer r a)
  [.call (.executeDefinition job.definition default), does .freshId job.run,
    does job.beginning (.ok 0 : Except ControlError Token), does (.publish job.started) (),
    does (.recordProgress 0 job.env) ()] ++ between ++
  [does .boundary true,
    does (.publish (.stepStarted job.run (Location.top 0).forEvents "action" "action")) (),
    does (.attempt ⟨.ofAction .null, ⟨job.identity, .stop, 0, 0⟩, .top 0, env⟩) (),
    does (.perform ⟨Template.resolveDeep env .null, none, job.run, .top 0⟩)
      (.ok .null : Except ActionError Value),
    does (.publish (.stepCompleted job.run (Location.top 0).forEvents "action" .null 0)) (),
    does (.recordEnvironment env) (), does (.finish .completed) (.completed, 0),
    does (.publish (.completed job.run 0 0 1 [StepRecord.toValue ⟨0, "action", .ok .null⟩])) ()]

private theorem stretch_interrupted {between : List Happening}
    (hb : between = [] ∨ between = [.control .pause, .control .resume]) :
    ∃ s e, Stretch .default .initial (interrupted between) s ∧ s.runs.state = .completed ∧
      s.calls[0]? = some (.line (.done e)) := by
  rcases hb with rfl | rfl
  · exact ⟨_, _, .cons (.call _ _) <| .cons (.turn rfl (.answer rfl)) <|
      .cons (.turn rfl (.answer ⟨rfl, rfl⟩)) <| .cons (.turn rfl (.answer rfl)) <|
      .cons (.turn rfl (.answer rfl)) <| .cons (.turn rfl (.answer ⟨rfl, rfl⟩)) <|
      .cons (.turn rfl (.answer rfl)) <| .cons (.turn rfl (.answer rfl)) <|
      .cons (.turn rfl (.answer rfl)) <| .cons (.turn rfl (.answer rfl)) <|
      .cons (.turn rfl (.answer rfl)) <| .cons (.turn rfl (.answer ⟨rfl, rfl⟩)) <|
      .cons (.turn rfl (.answer rfl)) <| .nil _, rfl, rfl⟩
  · exact ⟨_, _, .cons (.call _ _) <| .cons (.turn rfl (.answer rfl)) <|
      .cons (.turn rfl (.answer ⟨rfl, rfl⟩)) <| .cons (.turn rfl (.answer rfl)) <|
      .cons (.turn rfl (.answer rfl)) <| .cons (.control _ _) <| .cons (.control _ _) <|
      .cons (.turn rfl (.answer ⟨rfl, rfl⟩)) <|
      .cons (.turn rfl (.answer rfl)) <| .cons (.turn rfl (.answer rfl)) <|
      .cons (.turn rfl (.answer rfl)) <| .cons (.turn rfl (.answer rfl)) <|
      .cons (.turn rfl (.answer rfl)) <| .cons (.turn rfl (.answer ⟨rfl, rfl⟩)) <|
      .cons (.turn rfl (.answer rfl)) <| .nil _, rfl, rfl⟩

private theorem exists_interrupted {between : List Happening}
    (hb : between = [] ∨ between = [.control .pause, .control .resume]) :
    ∃ C : Course .default, (∀ n, C.happening n = (interrupted between)[n]?.getD .rest) ∧
      C.CarriesOn calmHost (fun _ _ => .ofNat 0)
        (.executeDefinition calmJob.definition default) 0 0 2 := by
  obtain ⟨s, e, p, hs, he⟩ := stretch_interrupted hb
  obtain ⟨C, hC, hrest⟩ := exists_resting_course p
  have hlength : (interrupted between).length ≤ 15 := by
    rcases hb with rfl | rfl <;> decide
  have hend : ∀ t ≥ 15, C.happening t = .rest ∧ C.situation t = s := fun t ht => hrest t (by omega)
  have hearly : ∀ {t}, C.happening t ≠ .rest → t < 15 := by
    intro t ht
    by_contra hlt
    exact ht (hend t (by omega)).1
  have hfirst : C.turns 0 1 = [] := by
    have hcall : ∀ d, C.happening 0 ≠ .turn 0 d := by
      intro d hd
      rw [hC] at hd
      cases hd
    rw [turns_idle hcall, turns]
  refine ⟨C, hC, ⟨0, hC 0, by rw [C.start]; rfl⟩, ⟨_, _, calmJob.env, _, hC 2, rfl⟩, ?_, ?_, ?_, ?_,
    ?_⟩
  · rintro j ⟨m, hm, ⟨_, _, _, _, d, hd, ha⟩, -⟩
    rw [hC] at hd
    interval_cases m <;> cases hd
    cases ha
  · rintro t - ⟨hw, -⟩
    have ht : t < 15 := hearly (by rw [hw]; rintro ⟨⟩)
    rw [hC] at hw
    rcases hb with rfl | rfl <;> interval_cases t <;> cases hw
  · intro t d hd
    have ht : t < 15 := hearly (by rw [hd]; rintro ⟨⟩)
    rw [hC] at hd
    rcases hb with rfl | rfl <;> interval_cases t <;> cases hd
    all_goals first
      | exact fun h => h.elim
      | exact fun _ => rfl
      | rw [hfirst]; exact fun _ => rfl
  · intro n h
    obtain ⟨t, ht, x, d, c, y, hx, u⟩ := h 15
    rw [strand?, (hend t ht).2, he] at hx
    cases hx
    cases u
  · intro n
    refine ⟨max n 15, by omega, ?_⟩
    rw [state, (hend _ (by omega)).2, hs]
    decide

/-- A run that is paused and resumed before its step comes to what it comes to otherwise. -/
theorem pause_transparent_interrupted : ∃ C C' : Course .default,
    (∀ t r, C.happening t ≠ .control r) ∧ C'.happening 5 = .control .pause ∧
      ∃ N e, C.Returned 0 N e ∧ C'.Returned 0 N e ∧
        ∀ t ≥ N, ∀ t' ≥ N, ∀ line, doneOn line (C.turns 0 t) = doneOn line (C'.turns 0 t') := by
  obtain ⟨C, hC, h⟩ := exists_interrupted (.inl rfl)
  obtain ⟨C', hC', h'⟩ := exists_interrupted (.inr rfl)
  refine ⟨C, C', fun t r hr => ?_, hC' 5, (pause_transparent h h').1⟩
  have ht : t < 13 := by
    by_contra ht
    rw [hC, List.getElem?_eq_none (Nat.not_lt.mp ht)] at hr
    cases hr
  rw [hC] at hr
  interval_cases t <;> cases hr

end Course

end Workflow

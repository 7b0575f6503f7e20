import Workflow.Proofs.Course.Identity
import Workflow.Proofs.Course.Nesting
import Workflow.Proofs.Opening.Step
import Workflow.Proofs.Opening.Strand

/-!
# The steps that events name

However a call is carried on, an event that tells that a step starts names a step of the definition
that runs under the identifier in the event: the path leads to the step, through the top-level step
whose index the event holds, and the check of the definition visits the step under the same path in
the document. If identifiers are given once only and nothing that runs other steps in its frame is
tried again, no two such events of a call name the same step: a step that is run anew, in another
iteration or another frame, has another path or another identifier.

## Main definitions

* `Workflow.Errand.foundOn` — the definition that is to run on a line.
* `Workflow.Course.RunsUnder` — a definition runs under an identifier.
* `Workflow.Course.Uses` — the definitions that a call may run.

## Main results

* `Workflow.Course.step_of_stepStarted` — an event names a step of the definition, and no other
  event names it again.
-/

namespace Workflow

variable {config : Config} {once : Prop}

/-! ### What a call may start -/

theorem opens_settle (run : RunId) (ended : FrameEnd) (g : Agenda) :
    (settle run ended).Opens config once g := by
  rw [settle_eq]
  refine ⟨trivial, fun _ _ => ⟨trivial, fun p _ => ⟨fun s hs => ?_, fun _ _ => trivial⟩⟩⟩
  exact nomatch (Event.phase?_of_isTerminal (ended.verdict_isTerminal run p)).symm.trans hs

/-- An execution starts the steps of the definition that it is for, under its identifier. -/
theorem opens_executeDefinition {definition : Definition} {g : Agenda}
    (hg : definition ∈ g.found) (hd : once → definition.IsSteady config) (options : RunOptions) :
    (executeDefinition config definition options).Opens config once g := by
  rw [executeDefinition_eq]
  refine ⟨trivial, fun run _ => ⟨trivial, fun a _ => ?_⟩⟩
  cases a with
  | error e => trivial
  | ok token =>
    refine ⟨nofun, fun _ _ => ?_⟩
    have hrun : run ∈ insert run g.known := Set.mem_insert run g.known
    refine Flow.Opens.bind_mute (opens_frame _ hd hrun fun o ho => ?_) (opens_settle run)
    exact ⟨.inr ⟨definition, hg, ho⟩, fun _ => nofun⟩

namespace Errand

/-- The definition that is called for, unless it is to be looked up. -/
def definition? : Errand → Option Definition
  | execute .. => none
  | executeDefinition definition _ => some definition

/-- What a call may start at first: nothing, until an identifier is given. -/
def ledger (k : Errand) : Ledger where
  known := ∅
  found
    | [] => k.definition?
    | _ => none
  openings := ∅

/-- The definition that is to run on a line of a call: the one that was looked up there, if nothing
was asked for since, or at first the one that is called for. -/
def foundOn (k : Errand) (line : Line) (l : List Stroke) : Option Definition :=
  (doneOn line l).foldl Deed.found? (k.ledger.found line)

variable {k : Errand}

theorem isSound_ledger : k.ledger.IsSound := fun _ ho => ho.elim

/-- A call starts steps of definitions that it is for or that are looked up. -/
theorem opens (hk : once → ∀ d ∈ k.definition?, d.IsSteady config) :
    (Strand.line (k.flow config)).Opens config once k.ledger := by
  refine ⟨?_, fun _ _ _ => rfl⟩
  cases k with
  | executeDefinition definition options =>
    exact opens_executeDefinition rfl (fun honce => hk honce definition rfl) options
  | execute id options =>
    rw [flow, execute_eq]
    refine ⟨trivial, fun found hfound => ?_⟩
    cases found with
    | none => trivial
    | some definition =>
      exact opens_executeDefinition rfl (fun honce => hfound honce definition rfl) options

end Errand

namespace Course

variable {C : Course config} {i n t t' : Nat} {run : RunId} {D D' : Definition} {e e' : Event}

/-! ### The definitions that run -/

/-- A definition runs, in a call or in a sub-workflow of it, under an identifier that was given by
then: it was to run on the line that asked for the identifier. -/
def RunsUnder (C : Course config) (i n : Nat) (run : RunId) (D : Definition) : Prop :=
  ∃ k t d, C.Called i k ∧ t < n ∧ C.happening t = .turn i d ∧ d.named? = some run ∧
    k.foundOn d.line (C.turns i t) = some D

/-- The call is for the definition, or looks it up. -/
def Uses (C : Course config) (i : Nat) (D : Definition) : Prop :=
  (∃ options, C.Called i (.executeDefinition D options)) ∨ ∃ t id, C.Does i t (.lookup id) (some D)

/-- If identifiers are given once only, one definition runs under an identifier. -/
theorem RunsUnder.unique (hfresh : C.FreshIds) (h : C.RunsUnder i n run D)
    (h' : C.RunsUnder i t' run D') : D = D' := by
  obtain ⟨k, t, d, hk, -, hd, hnamed, hfound⟩ := h
  obtain ⟨k', u, d', hk', -, hd', hnamed', hfound'⟩ := h'
  obtain ⟨-, rfl⟩ := hfresh i i t u run (does_of_named hd hnamed) (does_of_named hd' hnamed')
  obtain rfl := called_unique hk hk'
  obtain rfl : d = d' := (Happening.turn.inj (hd.symm.trans hd')).2
  exact Option.some.inj (hfound.symm.trans hfound')

/-! ### Ledgers of a call -/

/-- What a call is answered is to be reckoned with, and what it tells is on its ledger. -/
theorem exists_ledger (once : Prop) {r : Request} {a : r.Answer} (h : C.Does i t r a)
    (htn : t < n) (hfresh : once → C.FreshIds)
    (hsteady : once → ∀ D, C.Uses i D → D.IsSteady config) :
    ∃ k, C.Called i k ∧ k.ledger.Throughout once (Ledger.Reckons config once) (C.turns i n) ∧
      k.ledger.Throughout once Ledger.Allows (C.turns i n) := by
  obtain ⟨k, x, hk, hfollows⟩ := exists_follows_of_does h htn
  have hreckons : k.ledger.Throughout once (Ledger.Reckons config once) (C.turns i n) := by
    refine Ledger.throughout_of_split fun l₁ s l₂ hl r a hown => ?_
    have hs : s ∈ C.turns i n := hl ▸ List.mem_append_right l₁ List.mem_cons_self
    have hdoes : C.Does i s.time r a :=
      (does_of_mem_turns hs ((Deed.own_eq_answer_iff s.deed).mp hown)).2
    cases r with
    | freshId =>
      -- an identifier that is known was given in an earlier turn of the call
      intro honce hmem
      obtain hnone | ⟨s', hs', hnamed⟩ := (Ledger.mem_known_past k.ledger l₁).mp hmem
      · exact hnone
      · rw [← turns_of_append hl] at hs'
        obtain ⟨hlt, hd', -⟩ := (mem_turns s.time).mp hs'
        have hsame := hfresh honce i i _ _ a (does_of_named hd' hnamed) hdoes
        exact absurd hsame.2 (Nat.ne_of_lt hlt)
    | lookup id =>
      rintro honce D rfl
      exact hsteady honce D (.inr ⟨s.time, id, hdoes⟩)
    | _ => trivial
  refine ⟨k, hk, hreckons, (opens_follows hfollows (Errand.opens fun honce d hd => ?_)
    Errand.isSound_ledger hreckons).2⟩
  cases k with
  | execute => exact nomatch hd
  | executeDefinition definition options =>
    obtain rfl := Option.some.inj hd
    exact hsteady honce definition (.inl ⟨options, hk⟩)

/-- What tells that a step starts tells so of a step of a definition that runs. -/
theorem exists_opening_of_does (h : C.Does i t (.publish e) ()) {σ : Spot}
    (he : e.phase? = some (.starts, σ)) : ∃ (o : Opening) (D : Definition), e = o.event ∧
      C.RunsUnder i t o.run D ∧ D.Places o.location o.step := by
  obtain ⟨k, hk, -, hallows⟩ :=
    exists_ledger False h (Nat.lt_succ_self t) False.elim False.elim
  obtain ⟨s, hs, rfl, ha⟩ := mem_turns_of_does h (Nat.lt_succ_self t)
  obtain ⟨l₁, l₂, hl⟩ := List.append_of_mem hs
  rw [hl, Ledger.throughout_append] at hallows
  obtain ⟨o, ho, he⟩ := hallows.2.1 _ _ ((Deed.own_eq_answer_iff s.deed).mpr ha) σ he
  obtain hnone | ⟨m₁, s', m₂, D, hm, hnamed, hfound, hD⟩ := Ledger.exists_of_mem_past ho
  · exact hnone.elim
  -- the step came on the ledger with an identifier, before it started
  have hturns : C.turns i s.time = m₁ ++ s' :: m₂ := (turns_of_append hl).trans hm
  have hs' : s' ∈ C.turns i s.time := hturns ▸ List.mem_append_right m₁ List.mem_cons_self
  obtain ⟨hlt, hd', -⟩ := (mem_turns s.time).mp hs'
  rw [past_eq_foldl, ← turns_of_append hturns] at hfound
  exact ⟨o, D, he, ⟨k, s'.time, s'.deed, hk, hlt, hd', hnamed, hfound⟩, hD.2.1⟩

/-- A step that has started does not start again. -/
theorem phase?_ne_of_lt (hfresh : C.FreshIds) (hsteady : ∀ D, C.Uses i D → D.IsSteady config)
    (h : C.Does i t (.publish e) ()) (h' : C.Does i t' (.publish e') ()) (htt' : t < t') {σ : Spot}
    (he : e.phase? = some (.starts, σ)) : e'.phase? ≠ some (.starts, σ) := by
  obtain ⟨k, -, hreckons, hallows⟩ := exists_ledger True h' (Nat.lt_succ_self t')
    (fun _ => hfresh) fun _ => hsteady
  obtain ⟨s', hs', rfl, ha'⟩ := mem_turns_of_does h' (Nat.lt_succ_self t')
  obtain ⟨l₁, l₂, hl⟩ := List.append_of_mem hs'
  obtain ⟨s, hs, rfl, ha⟩ := mem_turns_of_does h htt'
  obtain ⟨m₁, m₂, hm⟩ := List.append_of_mem hs
  obtain rfl : l₁ = m₁ ++ s :: m₂ := (turns_of_append hl).symm.trans hm
  rw [List.append_assoc, List.cons_append] at hl
  exact phase?_ne_of_started trivial hl Errand.isSound_ledger hreckons hallows
    ((Deed.own_eq_answer_iff s.deed).mpr ha) he ((Deed.own_eq_answer_iff s'.deed).mpr ha')

/-- An event that tells that a step starts names, by its path, a step of the definition that runs
under the identifier in the event, with its label and its kind: the path leads to the step, its
first part is the index in the event, and with each iteration read as the body it is the path under
which the check of the definition, which reports the first fault that it visits, visits the step. If
identifiers are given once only and no definition that the call may run has steps that run others
and are tried again, no two such events of the call have the same identifier and path. -/
theorem step_of_stepStarted (C : Course config) (i : Nat) :
    (∀ t run place name kind, C.Does i t (.publish (.stepStarted run place name kind)) () →
      ∃ D location step, C.RunsUnder i t run D ∧
        (C.FreshIds → ∀ n D', C.RunsUnder i n run D' → D' = D) ∧
        (Text.allBlank D.name = false → D.invalid? = D.visits.findSome? Step.report?) ∧
        D.Places location step ∧ place = location.forEvents ∧ name = step.label ∧
          kind = step.kindName) ∧
    (C.FreshIds → (∀ D, C.Uses i D → D.IsSteady config) →
      ∀ t t' run place place' name name' kind kind',
        C.Does i t (.publish (.stepStarted run place name kind)) () →
        C.Does i t' (.publish (.stepStarted run place' name' kind')) () →
          place.path = place'.path → t = t') := by
  refine ⟨fun t run place name kind h => ?_, fun hfresh hsteady => ?_⟩
  · obtain ⟨o, D, he, hruns, hplaces⟩ := exists_opening_of_does h rfl
    obtain ⟨rfl, rfl, rfl, rfl⟩ := Event.stepStarted.inj he
    exact ⟨D, o.location, o.step, hruns, fun hfresh n D' h' => h'.unique hfresh hruns,
      hplaces.invalid?_eq, hplaces, rfl, rfl, rfl⟩
  · intro t t' run place place' name name' kind kind' h h' hpath
    have hspot : (⟨run, place'.path⟩ : Spot) = ⟨run, place.path⟩ := congrArg _ hpath.symm
    rcases Nat.lt_trichotomy t t' with hlt | heq | hlt
    · exact absurd (congrArg (fun σ => some (Phase.starts, σ)) hspot)
        (phase?_ne_of_lt hfresh hsteady h h' hlt rfl)
    · exact heq
    · exact absurd (congrArg (fun σ => some (Phase.starts, σ)) hspot.symm)
        (phase?_ne_of_lt hfresh hsteady h' h hlt rfl)

/-! ### An action that starts twice -/

/-- A loop of two iterations, with an action in its body. -/
private def twiceLoop : Step :=
  .loop Step.plain ⟨.forEach, some (.list [.null, .null]), none, none, none, none⟩ [.ofAction .null]

private def twiceJob : Job := ⟨.named "job" [twiceLoop], default, .ofNat 0⟩

/-- The place of the action in an iteration. -/
private def inIterationOf (n : Nat) : Location :=
  ((Location.top 0).child (.iteration n)).child (.step 0)

/-- The job is carried on until the action starts in the second iteration. -/
private def twice : List Happening :=
  let job := twiceJob
  let scope : Scope := ⟨job.identity, .stop, 0, 0⟩
  let outer := job.env.stamp job.identity
  let inner := ((outer.set defaultItemVariable .null).set Key.loopIndex (.ofNat 0)).stamp
    job.identity
  let does (r : Request) (a : r.Answer) := Happening.turn 0 (.answer r a)
  [.call (.executeDefinition job.definition default), does .freshId job.run,
    does job.beginning (.ok 0 : Except ControlError Token), does (.publish job.started) (),
    does (.recordProgress 0 job.env) (), does .boundary true,
    does (.publish (.stepStarted job.run (Location.top 0).forEvents "loop" "loop")) (),
    does (.attempt ⟨twiceLoop, scope, .top 0, outer⟩) (), does (.isCancelled 0) false,
    does .boundary true,
    does (.publish (.stepStarted job.run (inIterationOf 0).forEvents "action" "action")) (),
    does (.attempt ⟨.ofAction .null, scope, inIterationOf 0, inner⟩) (),
    does (.perform ⟨Template.resolveDeep inner .null, none, job.run, inIterationOf 0⟩)
      (.ok .null : Except ActionError Value),
    does (.publish (.stepCompleted job.run (inIterationOf 0).forEvents "action" .null 0)) (),
    does (.isCancelled 0) false, does .boundary true,
    does (.publish (.stepStarted job.run (inIterationOf 1).forEvents "action" "action")) ()]

private theorem stretch_twice : ∃ s, Stretch .default .initial twice s :=
  ⟨_, .cons (.call _ _) <| .cons (.turn rfl (.answer rfl)) <|
    .cons (.turn rfl (.answer ⟨rfl, rfl⟩)) <| .cons (.turn rfl (.answer rfl)) <|
    .cons (.turn rfl (.answer rfl)) <| .cons (.turn rfl (.answer ⟨rfl, rfl⟩)) <|
    .cons (.turn rfl (.answer rfl)) <| .cons (.turn rfl (.answer rfl)) <|
    .cons (.turn rfl (.answer ⟨rfl, rfl⟩)) <| .cons (.turn rfl (.answer ⟨rfl, rfl⟩)) <|
    .cons (.turn rfl (.answer rfl)) <| .cons (.turn rfl (.answer rfl)) <|
    .cons (.turn rfl (.answer rfl)) <| .cons (.turn rfl (.answer rfl)) <|
    .cons (.turn rfl (.answer ⟨rfl, rfl⟩)) <| .cons (.turn rfl (.answer ⟨rfl, rfl⟩)) <|
    .cons (.turn rfl (.answer rfl)) <| .nil _⟩

/-- Nothing in the definition of the job is tried again. -/
private theorem isSteady_twice : twiceJob.definition.IsSteady .default := by
  intro v hv _
  have hvisits : twiceJob.definition.visits = [([.step 0], twiceLoop),
    ([.step 0, .body, .step 0], .ofAction .null)] := rfl
  rw [hvisits] at hv
  rcases List.mem_pair.mp hv with rfl | rfl <;> rfl

private theorem exists_twice : ∃ C : Course .default, (∀ n, C.happening n = twice[n]?.getD .rest) ∧
    C.FreshIds ∧ ∀ D, C.Uses 0 D → D.IsSteady .default := by
  obtain ⟨s, p⟩ := stretch_twice
  obtain ⟨C, hC, hrest⟩ := exists_resting_course p
  refine ⟨C, hC, freshIds_of_forall (i := 0) (n := 1) ?_, ?_⟩
  · rintro i m run ⟨d, hd, ha⟩
    have hm : m < 17 := lt_of_happening hrest hd nofun
    rw [hC] at hd
    interval_cases m <;> cases hd <;> cases ha
    exact ⟨rfl, rfl⟩
  · rintro D (⟨options, hcalled⟩ | ⟨t, id, d, hd, ha⟩)
    · have hfirst : C.Called 0 (.executeDefinition twiceJob.definition default) :=
        ⟨0, hC 0, by rw [C.start]; rfl⟩
      obtain ⟨rfl, -⟩ := Errand.executeDefinition.inj (called_unique hcalled hfirst)
      exact isSteady_twice
    · have ht : t < 17 := lt_of_happening hrest hd nofun
      rw [hC] at hd
      interval_cases t <;> cases hd <;> cases ha

/-- An action starts in both iterations of a loop, each time with a path of its own that leads to a
step of the definition. -/
theorem step_of_stepStarted_twice : ∃ C : Course .default, ∃ place place' : EventPlace,
    C.Does 0 10 (.publish (.stepStarted twiceJob.run place "action" "action")) () ∧
    C.Does 0 16 (.publish (.stepStarted twiceJob.run place' "action" "action")) () ∧
    C.FreshIds ∧ (∀ D, C.Uses 0 D → D.IsSteady .default) ∧ place.path ≠ place'.path ∧
    ∃ D location step, C.RunsUnder 0 16 twiceJob.run D ∧
      (∀ n D', C.RunsUnder 0 n twiceJob.run D' → D' = D) ∧
      (Text.allBlank D.name = false → D.invalid? = D.visits.findSome? Step.report?) ∧
      D.Places location step ∧ place' = location.forEvents ∧ "action" = step.label ∧
        "action" = step.kindName := by
  obtain ⟨C, hC, hfresh, hsteady⟩ := exists_twice
  have h : C.Does 0 10 (.publish (.stepStarted twiceJob.run (inIterationOf 0).forEvents
    "action" "action")) () := ⟨_, hC 10, rfl⟩
  have h' : C.Does 0 16 (.publish (.stepStarted twiceJob.run (inIterationOf 1).forEvents
    "action" "action")) () := ⟨_, hC 16, rfl⟩
  obtain ⟨hplaces, honce⟩ := step_of_stepStarted C 0
  obtain ⟨D, location, step, hruns, hunique, hplace⟩ := hplaces 16 _ _ _ _ h'
  refine ⟨C, _, _, h, h', hfresh, hsteady, fun hpath => ?_, D, location, step, hruns,
    hunique hfresh, hplace⟩
  exact absurd (honce hfresh hsteady 10 16 _ _ _ _ _ _ _ h h' hpath) (by decide)

end Course

end Workflow

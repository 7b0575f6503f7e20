import Mathlib.Tactic.IntervalCases
import Workflow.Proofs.Course.Progress
import Workflow.Proofs.Course.Settlement
import Workflow.Proofs.Protocol.Identity
import Workflow.Proofs.Story.Call

/-!
# The identity of a run in its variables

However a call is carried on, the first attempt at every step of its run, in branches and
sub-workflows too, sees the identity of its frame, and what is tried again sees it unless the
attempt before may have left it forged. The variables that the call returns, and those that the
engine keeps from the end of the run on, hold the identity unless the frame of the run may have
ended with it forged: nothing writes it again after the last step.

## Main definitions

* `Workflow.lastRequest?` — what was asked for last.
* `Workflow.Course.MayForge` — the frame of a run may have ended with a key forged.

## Main results

* `Workflow.Passage.doneOn_settling` — a call settles its run in three steps on its own line.
* `Workflow.Course.identity_kept` — attempts see the identity, and the variables of a run keep it.
* `Workflow.Course.not_identity_kept` — a value that is stored last stays where it is stored.
-/

namespace Workflow

variable {config : Config}

/-! ### What was asked for last -/

/-- What is asked for on the line of a strand itself, if something is. -/
def Deed.request? : Deed → Option Request
  | .answer r _ => some r
  | _ => none

/-- What was asked for last. -/
def lastRequest? (l : List Deed) : Option Request := (l.filterMap Deed.request?).getLast?

/-- What is kept for a line depends on what was done there. -/
theorem past_eq_foldl {β : Type} (f : Lined β) (h : β → Deed → β) (l : List Stroke) (line : Line) :
    f.past h l line = (doneOn line l).foldl h (f line) := by
  induction l generalizing f with
  | nil => rfl
  | cons s l ih =>
    rw [Lined.past_cons, ih]
    rcases eq_or_ne s.deed.line line with rfl | hline
    · simp [doneOn, Lined.after_line]
    · simp [doneOn, hline, Lined.after, Lined.alter_of_ne _ _ _ hline.symm]

theorem foldl_identity (run : Identity) (key : String) (l : List Deed) :
    l.foldl (Protocol.identity run key).step none = lastRequest? l := by
  induction l using List.reverseRecOn with
  | nil => rfl
  | append_singleton l d ih =>
    rw [List.foldl_append, ih]
    cases d <;> simp [lastRequest?, Deed.request?, Protocol.step, Protocol.identity]

/-! ### The frame of a run -/

/-- What a call does before it asks to begin is done on its own line, and is no attempt. -/
private theorem not_attempt_of_prepared {pre : List Stroke} {job : Job} {k : Errand} {s : Stroke}
    (hp : Prepared pre job k) (hs : s ∈ pre) :
    s.deed.line = [] ∧ ∀ a, s.deed.own ≠ .answer (.attempt a) () := by
  rcases prepared_cases hp hs with hd | ⟨_, _, hd⟩
  · rw [hd]
    exact ⟨rfl, nofun⟩
  · rw [hd]
    exact ⟨rfl, nofun⟩

section

variable {key : String} (hkey : key ∈ Key.identity)

include hkey

/-- The frame of a run makes only attempts that see its identity, and leaves the identity in its
variables, unless it may be forged. -/
theorem tracks_identity_job (job : Job) (token : Token) (g : Option Request) :
    (job.frame config token).Tracks (.identity job.identity key)
      (fun ended _ => job.identity.Held key (ended.forged key job.definition.steps) ended.env)
      g := by
  have hscope : Scope.IsOf ⟨job.identity, job.definition.onError, token, 0⟩ job.identity :=
    ⟨rfl, fun _ => rfl⟩
  exact tracks_identity_frame hkey hscope config.maxDepth job.definition
    (Identity.held_stamp hkey _) g

/-- A call that asks to begin makes only attempts that see the identity of its run. -/
theorem tracks_identity_toBegin (job : Job) (g : Option Request) :
    (job.toBegin config).Tracks (.identity job.identity key) (fun _ _ => True) g := by
  refine ⟨trivial, fun a => ?_⟩
  cases a with
  | error e => trivial
  | ok token =>
    refine ⟨trivial, fun _ => Flow.Tracks.bind (fun ended _ _ => ?_) _
      (tracks_identity_job hkey job token _)⟩
    rw [settle_eq]
    exact ⟨trivial, fun _ => ⟨trivial, fun _ => ⟨trivial, fun _ => trivial⟩⟩⟩

/-- However far a call that has begun a run is carried on, its attempts see the identity of the
run. -/
theorem bears_follows {k : Errand} {l : List Stroke} {x : Strand RunEnd}
    (h : Follows (.line (k.flow config)) l x) (hb : ∃ s ∈ l, ∃ identity total env token,
      s.deed.answered? = some ⟨.begin identity total env, .ok token⟩) :
    ∃ job, (∃ b ∈ l, ∃ a, b.deed = .answer (Job.beginning job) a) ∧
      ∀ l₁ s l₂, l = l₁ ++ s :: l₂ → ∀ a, s.deed.own = .answer (.attempt a) () →
        a.scope.IsOf job.identity ∧ a.Bears (lastRequest? (doneOn s.deed.line l₁)) key := by
  obtain ⟨pre, rest, job, rfl, hp, hrest, b, hb, -⟩ := exists_prepared h hb
  refine ⟨job, ?_, fun l₁ s l₂ hl a ha => ?_⟩
  · cases rest with
    | nil => exact nomatch hb
    | cons s rest =>
      obtain ⟨a, ha, -⟩ := follows_line_cons_ask hrest not_false
      exact ⟨s, by simp, a, ha⟩
  let k := Protocol.identity job.identity key
  let last : Lined (Option Request) := Lined.past (fun _ => none) k.step pre
  have hfresh (j b : Nat) : k.Fresh (last.branch j b) := by
    have hline : ∀ s ∈ pre, s.deed.line = [] := fun s hs => (not_attempt_of_prepared hp hs).1
    exact congrFun (Lined.branch_past_of_nil hline)
  -- the attempt comes after what leads to the begin
  obtain ⟨r₁, rfl, hr⟩ : ∃ r₁, l₁ = pre ++ r₁ ∧ rest = r₁ ++ s :: l₂ := by
    rcases List.append_eq_append_iff.mp hl with ⟨r₁, rfl, hr⟩ | ⟨r₁, rfl, hr⟩
    · exact ⟨r₁, rfl, hr⟩
    · cases r₁ with
      | nil => exact ⟨[], by simp, hr.symm⟩
      | cons s' r₁ =>
        obtain ⟨rfl, -⟩ := List.cons.inj hr
        exact absurd ha ((not_attempt_of_prepared hp (by simp)).2 a)
  have hstart : (Strand.line (job.toBegin config)).Tracks k (fun _ _ => True) last :=
    ⟨tracks_identity_toBegin hkey job _, hfresh⟩
  have hasks := (tracks_follows hrest hstart).2 r₁ s l₂ hr (.attempt a) () ha
  rw [← Lined.past_append, past_eq_foldl, foldl_identity] at hasks
  exact hasks

/-- The variables with which the frame of a run has ended hold its identity, unless it may be
forged. -/
theorem Ran.held {k : Errand} {l : List Stroke} {b : Stroke} {job : Job} {token : Token}
    {ended : FrameEnd} (ran : Ran config k l b job token ended) :
    job.identity.Held key (ended.forged key job.definition.steps) ended.env := by
  obtain ⟨pre, st, τ, post, y, -, -, -, -, hy, he⟩ := ran
  have hkeeps : (job.frame config token).Keeps .free fun ended =>
      job.identity.Held key (ended.forged key job.definition.steps) ended.env :=
    Flow.Tracks.keeps _ (tracks_identity_job hkey job token none)
  have hended := keeps_ended y (keeps_follows hy
    (fun _ _ => Contract.reckons_of_cancels trivial _) hkeeps).1 he
  exact hended

end

/-! ### The end of a run -/

section

variable {k : Errand} {l : List Stroke} {x : Strand RunEnd} (P : Passage config k l x)

/-- A call settles its run on its own line in three steps, as far as it is carried on. -/
theorem Passage.doneOn_settling : ∃ p, doneOn [] P.settling <+:
    [.answer (.recordEnvironment P.ended.env) (), .answer (.finish P.ended.outcome) p,
      .answer (.publish (P.ended.verdict P.job.run p).1) ()] := by
  have hended : P.strand.ended? ≠ none := by
    rw [P.ends]
    exact Option.some_ne_none _
  have hsettles := P.settles
  rw [settle_eq] at hsettles
  rcases doneOn_ask hended hsettles not_false with hnil | ⟨y, l₁, _, hy, hl, hsettles⟩
  · exact ⟨default, hnil ▸ List.nil_prefix⟩
  rcases doneOn_ask hy hsettles not_false with hnil | ⟨y', l₂, p, hy', hl', hsettles⟩
  · refine ⟨default, ?_⟩
    rw [hl, hnil]
    exact List.prefix_append [_] _
  refine ⟨p, ?_⟩
  rcases doneOn_ask hy' hsettles not_false with hnil | ⟨y'', l₃, _, hy'', hl'', hsettles⟩
  · rw [hl, hl', hnil]
    exact List.prefix_append [_, _] _
  · rw [hl, hl', hl'', doneOn_done hy'' hsettles]

/-- Behind the frame of its run a call records the variables with which the frame has ended before
the run ends, and nothing else. -/
theorem Passage.environment_of_finish {o : RunState} {p : RunState × Nat}
    (h : .answer (.finish o) p ∈ doneOn [] P.settling) (progress : Progress) :
    ((doneOn [] l).foldl Progress.after progress).environment = P.ended.env.vars := by
  obtain ⟨p', hprefix⟩ := P.doneOn_settling
  have hl : doneOn [] l = doneOn [] (P.before ++ P.begin :: P.start :: P.frame) ++
      doneOn [] P.settling := by
    rw [← doneOn_append]
    exact congrArg (doneOn []) (P.turns.trans (by simp))
  rw [hl, List.foldl_append]
  -- the line has recorded the variables, and may have ended the run and told so
  rcases List.prefix_cons_iff.mp hprefix with hd | ⟨l₁, hd, hprefix₁⟩
  · exact nomatch hd ▸ h
  rw [hd]
  rcases List.prefix_cons_iff.mp hprefix₁ with rfl | ⟨l₂, rfl, hprefix₂⟩
  · rfl
  rcases List.prefix_cons_iff.mp hprefix₂ with rfl | ⟨l₃, rfl, hprefix₃⟩
  · rfl
  · obtain rfl := List.prefix_nil.mp hprefix₃
    rfl

end

namespace Course

variable {C : Course config} {i m n t : Nat} {identity : Identity} {total : Nat}
  {env : Environment} {token : Token}

/-- The frame of the run with an identity may have ended with a key of the identity forged. -/
def MayForge (C : Course config) (i : Nat) (identity : Identity) (key : String) : Prop :=
  ∃ k n b job token ended, C.Called i k ∧ Ran config k (C.turns i n) b job token ended ∧
    job.identity = identity ∧ ended.forged key job.definition.steps = true

/-- Where the key cannot be forged, the frame of the run has ended with it. -/
theorem get?_of_not_mayForge (hb : C.Does i m (.begin identity total env) (.ok token)) {k : Errand}
    {b : Stroke} {job : Job} {token' : Token} {ended : FrameEnd} (hk : C.Called i k)
    (ran : Ran config k (C.turns i n) b job token' ended) {key : String}
    (hkey : key ∈ Key.identity) (hforge : ¬ C.MayForge i identity key) :
    ended.env.get? key = identity.value? key := by
  obtain ⟨-, rfl, -⟩ := begin_unique hb ran.begun.1 ran.begun.2
  refine ran.held hkey (Bool.eq_false_iff.mpr fun hf => hforge ?_)
  exact ⟨k, n, b, job, token', ended, hk, ran, rfl, hf⟩

/-- Whenever a call that begins a run attempts a step, it sees the identity of the run. -/
theorem bears_of_attempt (hb : C.Does i m (.begin identity total env) (.ok token)) {d : Deed}
    (hd : C.happening t = .turn i d) {a : Attempt} (ha : d.own = .answer (.attempt a) ())
    {key : String} (hkey : key ∈ Key.identity) :
    a.scope.IsOf identity ∧ a.Bears (lastRequest? (doneOn d.line (C.turns i t))) key := by
  have hm : m < m + t + 1 := by omega
  obtain ⟨k, x, -, hfollows⟩ := exists_follows_of_does hb hm
  obtain ⟨b, hbl, -, hbd⟩ := mem_turns_of_does hb hm
  obtain ⟨job, ⟨b', hb', a', ha'⟩, hbears⟩ :=
    bears_follows hkey hfollows ⟨b, hbl, _, _, _, _, hbd⟩
  obtain ⟨-, rfl, -⟩ := begin_unique hb hb' ha'
  let s : Stroke := ⟨t, (C.situation t).runs, d⟩
  have hs : s ∈ C.turns i (m + t + 1) :=
    (mem_turns _).mpr ⟨show t < m + t + 1 by omega, hd, rfl⟩
  obtain ⟨l₁, l₂, hl⟩ := List.append_of_mem hs
  have hturns : C.turns i t = l₁ := turns_of_append hl
  rw [hturns]
  exact hbears l₁ s l₂ hl a ha

/-- The variables that the engine keeps, from the end of a run on, are those with which the frame of
the run has ended, as long as no other run is in flight. -/
theorem environment_of_finishes (hb : C.Begins i m) {o : RunState} {p : RunState × Nat}
    (hf : C.Does i t (.finish o) p) (htn : t < n) (alone : C.Alone i m n) :
    ∃ k b job token ended, C.Called i k ∧ Ran config k (C.turns i n) b job token ended ∧
      (C.situation n).runs.snapshot.environment = ended.env.vars := by
  obtain ⟨k, x, hk, hfollows⟩ := exists_follows_of_does hf htn
  obtain ⟨s, hs, rfl, hsa⟩ := mem_turns_of_does hf htn
  obtain ⟨l₀, rest, b, job, token, ended, hl, ran, -⟩ :=
    ran_of_finish (stage_follows hfollows) hs hsa
  have ran : Ran config k (C.turns i n) b job token ended := hl ▸ ran.append _
  obtain ⟨P, rfl, rfl⟩ := ran.exists_passage hfollows
  refine ⟨k, b, P.job, token, P.ended, hk, ran, ?_⟩
  have hmt : m < n := Nat.lt_trans (begins_lt_of_finishes hb ⟨_, _, hf⟩) htn
  have hmem : .answer (.finish o) p ∈ doneOn [] P.settling := by
    have hsettling : s ∈ P.settling := (P.mem_cases hs).resolve_left fun h => P.not_finish h hsa
    obtain ⟨-, hd, -⟩ := (mem_turns n).mp hs
    have hown : s.deed.own = .answer (.finish o) p := (Deed.own_eq_answer_iff _).mpr hsa
    exact mem_doneOn.mpr ⟨s, hsettling, line_of_happening hd hown trivial, hown⟩
  have hprogress := progress_eq hb hmt alone
  have hrecorded := P.environment_of_finish hmem Control.initial.progress
  exact (congrArg Progress.environment hprogress).trans hrecorded

/-- Every attempt that the call of a run makes sees a key of the identity of its frame, a first one
always and a later one unless the attempt before may have left it forged. The variables that the
call returns, and those that the engine keeps from the end of the run on while no other run is in
flight, hold the key as the run has it, unless its frame may have ended with it forged. -/
theorem identity_kept (C : Course config) {i m : Nat} {identity : Identity} {total : Nat}
    {env : Environment} {token : Token}
    (hb : C.Does i m (.begin identity total env) (.ok token)) {key : String}
    (hkey : key ∈ Key.identity) :
    (∀ t d a, C.happening t = .turn i d → d.own = .answer (.attempt a) () →
      a.scope.IsOf identity ∧ a.Bears (lastRequest? (doneOn d.line (C.turns i t))) key) ∧
    (¬ C.MayForge i identity key →
      (∀ n e, C.Returned i n e → ∃ result, e.result? = some result ∧
        Bindings.get? result.environment key = identity.value? key) ∧
      ∀ t o p n, C.Does i t (.finish o) p → t < n → C.Alone i m n →
        Bindings.get? (C.situation n).runs.snapshot.environment key = identity.value? key) := by
  have hbegins : C.Begins i m := ⟨_, _, _, _, hb⟩
  refine ⟨fun t d a hd ha => bears_of_attempt hb hd ha hkey, fun hforge => ⟨fun n e he => ?_, ?_⟩⟩
  · obtain ⟨_, _, ended, p, -, -, -, run, ⟨k, b, job, token', hk, -, ran⟩, -, rfl⟩ :=
      told_of_returned hbegins (lt_of_returned hbegins he) he
    exact ⟨_, FrameEnd.verdict_result run ended p, get?_of_not_mayForge hb hk ran hkey hforge⟩
  · intro t o p n hf htn alone
    obtain ⟨k, b, job, token', ended, hk, ran, henv⟩ := environment_of_finishes hbegins hf htn alone
    rw [henv]
    exact get?_of_not_mayForge hb hk ran hkey hforge

/-! ### A run that forges a key -/

/-- An action that stores its value as the identifier of the workflow. -/
private def forgingStep : Step := (Step.ofAction .null).output Key.workflow

private def forgingJob : Job := ⟨.named "job" [forgingStep], default, .ofNat 0⟩

/-- The action leaves the identifier of the run as it is. -/
private theorem forged_forgingStep (ended : FrameEnd) :
    ended.forged Key.execution [forgingStep] = false := by
  obtain ⟨record, _ | ⟨_ | index, e⟩, env⟩ := ended
  · rfl
  · cases e <;> rfl
  · have htake : [forgingStep].take (index + 1) = [forgingStep] := by simp
    cases e <;> simp only [FrameEnd.forged, FrameFailure.forged, htake] <;> rfl

/-- The value that the action stores. -/
private def forgedValue : Value := .text "other"

/-- The job is carried on to its end. -/
private def forging : List Happening :=
  let job := forgingJob
  let env := job.env.stamp job.identity
  let does (r : Request) (a : r.Answer) := Happening.turn 0 (.answer r a)
  [.call (.executeDefinition job.definition default), does .freshId job.run,
    does job.beginning (.ok 0 : Except ControlError Token), does (.publish job.started) (),
    does (.recordProgress 0 job.env) (), does .boundary true,
    does (.publish (.stepStarted job.run (Location.top 0).forEvents "action" "action")) (),
    does (.attempt ⟨forgingStep, ⟨job.identity, .stop, 0, 0⟩, .top 0, env⟩) (),
    does (.perform ⟨Template.resolveDeep env .null, none, job.run, .top 0⟩)
      (.ok forgedValue : Except ActionError Value),
    does (.publish (.stepCompleted job.run (Location.top 0).forEvents "action" forgedValue 0)) (),
    does (.recordEnvironment (env.set Key.workflow forgedValue)) (),
    does (.finish .completed) (.completed, 0),
    does (.publish (.completed job.run 0 0 1
      [StepRecord.toValue ⟨0, "action", .ok forgedValue⟩])) ()]

private theorem stretch_forging : ∃ s e result, Stretch .default .initial forging s ∧
    s.calls[0]? = some (.line (.done e)) ∧ e.result? = some result ∧
      result.environment = ((forgingJob.env.stamp forgingJob.identity).set Key.workflow
        forgedValue).vars :=
  ⟨_, _, _, .cons (.call _ _) <| .cons (.turn rfl (.answer rfl)) <|
    .cons (.turn rfl (.answer ⟨rfl, rfl⟩)) <| .cons (.turn rfl (.answer rfl)) <|
    .cons (.turn rfl (.answer rfl)) <| .cons (.turn rfl (.answer ⟨rfl, rfl⟩)) <|
    .cons (.turn rfl (.answer rfl)) <| .cons (.turn rfl (.answer rfl)) <|
    .cons (.turn rfl (.answer rfl)) <| .cons (.turn rfl (.answer rfl)) <|
    .cons (.turn rfl (.answer rfl)) <| .cons (.turn rfl (.answer ⟨rfl, rfl⟩)) <|
    .cons (.turn rfl (.answer rfl)) <| .nil _, rfl, rfl, rfl⟩

/-- The run begins and is carried on to its end, and the call returns what the action has stored. -/
private theorem exists_forging : ∃ C : Course .default, ∃ e result,
    (∀ n, C.happening n = forging[n]?.getD .rest) ∧
      C.Called 0 (.executeDefinition forgingJob.definition default) ∧ C.Returned 0 13 e ∧
        e.result? = some result ∧
          Bindings.get? result.environment Key.workflow = some forgedValue := by
  obtain ⟨s, e, result, p, he, hresult, henv⟩ := stretch_forging
  obtain ⟨C, hC, hrest⟩ := exists_resting_course p
  refine ⟨C, e, result, hC, ⟨0, hC 0, by rw [C.start]; rfl⟩, ⟨.line (.done e), ?_, rfl⟩, hresult,
    ?_⟩
  · rw [strand?, (hrest 13 (Nat.le_refl _)).2]
    exact he
  · rw [henv]
    exact Bindings.get?_set_self _ _ _

/-- The call attempts the action with the identity of the run, and the variables that it returns
hold the identifier of the run. -/
theorem identity_kept_forging : ∃ C : Course .default, ∃ identity total env a e result,
    C.Does 0 2 (.begin identity total env) (.ok 0) ∧
    C.happening 7 = .turn 0 (.answer (.attempt a) ()) ∧ a.scope.IsOf identity ∧
    a.Bears (lastRequest? (doneOn [] (C.turns 0 7))) Key.workflow ∧
    ¬ C.MayForge 0 identity Key.execution ∧ C.Returned 0 13 e ∧ e.result? = some result ∧
      Bindings.get? result.environment Key.execution = identity.value? Key.execution := by
  obtain ⟨C, e, result, hC, hcalled, he, hresult, -⟩ := exists_forging
  have hb : C.Does 0 2 forgingJob.beginning (.ok 0) := ⟨_, hC 2, rfl⟩
  have hforge : ¬ C.MayForge 0 forgingJob.identity Key.execution := by
    rintro ⟨k, n, b, job, token, ended, hk, ran, -, hforged⟩
    obtain rfl := called_unique hk hcalled
    obtain ⟨pre, st, τ, post, y, -, ⟨s, -, hd, -⟩, -⟩ := ran
    rw [hd] at hforged
    exact nomatch (forged_forgingStep ended).symm.trans hforged
  have hworkflow : Key.workflow ∈ Key.identity := by decide
  have hexecution : Key.execution ∈ Key.identity := by decide
  obtain ⟨hattempts, -⟩ := identity_kept C hb hworkflow
  obtain ⟨-, hkept⟩ := identity_kept C hb hexecution
  obtain ⟨result', hresult', hget⟩ := (hkept hforge).1 13 e he
  cases hresult.symm.trans hresult'
  obtain ⟨hscope, hbears⟩ := hattempts 7 _ _ (hC 7) rfl
  exact ⟨C, _, _, _, _, e, result, hb, hC 7, hscope, hbears, hforge, he, hresult, hget⟩

/-- A value that is stored last as part of the identity is returned in its place. -/
theorem not_identity_kept : ¬ ∀ (config : Config) (C : Course config) (i m n : Nat)
    (identity : Identity) (total : Nat) (env : Environment) (token : Token) (e : RunEnd)
    (result : RunResult), C.Does i m (.begin identity total env) (.ok token) → C.Returned i n e →
      e.result? = some result → ∀ key ∈ Key.identity,
        Bindings.get? result.environment key = identity.value? key := by
  intro h
  obtain ⟨C, e, result, hC, -, he, hresult, hget⟩ := exists_forging
  have hb : C.Does 0 2 forgingJob.beginning (.ok 0) := ⟨_, hC 2, rfl⟩
  have hkept := h _ C 0 2 13 _ _ _ _ e result hb he hresult Key.workflow (by decide)
  have hvalue : forgedValue = .text forgingJob.definition.id :=
    Option.some.inj (hget.symm.trans hkept)
  exact absurd (Value.text.inj hvalue) (by decide)

end Course

end Workflow

import Workflow.Proofs.Course.Identity
import Workflow.Proofs.Protocol.Tally

/-!
# The number of the iteration in the variables of a run

However a call is carried on, a step in the body of a loop is attempted in the iteration that its
path names, which is the one that the loop has begun last. The variables of the attempt show the
iteration that was begun last by any loop of its frame, on the line of the attempt. So they show the
iteration that the step stands in just if no other loop of the frame has begun one with another
number since: a loop before the step in the same body leaves the number of its own last iteration.

## Main definitions

* `Workflow.Tally.of` — the tally of a line on which something was done.

## Main results

* `Workflow.Course.loop_index_of_attempt` — which iteration the variables of an attempt show.
* `Workflow.Course.not_loop_index_kept` — a loop leaves its number to the steps behind it.
-/

namespace Workflow

variable {config : Config}

/-- Within the signed integers of 64 bits, no two numbers are the same value. -/
theorem Value.ofNat_inj {m n : Nat} (hm : m < 2 ^ 63) (hn : n < 2 ^ 63) :
    ofNat m = ofNat n ↔ m = n := by
  have hpow : Nat.pow 2 63 = 2 ^ 63 := rfl
  have hread (k : Nat) (hk : k < 2 ^ 63) : ofNat k = int (Int64.ofInt k) := by
    unfold ofNat ofInteger
    rw [hpow, if_pos (by omega)]
  have hwrite (k : Nat) (hk : k < 2 ^ 63) : (Int64.ofInt k).toInt = k :=
    Int64.toInt_ofInt_of_le (by omega) (by omega)
  refine ⟨fun h => ?_, congrArg ofNat⟩
  rw [hread m hm, hread n hn] at h
  have hint := congrArg Int64.toInt (Value.int.inj h)
  rw [hwrite m hm, hwrite n hn] at hint
  exact Int.ofNat.inj hint

/-! ### Calls -/

theorem tracks_tally_executeDefinition (definition : Definition) (options : RunOptions)
    (t : Tally) :
    (executeDefinition config definition options).Tracks .tally (fun _ _ => True) t := by
  rw [executeDefinition_eq]
  refine ⟨trivial, fun run => ⟨trivial, fun a => ?_⟩⟩
  cases a with
  | error e => trivial
  | ok token =>
    refine ⟨trivial, fun _ => Flow.Tracks.bind (fun ended _ _ => ?_) _
      (tracks_tally_frame config config.maxDepth definition _ _ _)⟩
    rw [settle_eq]
    exact ⟨trivial, fun _ => ⟨trivial, fun _ => ⟨trivial, fun _ => trivial⟩⟩⟩

/-- All attempts that a call makes are counted. -/
theorem tracks_tally_errand (k : Errand) (t : Tally) :
    (k.flow config).Tracks .tally (fun _ _ => True) t := by
  cases k with
  | executeDefinition definition options =>
    exact tracks_tally_executeDefinition definition options t
  | execute id options =>
    rw [Errand.flow, execute_eq]
    refine ⟨trivial, fun found => ?_⟩
    cases found with
    | none => trivial
    | some definition => exact tracks_tally_executeDefinition definition options _

/-! ### Tallies of lines -/

namespace Tally

/-- The tally of a line on which something was done. -/
def of (l : List Deed) : Tally := l.foldl Protocol.tally.step .blank

/-- As long as only loops write their key, that is known. -/
theorem spoilt_of {l : List Deed}
    (h : ∀ b, .answer (.attempt b) () ∈ l → b.step.writesIndex = false) :
    (of l).spoilt = false := by
  induction l using List.reverseRecOn with
  | nil => rfl
  | append_singleton l d ih =>
    have hl : (of l).spoilt = false := ih fun b hb => h b (List.mem_append_left _ hb)
    have hsame : of (l ++ [d]) = Protocol.tally.step (of l) d := List.foldl_append
    rw [hsame]
    cases d with
    | answer r x =>
      refine (spoilt_after (of l) r x).trans ?_
      rw [hl, Bool.false_or]
      cases r with
      | attempt b => exact h b (List.mem_append_right _ (List.mem_singleton_self _))
      | _ => rfl
    | _ => exact hl

end Tally

namespace Course

variable {C : Course config} {i t : Nat} {d : Deed} {a : Attempt}

/-- Whenever a call attempts a step, the attempt is counted by what was done on its line. -/
theorem isCounted_of_attempt (hd : C.happening t = .turn i d)
    (ha : d.own = .answer (.attempt a) ()) :
    a.IsCounted (.of (doneOn d.line (C.turns i t))) := by
  have hdoes : C.Does i t (.attempt a) () := ⟨d, hd, (Deed.own_eq_answer_iff d).mp ha⟩
  obtain ⟨k, x, -, hfollows⟩ := exists_follows_of_does hdoes (Nat.lt_succ_self t)
  have hstart : (Strand.line (k.flow config)).Tracks .tally (fun _ _ => True) fun _ => .blank :=
    ⟨tracks_tally_errand k .blank, fun _ _ _ => rfl⟩
  let s : Stroke := ⟨t, (C.situation t).runs, d⟩
  have hs : s ∈ C.turns i (t + 1) := (mem_turns _).mpr ⟨Nat.lt_succ_self t, hd, rfl⟩
  obtain ⟨l₁, l₂, hl⟩ := List.append_of_mem hs
  have hturns : C.turns i t = l₁ := turns_of_append hl
  have hasks := (tracks_follows hfollows hstart).2 l₁ s l₂ hl (.attempt a) () ha
  rw [past_eq_foldl] at hasks
  rw [hturns]
  exact hasks

/-- A step in the body of a loop is attempted in the iteration that the loop, which is attempted
around it, has begun last. As long as no step is attempted on the line that writes the key of the
loops itself, the key holds the number of the iteration that was begun last, on the line, by a loop
of the frame of the step: it is the number of the iteration that the step stands in just if that
loop was in an iteration with the same number. -/
theorem loop_index_of_attempt (C : Course config) {i t : Nat} {d : Deed} {a : Attempt}
    {p : Path} {n j : Nat} (hd : C.happening t = .turn i d)
    (ha : d.own = .answer (.attempt a) ())
    (hp : a.location.path = p ++ [.iteration n, .step j])
    (hown : ∀ b, .answer (.attempt b) () ∈ doneOn d.line (C.turns i t) →
      b.step.writesIndex = false) :
    ∃ outer k, (Tally.of (doneOn d.line (C.turns i t))).opened.head? = some (outer, n + 1) ∧
      a.StandsIn outer n j ∧
      (Tally.of (doneOn d.line (C.turns i t))).last a.scope.depth = some k ∧
      a.env.get? Key.loopIndex = some (.ofNat k) ∧
      (n < 2 ^ 63 → k < 2 ^ 63 → (a.env.get? Key.loopIndex = some (.ofNat n) ↔ k = n)) := by
  obtain ⟨⟨outer, hhead, hstands⟩, hindex⟩ := isCounted_of_attempt hd ha p n j hp
  obtain ⟨k, hlast, hget⟩ := hindex (Tally.spoilt_of hown)
  refine ⟨outer, k, hhead, hstands, hlast, hget, fun hn hk => ?_⟩
  rw [hget, Option.some.injEq]
  exact Value.ofNat_inj hk hn

/-! ### A loop within a loop -/

/-- A loop over some items. -/
private def loopOver (items : List Value) (body : List Step) : Step :=
  .loop Step.plain ⟨.forEach, some (.list items), none, none, none, none⟩ body

/-- A loop of two iterations without steps. -/
private def innerLoop : Step := loopOver [.null, .null] []

/-- A loop of one iteration, in which an action comes behind another loop. -/
private def outerLoop : Step := loopOver [.null] [innerLoop, .ofAction .null]

private def nestingJob : Job := ⟨.named "job" [outerLoop], default, .ofNat 0⟩

/-- The variables in an iteration for an item. -/
private def inIteration (env : Environment) (i : Nat) : Environment :=
  (env.set defaultItemVariable .null).set Key.loopIndex (.ofNat i)

/-- The variables with which the inner loop is attempted. -/
private def innerEnv : Environment :=
  (inIteration (nestingJob.env.stamp nestingJob.identity) 0).stamp nestingJob.identity

/-- The attempt at the action behind the inner loop. -/
private def behindInner : Attempt where
  step := .ofAction .null
  scope := ⟨nestingJob.identity, .stop, 0, 0⟩
  location := ((Location.top 0).child (.iteration 0)).child (.step 1)
  env := (inIteration (inIteration innerEnv 0) 1).stamp nestingJob.identity

/-- The job is carried on to that attempt. -/
private def nesting : List Happening :=
  let job := nestingJob
  let scope : Scope := ⟨job.identity, .stop, 0, 0⟩
  let inner := ((Location.top 0).child (.iteration 0)).child (.step 0)
  let does (r : Request) (a : r.Answer) := Happening.turn 0 (.answer r a)
  [.call (.executeDefinition job.definition default), does .freshId job.run,
    does job.beginning (.ok 0 : Except ControlError Token), does (.publish job.started) (),
    does (.recordProgress 0 job.env) (), does .boundary true,
    does (.publish (.stepStarted job.run (Location.top 0).forEvents "loop" "loop")) (),
    does (.attempt ⟨outerLoop, scope, .top 0, job.env.stamp job.identity⟩) (),
    does (.isCancelled 0) false, does .boundary true,
    does (.publish (.stepStarted job.run inner.forEvents "loop" "loop")) (),
    does (.attempt ⟨innerLoop, scope, inner, innerEnv⟩) (), does (.isCancelled 0) false,
    does (.isCancelled 0) false,
    does (.publish (.stepCompleted job.run inner.forEvents "loop"
      (loopResult .forEach [.list [], .list []] false) 0)) (),
    does .boundary true,
    does (.publish (.stepStarted job.run behindInner.location.forEvents "action" "action")) (),
    does (.attempt behindInner) ()]

private theorem stretch_nesting : ∃ s, Stretch .default .initial nesting s :=
  ⟨_, .cons (.call _ _) <| .cons (.turn rfl (.answer rfl)) <|
    .cons (.turn rfl (.answer ⟨rfl, rfl⟩)) <| .cons (.turn rfl (.answer rfl)) <|
    .cons (.turn rfl (.answer rfl)) <| .cons (.turn rfl (.answer ⟨rfl, rfl⟩)) <|
    .cons (.turn rfl (.answer rfl)) <| .cons (.turn rfl (.answer rfl)) <|
    .cons (.turn rfl (.answer ⟨rfl, rfl⟩)) <| .cons (.turn rfl (.answer ⟨rfl, rfl⟩)) <|
    .cons (.turn rfl (.answer rfl)) <| .cons (.turn rfl (.answer rfl)) <|
    .cons (.turn rfl (.answer ⟨rfl, rfl⟩)) <| .cons (.turn rfl (.answer ⟨rfl, rfl⟩)) <|
    .cons (.turn rfl (.answer rfl)) <| .cons (.turn rfl (.answer ⟨rfl, rfl⟩)) <|
    .cons (.turn rfl (.answer rfl)) <| .cons (.turn rfl (.answer rfl)) <| .nil _⟩

private theorem exists_nesting : ∃ C : Course .default,
    C.Called 0 (.executeDefinition nestingJob.definition default) ∧
      C.happening 17 = .turn 0 (.answer (.attempt behindInner) ()) ∧
        ∀ t i d b, C.happening t = .turn i d → d.own = .answer (.attempt b) () →
          b.step.writesIndex = false := by
  obtain ⟨s, p⟩ := stretch_nesting
  obtain ⟨C, hC, hrest⟩ := exists_resting_course p
  refine ⟨C, ⟨0, hC 0, by rw [C.start]; rfl⟩, hC 17, fun t i d b hd hb => ?_⟩
  have ht : t < 18 := lt_of_happening hrest hd nofun
  rw [hC] at hd
  interval_cases t <;> cases hd <;> cases hb <;> rfl

/-- The action behind the inner loop is attempted in the first iteration of the outer loop, and its
variables show some iteration that was begun before it. -/
theorem loop_index_behindInner : ∃ C : Course .default, ∃ a : Attempt,
    C.happening 17 = .turn 0 (.answer (.attempt a) ()) ∧
    a.location.path = [.step 0] ++ [.iteration 0, .step 1] ∧
    (∀ b, .answer (.attempt b) () ∈ doneOn [] (C.turns 0 17) → b.step.writesIndex = false) ∧
    ∃ outer k, (Tally.of (doneOn [] (C.turns 0 17))).opened.head? = some (outer, 1) ∧
      a.StandsIn outer 0 1 ∧ (Tally.of (doneOn [] (C.turns 0 17))).last 0 = some k ∧
      a.env.get? Key.loopIndex = some (.ofNat k) ∧
      (0 < 2 ^ 63 → k < 2 ^ 63 → (a.env.get? Key.loopIndex = some (.ofNat 0) ↔ k = 0)) := by
  obtain ⟨C, -, hturn, hattempts⟩ := exists_nesting
  have hown : ∀ b, .answer (.attempt b) () ∈ doneOn [] (C.turns 0 17) →
      b.step.writesIndex = false := by
    intro b hb
    obtain ⟨s, hs, -, hsown⟩ := mem_doneOn.mp hb
    obtain ⟨-, hd, -⟩ := (mem_turns 17).mp hs
    exact hattempts s.time 0 s.deed b hd hsown
  exact ⟨C, behindInner, hturn, rfl, hown,
    loop_index_of_attempt C (p := [.step 0]) (n := 0) (j := 1) hturn rfl rfl hown⟩

/-- The step is no script, and it names the key of the loops neither for its value nor for its
items. -/
def NamesNoIndex (step : Step) : Prop :=
  step.writesIndex = false ∧
    ∀ info spec body, step = .loop info spec body → spec.itemVariable ≠ some Key.loopIndex

/-- Though no step of a definition names the key of the loops, a step in the body of a loop need not
see the number of its iteration, for a loop before it in the body leaves its own. -/
theorem not_loop_index_kept : ¬ ∀ (config : Config) (C : Course config) (i t : Nat) (d : Deed)
    (a : Attempt) (p : Path) (n j : Nat) (definition : Definition) (options : RunOptions),
    C.Called i (.executeDefinition definition options) →
    Step.EveryOf NamesNoIndex definition.steps → C.happening t = .turn i d →
    d.own = .answer (.attempt a) () → a.location.path = p ++ [.iteration n, .step j] →
      a.env.get? Key.loopIndex = some (.ofNat n) := by
  intro h
  obtain ⟨C, hcalled, hturn, -⟩ := exists_nesting
  have hloop (items : List Value) (body : List Step) : NamesNoIndex (loopOver items body) := by
    refine ⟨rfl, ?_⟩
    rintro _ _ _ ⟨⟩
    exact nofun
  have haction : NamesNoIndex (.ofAction .null) := by
    refine ⟨rfl, ?_⟩
    rintro _ _ _ ⟨⟩
  have hnames : Step.EveryOf NamesNoIndex nestingJob.definition.steps :=
    ⟨⟨hloop _ _, ⟨hloop _ _, trivial⟩, haction, trivial⟩, trivial⟩
  have hshown := h _ C 0 17 _ behindInner [.step 0] 0 1 _ _ hcalled hnames hturn rfl rfl
  have hleft : behindInner.env.get? Key.loopIndex = some (.ofNat 1) := rfl
  have hsame := Option.some.inj (hleft.symm.trans hshown)
  exact absurd ((Value.ofNat_inj (by decide) (by decide)).mp hsame) (by decide)

end Course

end Workflow

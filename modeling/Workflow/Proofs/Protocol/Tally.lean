import Workflow.Proofs.Protocol.Identity

/-!
# Which iteration the variables show

All loops of a frame write the number of an iteration to one key, when the iteration begins. A tally
counts, on a line, the iterations that were begun in each of the attempts that go on there, and
keeps for every depth the number of the iteration that was begun last by a loop of a frame of that
depth. That is what the key holds, as long as nothing but loops writes it: not the number of the
iteration that a step stands in, if a loop before it in the same body has begun an iteration since.

## Main definitions

* `Workflow.Tally`, `Workflow.Protocol.tally` — the iterations that were begun on a line.
* `Workflow.Attempt.StandsIn` — an attempt at a step of the body of a loop.
* `Workflow.Tally.Stands` — what is open, and what the variables show.
* `Workflow.Exec.Counts` — flows that lead from one condition on variables and tallies to another.

## Main results

* `Workflow.restores_runStep` — a step leaves open what was open, and the variables show what they
  should.
* `Workflow.tracks_tally_frame` — so does a frame, beside the attempts around it.
-/

namespace Workflow

open Exec

/-! ### Tallies -/

namespace Step

def isLoop : Step → Bool
  | loop _ _ _ => true
  | _ => false

def isScript : Step → Bool
  | script _ _ _ => true
  | _ => false

/-- The step may write the key of the loops beside the loops themselves: its value is stored there,
or it is a script. -/
def writesIndex (step : Step) : Bool := step.stores Key.loopIndex || step.isScript

end Step

/-- An attempt is asked for, at a step that may write the key of the loops. -/
def Request.spoils : Request → Bool
  | attempt a => a.step.writesIndex
  | _ => false

/-- The event follows an attempt: the next one is about to be made, or the step is done. -/
def Event.endsAttempt : Event → Bool
  | stepCompleted .. => true
  | stepFailed .. => true
  | retrying .. => true
  | _ => false

/-- The iterations that were begun on a line. -/
structure Tally where
  /-- The attempts that go on, the innermost first, each with the iterations begun in it. -/
  opened : List (Attempt × Nat)
  /-- For every depth the number of the iteration that was begun last. -/
  last : Nat → Option Nat
  /-- A step was attempted that may write the key of the loops itself. -/
  spoilt : Bool

namespace Tally

def blank : Tally := ⟨[], fun _ => none, false⟩

def attempt (t : Tally) (a : Attempt) : Tally :=
  { t with opened := (a, 0) :: t.opened, spoilt := t.spoilt || a.step.writesIndex }

/-- An iteration is begun in the innermost attempt, if that is at a loop. -/
def iterate (t : Tally) : Tally :=
  match t.opened with
  | (a, n) :: rest =>
    if a.step.isLoop then
      { t with opened := (a, n + 1) :: rest, last := Function.update t.last a.scope.depth (some n) }
    else t
  | [] => t

def close (t : Tally) : Tally := { t with opened := t.opened.tail }

/-- The tally after a request: a loop begins an iteration when it finds its run not cancelled. -/
def after (t : Tally) : (r : Request) → r.Answer → Tally
  | .attempt a, _ => t.attempt a
  | .isCancelled _, false => t.iterate
  | .publish e, _ => if e.endsAttempt then t.close else t
  | _, _ => t

/-- The variables show the iteration that was begun last by a frame of a depth. -/
def Shows (t : Tally) (depth : Nat) (env : Environment) : Prop :=
  ∃ k, t.last depth = some k ∧ env.get? Key.loopIndex = some (.ofNat k)

/-- Only an attempt at a step that may write the key of the loops is known to. -/
theorem spoilt_after (t : Tally) (r : Request) (a : r.Answer) :
    (t.after r a).spoilt = (t.spoilt || r.spoils) := by
  have hiterate : t.iterate.spoilt = t.spoilt := by
    unfold iterate
    split
    · split <;> rfl
    · rfl
  cases r with
  | attempt a' => rfl
  | isCancelled =>
    cases a with
    | true => exact (Bool.or_false _).symm
    | false => exact hiterate.trans (Bool.or_false _).symm
  | publish e =>
    refine Eq.trans ?_ (Bool.or_false _).symm
    simp only [after]
    split <;> rfl
  | _ => exact (Bool.or_false _).symm

theorem spoilt_after_of_spoilt {t : Tally} (h : t.spoilt = true) (r : Request) (a : r.Answer) :
    (t.after r a).spoilt = true := by
  rw [spoilt_after, h, Bool.true_or]

end Tally

/-! ### Attempts in the bodies of loops -/

/-- The attempt is at a step of the body of the loop that the outer one is at, in an iteration. -/
structure Attempt.StandsIn (a outer : Attempt) (n j : Nat) : Prop where
  path : a.location.path = outer.location.path ++ [.iteration n, .step j]
  scope : a.scope = outer.scope
  step : ∃ info spec body, outer.step = .loop info spec body ∧ body[j]? = some a.step

/-- An attempt in an iteration stands in the body of the loop that is attempted innermost, which has
begun that iteration last, and its variables show the iteration that the frame has begun last. -/
def Attempt.IsCounted (a : Attempt) (t : Tally) : Prop :=
  ∀ p n j, a.location.path = p ++ [.iteration n, .step j] →
    (∃ outer, t.opened.head? = some (outer, n + 1) ∧ a.StandsIn outer n j) ∧
      (t.spoilt = false → t.Shows a.scope.depth a.env)

/-- The attempts on a line are counted by its tally. -/
def Protocol.tally : Protocol Tally where
  start := .blank
  asks
    | t, .attempt a => a.IsCounted t
    | _, _ => True
  after := Tally.after

/-! ### Flows that lead from one condition to another -/

namespace Exec

variable {α β : Type} {P Q R S : Environment → Tally → Prop}

/-- From variables and a tally of a kind on the flow makes attempts that are counted, and unless it
is cancelled it comes to variables and a tally of another kind. -/
def Counts (P Q : Environment → Tally → Prop) (x : Exec α) : Prop :=
  ∀ env t, P env t →
    (x.run.run env).Tracks .tally (fun p t' => p.1 ≠ .error .cancelled → Q p.2 t') t

theorem Counts.mono {x : Exec α} (h : x.Counts S Q) (hP : ∀ env t, P env t → S env t)
    (hQ : ∀ env t, Q env t → R env t) : x.Counts P R :=
  fun env t hpre => (h env t (hP env t hpre)).mono fun _ _ hpost hne => hQ _ _ (hpost hne)

theorem counts_pure (a : α) : Counts P P (pure a) := fun _ _ hpre _ => hpre

theorem counts_throw (e : StepError) : Counts P P (throw e : Exec α) := fun _ _ hpre _ => hpre

theorem counts_cancelled : Counts P Q (throw .cancelled : Exec α) :=
  fun _ _ _ hne => absurd rfl hne

theorem counts_bind {x : Exec α} {f : α → Exec β} (hx : x.Counts P Q)
    (hf : ∀ a, (f a).Counts Q R) (herr : ∀ env t, Q env t → R env t) : (x >>= f).Counts P R := by
  intro env t hpre
  refine Flow.Tracks.bind ?_ (x.run.run env) (hx env t hpre)
  rintro ⟨e | a, env'⟩ t' hp
  · intro hne
    exact herr env' t' (hp fun he => hne (congrArg Except.error (Except.error.inj he)))
  · exact hf a env' t' (hp nofun)

theorem counts_map {x : Exec α} (f : α → β) (hx : x.Counts P Q) : (f <$> x).Counts P Q :=
  counts_bind hx (fun a => counts_pure (f a)) fun _ _ h => h

theorem counts_get_bind {f : Environment → Exec β} (hf : ∀ env, (f env).Counts P Q) :
    (get >>= f).Counts P Q := fun env => hf env env

theorem counts_modify_bind {f : Environment → Environment} {x : Unit → Exec β}
    (h : ∀ env t, P env t → S (f env) t) (hx : (x ()).Counts S Q) : (modify f >>= x).Counts P Q :=
  fun env t hpre => hx (f env) t (h env t hpre)

theorem counts_request_bind {r : Request} {f : r.Answer → Exec β}
    (hr : ∀ env t, P env t → Protocol.tally.asks t r)
    (h : ∀ a env t, P env t → S env (t.after r a)) (hf : ∀ a, (f a).Counts S Q) :
    (request r >>= f).Counts P Q :=
  fun env t hpre => ⟨hr env t hpre, fun a => hf a env _ (h a env t hpre)⟩

theorem counts_orCancelled (goesOn : Bool) : (orCancelled goesOn).Counts P P := by
  cases goesOn with
  | true => exact counts_pure ()
  | false => exact counts_cancelled

end Exec

/-- What is asked for neither is an attempt nor changes a tally, however it is answered. -/
def Request.IsStill : Request → Prop
  | boundary => True
  | perform _ => True
  | evaluate _ => True
  | sleep _ _ => True
  | lookup _ => True
  | freshId => True
  | _ => False

theorem counts_still_bind {α : Type} {P Q : Environment → Tally → Prop} {r : Request}
    {f : r.Answer → Exec α} (hf : ∀ a, (f a).Counts P Q) (hr : r.IsStill) :
    (request r >>= f).Counts P Q := by
  refine counts_request_bind (S := P) (fun _ _ _ => ?_) (fun a _ _ h => ?_) hf
  · cases r <;> trivial
  · cases r <;> first | exact h | exact hr.elim

/-! ### What is open, and what the variables show -/

/-- Some attempts go on, nothing is known to have been begun below a depth but what is said, and in
an iteration of a frame of that depth the variables show the one that was begun last. -/
structure Tally.Stands (opened : List (Attempt × Nat)) (below : Nat → Option Nat) (depth : Nat)
    (inside : Prop) (env : Environment) (t : Tally) : Prop where
  opened : t.opened = opened
  below : ∀ d < depth, t.last d = below d
  index : inside → t.spoilt = false → t.Shows depth env

namespace Tally.Stands

variable {opened : List (Attempt × Nat)} {below : Nat → Option Nat} {depth : Nat} {inside : Prop}
  {env : Environment} {t : Tally}

theorem set (h : t.Stands opened below depth inside env) {key : String} (v : Value)
    (hkey : t.spoilt = false → key ≠ Key.loopIndex) :
    t.Stands opened below depth inside (env.set key v) where
  opened := h.opened
  below := h.below
  index hin hs := by
    obtain ⟨k, hk, hget⟩ := h.index hin hs
    exact ⟨k, hk, (Bindings.get?_set_of_ne env.vars v (hkey hs).symm).trans hget⟩

theorem stamp (h : t.Stands opened below depth inside env) (identity : Identity) :
    t.Stands opened below depth inside (env.stamp identity) :=
  ((h.set _ fun _ => by decide).set _ fun _ => by decide).set _ fun _ => by decide

end Tally.Stands

/-- The flow leaves open what was open around it, and in an iteration its variables show what they
should. -/
def Exec.Restores {α : Type} (scope : Scope) (opened : List (Attempt × Nat))
    (below : Nat → Option Nat) (inside : Prop) (x : Exec α) : Prop :=
  x.Counts (fun env t => t.Stands opened below scope.depth inside env)
    fun env t => t.Stands opened below scope.depth inside env

section Steps

variable {config : Config} {runner : Option FrameRunner} {scope : Scope} {location : Location}
  {opened : List (Attempt × Nat)} {below : Nat → Option Nat} {inside : Prop}
  {P : Environment → Tally → Prop}

/-! ### Attempts -/

section Enter

variable {step : Step} {dispatch : Exec Value}
  (ha : ∀ env (t : Tally), t.Stands opened below scope.depth inside env →
    Attempt.IsCounted ⟨step, scope, location, env⟩ t)
  (h : ∀ start, dispatch.Counts
    (fun env t => (step.writesIndex = true → t.spoilt = true) ∧
      t.Stands ((⟨step, scope, location, start⟩, 0) :: opened) below scope.depth inside env)
    fun env t => ∃ n,
      t.Stands ((⟨step, scope, location, start⟩, n) :: opened) below scope.depth inside env)

/-- An attempt was made inside of others, and no event has told yet that it is over. -/
private def Made (step : Step) (scope : Scope) (opened : List (Attempt × Nat))
    (below : Nat → Option Nat) (inside : Prop) (env : Environment) (t : Tally) : Prop :=
  (step.writesIndex = true → t.spoilt = true) ∧
    ∃ b, t.Stands (b :: opened) below scope.depth inside env

/-- An event that ends the attempt leaves the others open. -/
private theorem Made.close {env : Environment} {t : Tally}
    (h : Made step scope opened below inside env t) :
    t.close.Stands opened below scope.depth inside env := by
  obtain ⟨-, b, hopened, hbelow, hindex⟩ := h
  exact ⟨congrArg List.tail hopened, hbelow, hindex⟩

/-- Whatever is stored, the variables show what they should, or the step was known to write it. -/
private theorem Made.store {env : Environment} {t : Tally}
    (h : Made step scope opened below inside env t) (v : Value) :
    Made step scope opened below inside (step.info.store v env) t := by
  unfold StepInfo.store
  split
  · next key hkey =>
    obtain ⟨hspoilt, b, hstands⟩ := h
    refine ⟨hspoilt, b, hstands.set v fun hs hsame => ?_⟩
    have hwrites : step.writesIndex = true := by
      simp [Step.writesIndex, Step.stores, hkey, hsame]
    rw [hspoilt hwrites] at hs
    cases hs
  · exact h

include ha h

private theorem counts_marked :
    Exec.Counts (fun env t => t.Stands opened below scope.depth inside env)
      (Made step scope opened below inside) (step.marked scope location dispatch) := by
  intro env t hstands
  refine ⟨ha env t hstands, fun _ => ?_⟩
  have hspoilt : step.writesIndex = true →
      (t.attempt ⟨step, scope, location, env⟩).spoilt = true := Bool.or_inr
  have hbegun : (t.attempt ⟨step, scope, location, env⟩).Stands
      ((⟨step, scope, location, env⟩, 0) :: opened) below scope.depth inside env :=
    { opened := congrArg (_ :: ·) hstands.opened
      below := hstands.below
      index := fun hin hs => hstands.index hin (Bool.or_eq_false_iff.mp hs).1 }
  refine Flow.Tracks.mono ?_ _ (Flow.Tracks.stays
    (G := fun t => step.writesIndex = true → t.spoilt = true)
    (fun _ r a hs hw => Tally.spoilt_after_of_spoilt (hs hw) r a) _ hspoilt
    (h env env _ ⟨hspoilt, hbegun⟩))
  rintro p t' ⟨hpost, hs⟩ hne
  obtain ⟨n, hn⟩ := hpost hne
  exact ⟨hs, _, hn⟩

/-- A failed attempt is over when it is told that another is about to be made. -/
private theorem counts_attemptsFrom (schedule : RetrySchedule) : (remaining done : Nat) →
    Exec.Counts (fun env t => t.Stands opened below scope.depth inside env)
      (Made step scope opened below inside)
      (attemptsFrom scope location schedule (step.marked scope location dispatch) remaining done)
  | 0, _ => counts_marked ha h
  | remaining + 1, done => by
    intro env t hstands
    rw [attemptsFrom, run_observe_bind]
    refine Flow.Tracks.bind ?_ _ (counts_marked ha h env t hstands)
    rintro ⟨e | v, env'⟩ t' hmade
    · dsimp only
      split
      · next hallows =>
        have hne : e ≠ .cancelled := by
          rintro rfl
          cases hallows
        have hclosed := (hmade fun he => hne (Except.error.inj he)).close
        refine ⟨trivial, fun _ => ⟨trivial, fun slept => ?_⟩⟩
        cases slept with
        | false => exact fun hne => absurd rfl hne
        | true => exact counts_attemptsFrom schedule remaining (done + 1) env' _ hclosed
      · exact fun hne => hmade fun he => hne (congrArg Except.error (Except.error.inj he))
    · exact fun _ => hmade (by rintro ⟨⟩)

/-- What surrounds the attempts at a step leaves open what was open before. -/
theorem restores_enter :
    (enter config step scope location dispatch).Restores scope opened below inside := by
  have hattempts (schedule : Option RetrySchedule) :
      Exec.Counts (fun env t => t.Stands opened below scope.depth inside env)
        (Made step scope opened below inside)
        (attempts scope location schedule (step.marked scope location dispatch)) := by
    cases schedule with
    | none => exact counts_marked ha h
    | some schedule => exact counts_attemptsFrom ha h schedule _ 0
  intro env t hstands
  rw [run_enter]
  refine ⟨trivial, fun goesOn => ?_⟩
  cases goesOn with
  | false => exact fun hne => absurd rfl hne
  | true =>
    refine ⟨trivial, fun _ =>
      Flow.Tracks.bind ?_ _ (hattempts _ _ _ (hstands.stamp scope.identity))⟩
    rintro ⟨e | v, env'⟩ t' hmade
    · cases e with
      | cancelled => exact fun hne => absurd rfl hne
      | _ => exact ⟨trivial, fun _ _ => (hmade nofun).close⟩
    · exact ⟨trivial, fun _ _ => ((hmade nofun).store v).close⟩

end Enter

/-! ### Kinds of steps -/

theorem counts_performAction (payload : Value) :
    (performAction payload scope location).Counts P P := by
  refine counts_get_bind fun env => counts_still_bind (fun r => ?_) trivial
  cases r with
  | ok v => exact counts_pure v
  | error e => exact counts_throw _

theorem counts_waitFor (duration : Value) : (waitFor duration scope).Counts P P := by
  refine counts_get_bind fun env => ?_
  dsimp only
  split
  · exact counts_throw _
  · exact counts_still_bind (fun slept => counts_bind (counts_orCancelled slept)
      (fun _ => counts_pure _) fun _ _ h => h) trivial

theorem counts_holds (c : Condition) : (holds c).Counts P P := by
  refine counts_get_bind fun env => ?_
  split
  · exact counts_pure _
  · exact counts_throw _

theorem counts_loopItems (items : Option Value) : (loopItems items).Counts P P := by
  refine counts_get_bind fun env => ?_
  split
  · exact counts_pure _
  · exact counts_pure _
  · split
    · exact counts_pure _
    · exact counts_throw _
  · exact counts_throw _

/-! ### Loops -/

section Loops

variable {a : Attempt} (hloop : a.step.isLoop = true) (hscope : a.scope = scope)
  {body : Nat → Exec (List Value)}
  (h : ∀ i, (body i).Counts
    (fun env t => t.Stands ((a, i + 1) :: opened) below scope.depth True env)
    fun env t => t.Stands ((a, i + 1) :: opened) below scope.depth True env)

include hloop hscope h

/-- What begins an iteration is counted, and its variables show it. -/
theorem counts_iteration (prepare : Environment → Environment) (i : Nat) :
    (iteration scope prepare body i).Counts
      (fun env t => t.Stands ((a, i) :: opened) below scope.depth inside env)
      fun env t => t.Stands ((a, i + 1) :: opened) below scope.depth inside env := by
  intro env t hstands
  refine ⟨trivial, fun cancelled => ?_⟩
  cases cancelled with
  | true => exact fun hne => absurd rfl hne
  | false =>
    have hiterate : t.iterate = ⟨(a, i + 1) :: opened,
        Function.update t.last scope.depth (some i), t.spoilt⟩ := by
      rw [Tally.iterate, hstands.opened]
      simp [hloop, hscope]
    have hbegun : t.iterate.Stands ((a, i + 1) :: opened) below scope.depth True
        ((prepare env).set Key.loopIndex (.ofNat i)) := by
      rw [hiterate]
      refine ⟨rfl, fun d hd => ?_, fun _ _ => ⟨i, ?_, Bindings.get?_set_self _ _ _⟩⟩
      · exact (Function.update_of_ne (Nat.ne_of_lt hd) _ _).trans (hstands.below d hd)
      · exact Function.update_self _ _ _
    refine Flow.Tracks.bind ?_ ((body i).run.run _) (h i _ _ hbegun)
    rintro ⟨e | vs, env'⟩ t' hp
    · intro hne
      obtain ⟨hopened, hbelow, hindex⟩ :=
        hp fun he => hne (congrArg Except.error (Except.error.inj he))
      exact ⟨hopened, hbelow, fun _ => hindex trivial⟩
    · intro _
      obtain ⟨hopened, hbelow, hindex⟩ := hp nofun
      exact ⟨hopened, hbelow, fun _ => hindex trivial⟩

theorem counts_forItems (key : String) : (items : List Value) → (i : Nat) → (acc : List Value) →
    (forItems scope key body items i acc).Counts
      (fun env t => t.Stands ((a, i) :: opened) below scope.depth inside env)
      fun env t => ∃ n, t.Stands ((a, n) :: opened) below scope.depth inside env
  | [], i, _ => fun _ _ hstands _ => ⟨i, hstands⟩
  | _ :: rest, i, _ => counts_bind (counts_iteration hloop hscope h _ i)
    (fun _ => counts_forItems key rest (i + 1) _) fun _ _ hstands => ⟨i + 1, hstands⟩

theorem counts_forTimes : (remaining i : Nat) → (acc : List Value) →
    (forTimes scope body remaining i acc).Counts
      (fun env t => t.Stands ((a, i) :: opened) below scope.depth inside env)
      fun env t => ∃ n, t.Stands ((a, n) :: opened) below scope.depth inside env
  | 0, i, _ => fun _ _ hstands _ => ⟨i, hstands⟩
  | remaining + 1, i, _ => counts_bind (counts_iteration hloop hscope h _ i)
    (fun _ => counts_forTimes remaining (i + 1) _) fun _ _ hstands => ⟨i + 1, hstands⟩

theorem counts_whileHolds (test : Condition) : (remaining i : Nat) → (acc : List Value) →
    (whileHolds scope (holds test) body remaining i acc).Counts
      (fun env t => t.Stands ((a, i) :: opened) below scope.depth inside env)
      fun env t => ∃ n, t.Stands ((a, n) :: opened) below scope.depth inside env
  | 0, i, _ => (counts_bind (counts_holds test) (fun _ => counts_pure _) fun _ _ hstands =>
      hstands).mono (fun _ _ hstands => hstands) fun _ _ hstands => ⟨i, hstands⟩
  | remaining + 1, i, _ => by
    refine counts_bind (counts_holds test) (fun met => ?_) fun _ _ hstands => ⟨i, hstands⟩
    cases met with
    | true =>
      rw [if_pos rfl]
      exact counts_bind (counts_iteration hloop hscope h _ i)
        (fun _ => counts_whileHolds test remaining (i + 1) _) fun _ _ hstands => ⟨i + 1, hstands⟩
    | false => exact fun _ _ hstands _ => ⟨i, hstands⟩

/-- A loop begins its iterations one after another and leaves the attempts around it open. -/
theorem counts_loopResults (spec : LoopSpec) : (loopResults config spec scope body).Counts
    (fun env t => t.Stands ((a, 0) :: opened) below scope.depth inside env)
    fun env t => ∃ n, t.Stands ((a, n) :: opened) below scope.depth inside env := by
  unfold loopResults
  cases spec.kind with
  | forEach =>
    exact counts_bind (counts_loopItems _) (fun items => counts_bind
      (counts_forItems hloop hscope h _ _ 0 []) (fun _ => counts_pure _) fun _ _ he => he)
      fun _ _ hstands => ⟨0, hstands⟩
  | whileTrue =>
    dsimp only
    split
    · exact fun _ _ hstands _ => ⟨0, hstands⟩
    · exact counts_whileHolds hloop hscope h _ _ 0 []
  | times =>
    refine counts_get_bind fun env => ?_
    dsimp only
    split
    · exact fun _ _ hstands _ => ⟨0, hstands⟩
    · exact counts_bind (counts_forTimes hloop hscope h _ 0 []) (fun _ => counts_pure _)
        fun _ _ he => he

end Loops

/-! ### Branches, scripts and sub-workflows -/

/-- Branches count for themselves. -/
theorem counts_runBranches {branches : List (Flow BranchResult)}
    (h : ∀ x ∈ branches, x.Tracks .tally (fun _ _ => True) .blank) :
    (runBranches scope branches).Counts P P := by
  refine fun env t hpre => ⟨fun b => h _ (List.get_mem branches b), fun ends => ?_⟩
  cases ends with
  | none => exact fun hne => absurd rfl hne
  | some ends => exact fun _ => hpre

/-- Whatever a script writes, it was known before that it might write the key of the loops. -/
theorem counts_evaluateScript {a : Attempt} (hloop : a.step.isLoop = false) (source : String)
    (timeout : Option UInt64) : (evaluateScript config source timeout scope location).Counts
      (fun env t => t.spoilt = true ∧ t.Stands ((a, 0) :: opened) below scope.depth inside env)
      fun env t => t.Stands ((a, 0) :: opened) below scope.depth inside env := by
  refine counts_get_bind fun env => counts_still_bind (fun r => ?_) trivial
  cases r with
  | ok outcome =>
    refine counts_modify_bind ?_ (counts_pure _)
    rintro env t ⟨hspoilt, hstands⟩
    exact ⟨hstands.opened, hstands.below, fun _ hs => nomatch hspoilt.symm.trans hs⟩
  | error e =>
    dsimp only
    split
    · refine counts_request_bind (fun _ _ _ => trivial) ?_ fun stopped => counts_throw _
      rintro cancelled env t ⟨-, hstands⟩
      cases cancelled with
      | true => exact hstands
      | false =>
        have hsame : t.after (.isCancelled scope.token) false = t := by
          simp [Tally.after, Tally.iterate, hstands.opened, hloop]
        exact hsame.symm ▸ hstands
    · exact (counts_throw _).mono (fun _ _ h => h) fun _ _ h => h.2

/-- The frames of sub-workflows that steps of a scope call make attempts that are counted, and
unless they are cancelled they leave open what was open, and as begun what was begun, down to the
depth of the scope. -/
def Scope.Tallies (scope : Scope) (runner : Option FrameRunner) : Prop :=
  ∀ run ∈ runner, ∀ (definition : Definition) (id : RunId) (env : Environment) (t : Tally),
    (run definition (scope.child definition id) env).Tracks .tally
      (fun ended t' => ended.failure.map FrameFailure.error ≠ some .cancelled →
        t'.Stands t.opened t.last (scope.depth + 1) False ended.env) t

theorem counts_subWorkflowId (workflowId : Value) : (subWorkflowId workflowId).Counts P P := by
  refine counts_get_bind fun env => ?_
  split
  · exact counts_throw _
  · exact counts_pure _

/-- What is begun in the frame of a sub-workflow is begun further down. -/
theorem restores_callWorkflow (hr : scope.Tallies runner) (workflowId : Value)
    (vars : Bindings Value) :
    (callWorkflow config runner workflowId vars scope).Restores scope opened below inside := by
  refine counts_bind (counts_subWorkflowId workflowId) (fun id =>
    counts_still_bind (fun found => ?_) trivial) fun _ _ h => h
  cases found with
  | none => exact counts_throw _
  | some definition =>
    cases runner with
    | none => exact counts_throw _
    | some run =>
      refine counts_get_bind fun parent => counts_still_bind (fun runId => ?_) trivial
      intro env t hstands
      rw [run_lift_bind]
      let start : Environment := (Environment.seed definition.vars (Template.resolveFields parent
        vars)).stamp ⟨definition.id, runId, scope.identity.target⟩
      refine Flow.Tracks.bind ?_ _ (Flow.Tracks.stays
        (G := fun t' => t.spoilt = true → t'.spoilt = true)
        (fun _ r a hs ht => Tally.spoilt_after_of_spoilt (hs ht) r a) _ (fun ht => ht)
        (hr run rfl definition runId start t))
      rintro ended t' ⟨hended, hspoilt⟩
      have hkept (hne : ended.failure.map FrameFailure.error ≠ some .cancelled) :
          t'.Stands opened below scope.depth inside env := by
        obtain ⟨hopened, hlast, -⟩ := hended hne
        refine ⟨hopened.trans hstands.opened, fun d hd => ?_, fun hin hs => ?_⟩
        · exact (hlast d (Nat.lt_succ_of_lt hd)).trans (hstands.below d hd)
        · have hbefore : t.spoilt = false :=
            Bool.eq_false_iff.mpr fun ht => nomatch (hspoilt ht).symm.trans hs
          obtain ⟨k, hk, hget⟩ := hstands.index hin hbefore
          exact ⟨k, (hlast _ (Nat.lt_succ_self _)).trans hk, hget⟩
      have hsummary (hne : ended.failure.map FrameFailure.error ≠ some .cancelled) :
          t'.Stands opened below scope.depth inside (env.set Key.subWorkflowResult
            (subWorkflowSummary id runId ended)) :=
        (hkept hne).set _ fun _ => by decide
      obtain ⟨record, failure, env'⟩ := ended
      rcases failure with _ | ⟨index, e⟩
      · exact fun _ => hsummary nofun
      · cases e with
        | cancelled => exact fun hne => absurd rfl hne
        | _ => exact fun _ => hsummary nofun

/-! ### Steps and lists -/

/-- If a list of steps is run in an iteration, it is what is left, from an index on, of the body of
the loop that is attempted innermost, and that has begun this iteration last. -/
def Scope.Lists (scope : Scope) (location : Location) (opened : List (Attempt × Nat))
    (inside : Prop) (i : Nat) (steps : List Step) : Prop :=
  ∀ p n, location.path = p ++ [.iteration n] → inside ∧ ∃ outer info spec body,
    opened.head? = some (outer, n + 1) ∧ outer.location.path = p ∧ outer.scope = scope ∧
      outer.step = .loop info spec body ∧ body.drop i = steps

/-- A list that is not run in an iteration. -/
theorem lists_of_ne {location : Location} {s : Segment} (hs : ∀ n, s ≠ .iteration n)
    (steps : List Step) : scope.Lists (location.child s) opened inside 0 steps := by
  intro p n hpath
  exact absurd (List.singleton_inj.mp (List.append_inj' hpath rfl).2) (hs n)

/-- The body of a loop in an iteration that the loop has begun. -/
theorem lists_body {a : Attempt} {info : StepInfo} {spec : LoopSpec} {body : List Step}
    (hstep : a.step = .loop info spec body) (i : Nat) :
    a.scope.Lists (a.location.child (.iteration i)) ((a, i + 1) :: opened) True 0 body := by
  intro p n hpath
  obtain ⟨hp, hi⟩ := List.append_inj' hpath rfl
  obtain ⟨rfl⟩ := List.singleton_inj.mp hi
  exact ⟨trivial, a, info, spec, body, rfl, hp, rfl, hstep, rfl⟩

section

variable {i : Nat} {step : Step} {rest : List Step}
  (h : scope.Lists location opened inside i (step :: rest))

include h

theorem Scope.Lists.tail : scope.Lists location opened inside (i + 1) rest := by
  intro p n hpath
  obtain ⟨hin, outer, info, spec, body, hhead, hp, hs, hstep, hdrop⟩ := h p n hpath
  refine ⟨hin, outer, info, spec, body, hhead, hp, hs, hstep, ?_⟩
  rw [← List.tail_drop, hdrop]
  rfl

/-- The attempts at the steps of the list are counted. -/
theorem Scope.Lists.isCounted {env : Environment} {t : Tally}
    (hstands : t.Stands opened below scope.depth inside env) :
    Attempt.IsCounted ⟨step, scope, location.child (.step i), env⟩ t := by
  intro p n j hpath
  obtain ⟨hlist, hi⟩ : location.path = p ++ [.iteration n] ∧ i = j := by
    have hsplit : location.path ++ [.step i] = (p ++ [.iteration n]) ++ [.step j] := by
      simpa [Location.child] using hpath
    obtain ⟨hp, hj⟩ := List.append_inj' hsplit rfl
    exact ⟨hp, Segment.step.inj (List.singleton_inj.mp hj)⟩
  subst hi
  obtain ⟨hin, outer, info, spec, body, hhead, hp, hs, hstep, hdrop⟩ := h p n hlist
  refine ⟨⟨outer, hstands.opened ▸ hhead, ?_, hs.symm, info, spec, body, hstep, ?_⟩,
    hstands.index hin⟩
  · change location.path ++ [.step i] = _
    rw [hlist, hp, List.append_assoc]
    rfl
  · have hget : (body.drop i)[0]? = some step := by
      rw [hdrop]
      rfl
    rwa [List.getElem?_drop] at hget

end

mutual

/-- An attempt leaves open what was open around it, with the iterations that it has begun. -/
theorem counts_dispatch (hr : scope.Tallies runner) : (location : Location) → (step : Step) →
    (opened : List (Attempt × Nat)) → (below : Nat → Option Nat) → (inside : Prop) →
      (start : Environment) → (dispatch config runner scope location step).Counts
        (fun env t => (step.writesIndex = true → t.spoilt = true) ∧
          t.Stands ((⟨step, scope, location, start⟩, 0) :: opened) below scope.depth inside env)
        fun env t => ∃ n,
          t.Stands ((⟨step, scope, location, start⟩, n) :: opened) below scope.depth inside env
  | _, .action _ payload, _, _, _, _ =>
    (counts_performAction payload).mono (fun _ _ h => h.2) fun _ _ h => ⟨0, h⟩
  | location, .condition info test whenTrue whenFalse, opened, below, inside, start => by
    refine Exec.Counts.mono (counts_bind (counts_holds test) (fun met => ?_) fun _ _ h => h)
      (fun _ _ h => h.2) fun _ _ h => ⟨0, h⟩
    cases met with
    | true => exact counts_map _ (restores_runItems hr (location.child .whenTrue) 0 [] whenTrue _
        below inside (lists_of_ne (by rintro _ ⟨⟩) _))
    | false => exact counts_map _ (restores_runItems hr (location.child .whenFalse) 0 [] whenFalse _
        below inside (lists_of_ne (by rintro _ ⟨⟩) _))
  | location, .loop info spec body, opened, below, inside, start => by
    let a : Attempt := ⟨.loop info spec body, scope, location, start⟩
    have hbody (i : Nat) := restores_runItems hr (location.child (.iteration i)) 0 [] body
      ((a, i + 1) :: opened) below True (lists_body (a := a) rfl i)
    exact Exec.Counts.mono (counts_bind (counts_loopResults rfl rfl hbody spec)
      (fun _ => counts_pure _) fun _ _ h => h) (fun _ _ h => h.2) fun _ _ h => h
  | _, .wait _ duration, _, _, _, _ =>
    (counts_waitFor duration).mono (fun _ _ h => h.2) fun _ _ h => ⟨0, h⟩
  | location, .parallel _ branches, _, _, _, _ => by
    refine Exec.Counts.mono (counts_get_bind fun env => counts_runBranches ?_) (fun _ _ h => h.2)
      fun _ _ h => ⟨0, h⟩
    exact tracks_tally_branches hr location 0 env branches
  | _, .subWorkflow _ workflowId vars, _, _, _, _ =>
    (restores_callWorkflow hr workflowId vars).mono (fun _ _ h => h.2) fun _ _ h => ⟨0, h⟩
  | _, .script info source timeout, _, _, _, _ => by
    refine Exec.Counts.mono (counts_evaluateScript rfl source timeout) (fun _ _ h => ⟨h.1 ?_, h.2⟩)
      fun _ _ h => ⟨0, h⟩
    exact Bool.or_inr rfl

/-- A list of steps leaves open what was open. -/
theorem restores_runItems (hr : scope.Tallies runner) : (location : Location) → (i : Nat) →
    (acc : List Value) → (steps : List Step) → (opened : List (Attempt × Nat)) →
      (below : Nat → Option Nat) → (inside : Prop) →
        scope.Lists location opened inside i steps →
          (runItems config runner scope location i acc steps).Restores scope opened below inside
  | _, _, _, [], _, _, _, _ => counts_pure _
  | location, i, acc, step :: rest, opened, below, inside, hl => by
    have hstep : (runStep config runner step scope (location.child (.step i))).Restores scope opened
        below inside :=
      restores_enter (fun _ _ => hl.isCounted)
        (counts_dispatch hr (location.child (.step i)) step opened below inside)
    have hrest (acc : List Value) :=
      restores_runItems hr location (i + 1) acc rest opened below inside hl.tail
    intro env t hstands
    rw [runItems, run_observe_bind]
    refine Flow.Tracks.bind ?_ _ (hstep env t hstands)
    rintro ⟨e | v, env'⟩ t' hp
    · cases e with
      | cancelled => exact fun hne => absurd rfl hne
      | _ =>
        dsimp only
        split
        · exact fun _ => hp nofun
        · exact hrest _ env' t' (hp nofun)
    · exact hrest _ env' t' (hp nofun)

/-- Branches count for themselves. -/
theorem tracks_tally_branches (hr : scope.Tallies runner) (location : Location) (b : Nat)
    (env : Environment) : (branches : List (List Step)) →
      ∀ x ∈ branchFlows config runner scope location b env branches,
        x.Tracks .tally (fun _ _ => True) .blank
  | [], _, hx => nomatch hx
  | steps :: rest, x, hx => by
    rcases List.mem_cons.mp hx with rfl | hx
    · have hitems := restores_runItems hr (location.child (.branch b)) 0 [] steps [] (fun _ => none)
        False (lists_of_ne (by rintro _ ⟨⟩) _) (env.forkBranch b) .blank
        ⟨rfl, fun _ _ => rfl, False.elim⟩
      refine Flow.Tracks.bind (fun _ _ _ => ?_) _ hitems
      exact trivial
    · exact tracks_tally_branches hr location (b + 1) env rest x hx

end

/-- A top-level step leaves open what was open. -/
theorem restores_runStep (hr : scope.Tallies runner) (step : Step) (i : Nat) :
    (runStep config runner step scope (.top i)).Restores scope opened below inside := by
  refine restores_enter (fun env t _ p n j hpath => ?_)
    (counts_dispatch hr (.top i) step opened below inside)
  have hlength := congrArg List.length hpath
  simp [Location.top] at hlength

/-! ### Frames -/

/-- The steps of a frame, from one on, leave open what was open. -/
private theorem tracks_tally_frameFrom (hr : scope.Tallies runner) : (steps : List Step) →
    (index : Nat) → (record : RunRecord) → (env : Environment) → (t : Tally) →
      t.Stands opened below scope.depth inside env →
        ((frameFrom config runner scope index record steps).run env).Tracks .tally
          (fun p t' => p.1.2.map FrameFailure.error ≠ some .cancelled →
            t'.Stands opened below scope.depth inside p.2) t
  | [], _, _, _, _, hstands => fun _ => hstands
  | step :: rest, index, record, env, t, hstands => by
    have hnext (record : RunRecord) (env : Environment) (t : Tally)
        (h : t.Stands opened below scope.depth inside env) :=
      tracks_tally_frameFrom hr rest (index + 1) record env t h
    unfold frameFrom
    dsimp only
    split
    case' isTrue => refine ⟨trivial, fun _ => ?_⟩
    all_goals
      refine Flow.Tracks.bind ?_ ((runStep config runner step scope (.top index)).run.run env)
        (restores_runStep hr step index env _ hstands)
      rintro ⟨e | v, env'⟩ t' hp
      · cases e with
        | cancelled => exact fun hne => absurd rfl hne
        | _ =>
          generalize scope.onError = policy
          cases policy with
          | stop => exact fun _ => hp nofun
          | «continue» => exact hnext _ env' t' (hp nofun)
      · exact hnext _ env' t' (hp nofun)

/-- A frame leaves open what was open around it. -/
theorem tracks_tally_runFrame (hr : scope.Tallies runner) (definition : Definition)
    {env : Environment} {t : Tally} (hstands : t.Stands opened below scope.depth inside env) :
    (runFrame config runner definition scope env).Tracks .tally
      (fun ended t' => ended.failure.map FrameFailure.error ≠ some .cancelled →
        t'.Stands opened below scope.depth inside ended.env) t :=
  Flow.Tracks.bind (fun _ _ h => h) _
    (tracks_tally_frameFrom hr definition.steps 0 _ env t hstands)

theorem tallies_within : (depths : Nat) → (scope : Scope) →
    scope.Tallies (runnerWithin config depths)
  | 0, _ => fun _ hrun => nomatch hrun
  | depths + 1, scope => by
    rintro run ⟨⟩ definition id env t
    rw [frameWithin_eq]
    exact tracks_tally_runFrame (tallies_within depths (scope.child definition id)) definition
      ⟨rfl, fun _ _ => rfl, False.elim⟩

end Steps

/-- All attempts that a frame makes, at whatever depth, are counted. -/
theorem tracks_tally_frame (config : Config) (depths : Nat) (definition : Definition)
    (scope : Scope) (env : Environment) (t : Tally) :
    (frameWithin config depths definition scope env).Tracks .tally (fun _ _ => True) t := by
  have hstands : t.Stands t.opened t.last scope.depth False env :=
    ⟨rfl, fun _ _ => rfl, False.elim⟩
  rw [frameWithin_eq]
  exact Flow.Tracks.mono (fun _ _ _ => trivial) _
    (tracks_tally_runFrame (tallies_within depths scope) definition hstands)

end Workflow

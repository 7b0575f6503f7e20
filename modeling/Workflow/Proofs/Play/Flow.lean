import Workflow.Proofs.Contract.Step

/-!
# Flows played in worlds

A world answers what is asked for on a line and says how the branches of a fork have ended, and what
it says may depend on all that was exchanged on the line before. Played in a world, a flow comes to
one result; the exchanges that lead there are added behind those before.

A flow with variables is played from a juncture to a juncture. In a world without cancellation it
fails for other reasons only, if it keeps the contract of a frame.

## Main definitions

* `Workflow.Exchange`, `Workflow.World` — what is exchanged on a line, and with whom.
* `Workflow.Flow.play` — what a flow comes to in a world.
* `Workflow.Juncture`, `Workflow.Exec.play` — the same of flows with variables.
* `Workflow.World.Uncancelled` — worlds without cancellation.

## Main results

* `Workflow.Flow.play_bind`, `Workflow.Exec.play_bind` — one flow after another.
* `Workflow.Flow.Keeps.play` — what a flow comes to by contract it comes to in every world.
* `Workflow.Exec.past_play_append` — nothing that was exchanged is forgotten.
-/

namespace Workflow

/-- What was asked for and what was answered, or how many branches were waited for and how they have
ended. -/
inductive Exchange where
  | answered (r : Request) (a : r.Answer)
  | joined (token : Token) (n : Nat) (ends : Option (List BranchEnd))

/-- What surrounds a flow: its answers and the ends of its branches, after all that was exchanged
before. -/
structure World where
  answer : List Exchange → (r : Request) → r.Answer
  join : List Exchange → Token → (n : Nat) → Option (List BranchEnd)

/-- No answer tells of a cancellation, and branches are waited for until they have ended. -/
structure World.Uncancelled (w : World) : Prop where
  answer : ∀ past (r : Request), ¬ r.TellsCancelled (w.answer past r)
  join : ∀ past token n, w.join past token n ≠ none

/-- The world that grants everything, whose host performs actions in a given way and knows nothing
of scripts, and in which no workflow is registered and no branch comes to anything. -/
def World.granting (perform : List Exchange → ActionCall → Except ActionError Value) : World where
  answer past
    | .boundary => true
    | .attempt _ => ()
    | .publish _ => ()
    | .perform call => perform past call
    | .evaluate _ => .error .cancelled
    | .sleep _ _ => true
    | .isCancelled _ => false
    | .recordProgress _ _ => ()
    | .recordEnvironment _ => ()
    | .lookup _ => none
    | .freshId => .ofNat 0
    | .begin _ _ _ => .ok 0
    | .finish outcome => (outcome, 0)
  join _ _ _ := some []

theorem World.uncancelled_granting
    (perform : List Exchange → ActionCall → Except ActionError Value) :
    (World.granting perform).Uncancelled where
  answer past r := by cases r <;> simp [World.granting, Request.TellsCancelled]
  join _ _ _ h := nomatch h

namespace Flow

variable {α β : Type} (w : World)

/-- What a flow comes to after some exchanges, and all exchanges then. -/
def play (w : World) : {α : Type} → Flow α → List Exchange → α × List Exchange
  | _, done a, past => (a, past)
  | _, ask r next, past =>
    play w (next (w.answer past r)) (past ++ [.answered r (w.answer past r)])
  | _, fork token n _ next, past =>
    play w (next (w.join past token n)) (past ++ [.joined token n (w.join past token n)])

theorem play_bind (f : α → Flow β) : (x : Flow α) → (past : List Exchange) →
    (x.bind f).play w past = (f (x.play w past).1).play w (x.play w past).2
  | done _, _ => rfl
  | ask _ next, _ => play_bind f (next _) _
  | fork _ _ _ next, _ => play_bind f (next _) _

/-- What was exchanged before stands before what is exchanged. -/
theorem prefix_play : {α : Type} → (x : Flow α) → (past : List Exchange) →
    past <+: (x.play w past).2
  | _, done _, _ => List.prefix_rfl
  | _, ask _ next, _ => (List.prefix_append _ _).trans (prefix_play (next _) _)
  | _, fork _ _ _ next, _ => (List.prefix_append _ _).trans (prefix_play (next _) _)

variable {w} {k : Contract} {post : α → Prop}

/-- What a flow comes to by its contract it comes to in every world, if that is one without
cancellation or the contract reckons with one. -/
theorem Keeps.play (hw : w.Uncancelled ∨ k.cancels) : (x : Flow α) → x.Keeps k post →
    (past : List Exchange) → post (x.play w past).1
  | done _, hx, _ => hx
  | ask r next, hx, past =>
    play hw (next _) (hx.2 _ fun h => hw.elim (fun hw => absurd h (hw.answer past r)) id) _
  | fork token n _ next, hx, past =>
    play hw (next _) (hx.2.2 _ fun h => hw.elim (fun hw => absurd h (hw.join past token n)) id) _

end Flow

/-! ### Flows with variables -/

/-- Where a flow with variables stands: the variables, and all that was exchanged. -/
structure Juncture where
  env : Environment
  past : List Exchange

namespace Juncture

/-- The juncture after a request was answered. -/
def ask (w : World) (m : Juncture) (r : Request) : Juncture :=
  { m with past := m.past ++ [.answered r (w.answer m.past r)] }

/-- The juncture after the variables were changed. -/
def write (m : Juncture) (f : Environment → Environment) : Juncture := { m with env := f m.env }

/-- What was exchanged since an earlier juncture. -/
def since (m earlier : Juncture) : List Exchange := m.past.drop earlier.past.length

variable {w : World} {m : Juncture} {r : Request} {f : Environment → Environment}

@[simp] theorem ask_env : (m.ask w r).env = m.env := rfl

@[simp] theorem ask_past : (m.ask w r).past = m.past ++ [.answered r (w.answer m.past r)] := rfl

@[simp] theorem write_env : (m.write f).env = f m.env := rfl

@[simp] theorem write_past : (m.write f).past = m.past := rfl

end Juncture

namespace Exec

variable {α β : Type} (w : World) (m : Juncture)

/-- What a flow with variables comes to from a juncture on, and the juncture when it has ended. -/
def play (w : World) (x : Exec α) (m : Juncture) : Except StepError α × Juncture :=
  let p := (x.run.run m.env).play w m.past
  (p.1.1, ⟨p.1.2, p.2⟩)

@[simp] theorem play_pure (a : α) : (pure a : Exec α).play w m = (.ok a, m) := rfl

@[simp] theorem play_throw (e : StepError) : (throw e : Exec α).play w m = (.error e, m) := rfl

/-- A flow followed by others: what it comes to is handed on unless it has failed. -/
theorem play_bind (x : Exec α) (f : α → Exec β) :
    (x >>= f).play w m =
      match x.play w m with
      | (.ok a, m') => (f a).play w m'
      | (.error e, m') => (.error e, m') := by
  have h : (x >>= f).run.run m.env = (x.run.run m.env).bind fun p =>
      match p with
      | (.ok a, env) => (f a).run.run env
      | (.error e, env) => .done (.error e, env) := by
    refine congrArg (Flow.bind (x.run.run m.env)) (funext ?_)
    rintro ⟨_ | _, _⟩ <;> rfl
  unfold play
  rw [h, Flow.play_bind]
  rcases (x.run.run m.env).play w m.past with ⟨⟨_ | _, _⟩, _⟩ <;> rfl

/-- What follows a flow whose end is looked at goes on from there, however it has ended. -/
theorem play_observe_bind (x : Exec α) (f : Except StepError α → Exec β) :
    (observe x >>= f).play w m = (f (x.play w m).1).play w (x.play w m).2 := by
  unfold play
  rw [run_observe_bind, Flow.play_bind]

theorem play_get_bind (f : Environment → Exec β) :
    (get >>= f).play w m = (f m.env).play w m := rfl

@[simp] theorem play_modify_bind (g : Environment → Environment) (f : Unit → Exec β) :
    (modify g >>= f).play w m = (f ()).play w (m.write g) := rfl

theorem play_lift_bind (x : Flow α) (f : α → Exec β) :
    ((liftM x : Exec α) >>= f).play w m =
      (f (x.play w m.past).1).play w ⟨m.env, (x.play w m.past).2⟩ := by
  unfold play
  rw [run_lift_bind, Flow.play_bind]

@[simp] theorem play_request_bind (r : Request) (f : r.Answer → Exec β) :
    (request r >>= f).play w m = (f (w.answer m.past r)).play w (m.ask w r) :=
  play_lift_bind w m (Flow.request r) f

@[simp] theorem play_publish_bind (e : Event) (f : Unit → Exec β) :
    (publish e >>= f).play w m = (f ()).play w (m.ask w (.publish e)) :=
  play_request_bind w m (.publish e) f

/-- What was exchanged before a flow stands before what is exchanged with it. -/
theorem past_play_append (x : Exec α) :
    (x.play w m).2.past = m.past ++ (x.play w m).2.since m := by
  obtain ⟨added, h⟩ := Flow.prefix_play w (x.run.run m.env) m.past
  have hpast : (x.play w m).2.past = m.past ++ added := h.symm
  rw [Juncture.since, hpast, List.drop_left]

variable {w}

theorem answer_boundary (hw : w.Uncancelled) (past : List Exchange) :
    w.answer past .boundary = true := by
  simpa [Request.TellsCancelled] using hw.answer past .boundary

/-- What follows a boundary that may be passed goes on. -/
theorem play_boundary_bind (hpass : w.answer m.past .boundary = true) (f : Unit → Exec β) :
    (request .boundary >>= fun goesOn => orCancelled goesOn >>= f).play w m =
      (f ()).play w (m.ask w .boundary) := by
  rw [play_request_bind, hpass]
  rfl

theorem answer_sleep (hw : w.Uncancelled) (past : List Exchange) (token : Token) (ms : Nat) :
    w.answer past (.sleep token ms) = true := by
  simpa [Request.TellsCancelled] using hw.answer past (.sleep token ms)

theorem play_sleep_bind (hw : w.Uncancelled) (token : Token) (ms : Nat) (f : Unit → Exec β) :
    (request (.sleep token ms) >>= fun slept => orCancelled slept >>= f).play w m =
      (f ()).play w (m.ask w (.sleep token ms)) := by
  rw [play_request_bind, answer_sleep hw]
  rfl

/-- In a world without cancellation, no flow that keeps the contract of a frame fails as
cancelled. -/
theorem Abides.play_ne_cancelled {token : Token} {limit : Nat} {x : Exec α} (hw : w.Uncancelled)
    (hx : x.Abides (.frame token limit False)) : (x.play w m).1 ≠ .error .cancelled := fun h =>
  Flow.Keeps.play (.inl hw) (x.run.run m.env) (hx m.env) m.past h

end Exec

end Workflow

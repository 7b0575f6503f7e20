import Workflow.Proofs.Course.Run
import Workflow.Proofs.Protocol.Frame
import Workflow.Proofs.Strand.Doings

/-!
# What an engine keeps of its latest run

An engine keeps how far its latest run has come and the variables that the run has recorded. Only
calls write this: when they begin a run, and while the run is in flight, on their own line. So while
a run is alone in flight, and after it as long as no other begins, what is kept is what the call has
recorded on its line, one after another, whatever its branches do and whatever else is asked of the
engine.

## Main definitions

* `Workflow.Progress.after` — what is kept after something was done.
* `Workflow.Course.recorded` — what a call has recorded on its own line.

## Main results

* `Workflow.Course.inFlight_of_records` — only calls with a run in flight record.
* `Workflow.Course.progress_eq` — what is kept is what the call has recorded.
-/

namespace Workflow

/-- The request records how far a run has come, or its variables. -/
def Request.Records : Request → Prop
  | recordProgress .. => True
  | recordEnvironment _ => True
  | _ => False

theorem Request.Records.isOfTrunk : {r : Request} → r.Records → r.IsOfTrunk
  | recordProgress .., _ => trivial
  | recordEnvironment _, _ => trivial

/-! ### What turns leave of it -/

namespace Progress

/-- What is kept after something was done. -/
def after (p : Progress) : Deed → Progress
  | .answer (.begin identity total env) (.ok _) =>
    ⟨some identity.executionId, some identity.workflowId, 0, total, env.vars⟩
  | .answer (.recordProgress index env) _ =>
    { p with currentStep := index, environment := env.vars }
  | .answer (.recordEnvironment env) _ => { p with environment := env.vars }
  | _ => p

/-- What was neither recorded nor begins a run changes nothing. -/
theorem after_eq_self {d : Deed} (p : Progress) (hb : ∀ identity total env token,
      d ≠ .answer (.begin identity total env) (.ok token))
    (hr : ∀ r a, d = .answer r a → ¬ r.Records) : p.after d = p := by
  cases d with
  | answer r a =>
    cases r with
    | «begin» identity total env =>
      cases a with
      | error e => rfl
      | ok token => exact absurd rfl (hb identity total env token)
    | recordProgress index env => exact absurd trivial (hr _ a rfl)
    | recordEnvironment env => exact absurd trivial (hr _ a rfl)
    | _ => rfl
  | _ => rfl

end Progress

variable {c c' : Control} {config : Config}

theorem progress_of_answers : {r : Request} → {a : r.Answer} → c.Answers r a c' →
    c'.progress = c.progress.after (.answer r a)
  | .boundary, _, h => congrArg Control.progress h.2
  | .attempt _, _, h => congrArg Control.progress h
  | .publish _, _, h => congrArg Control.progress h
  | .perform _, _, h => congrArg Control.progress h
  | .evaluate _, _, h => congrArg Control.progress h
  | .sleep .., _, h => congrArg Control.progress h.2
  | .isCancelled _, _, h => congrArg Control.progress h.2
  | .recordProgress .., _, h => congrArg Control.progress h
  | .recordEnvironment _, _, h => congrArg Control.progress h
  | .lookup _, _, h => congrArg Control.progress h
  | .freshId, _, h => congrArg Control.progress h
  | .finish outcome, _, h => by
    rw [h.2, Control.finish]
    split
    · rfl
    · rfl
  | .begin identity total env, a, h => by
    simp only [Control.Answers] at h
    split at h
    · next token begun hb =>
      obtain ⟨rfl, rfl⟩ := h
      unfold Control.begin at hb
      split at hb
      · cases hb
      · cases hb
        rfl
    · obtain ⟨rfl, rfl⟩ := h
      rfl

/-- A turn leaves what its own line makes of it. -/
theorem progress_turn {α : Type} {d : Deed} {x y : Strand α} (h : Turn c x d c' y) :
    c'.progress = c.progress.after d.own := by
  obtain ⟨hanswer, hnone⟩ := answers_turn h
  rcases ha : d.answered? with _ | ⟨r, a⟩
  · rw [hnone ha]
    refine (Progress.after_eq_self _ (fun _ _ _ _ hd => ?_) fun r a hd => ?_).symm
    · exact nomatch ha.symm.trans ((Deed.own_eq_answer_iff d).mp hd)
    · exact nomatch ha.symm.trans ((Deed.own_eq_answer_iff d).mp hd)
  · rw [(Deed.own_eq_answer_iff d).mpr ha]
    exact progress_of_answers (hanswer r a ha)

/-- What is asked from outside changes nothing of it. -/
theorem progress_asked (c : Control) (r : ControlRequest) : (c.asked r).progress = c.progress := by
  obtain ⟨state, tokens, progress⟩ := c
  cases r <;> cases state <;> rfl

/-! ### Stages that record -/

/-- On its own line, a strand with a flow in the place of the end of another takes the turns of the
flow. -/
theorem turn_graft_line {α β : Type} {flow : Flow β} {z : Strand β} : {d : Deed} → (x : Strand α) →
    Turn c (x.graft (.line flow)) d c' z → d.line = [] → ∃ s, Turn c (.line flow) d c' s
  | _, .line _, h, _ => ⟨z, h⟩
  | _, .crashed _, h, _ => ⟨z, h⟩
  | _, .joining .., h, _ => ⟨z, h⟩
  | _, .beside n branch rest, h, hd => by
    cases h with
    | drift h => exact nomatch hd
    | @rest _ _ _ _ _ _ _ d h =>
      rw [Deed.line_shift] at hd
      have hnil : d.line = [] := Line.shift_injective (hd.trans rfl)
      rw [Deed.shift_eq_self d hnil]
      exact turn_graft_line rest h hnil

/-- A call that has not asked to begin a run records nothing. -/
private theorem Asking.not_records {k : Errand} {l : List Stroke} {flow : Flow RunEnd}
    {y : Strand RunEnd} {r : Request} {a : r.Answer} (h : Asking config k l flow)
    (t : Turn c (.line flow) (.answer r a) c' y) : ¬ r.Records := by
  cases h with
  | called =>
    cases k with
    | execute id options =>
      rw [Errand.flow, execute_eq] at t
      cases t
      exact not_false
    | executeDefinition definition options =>
      rw [Errand.flow, executeDefinition_eq] at t
      cases t
      exact not_false
  | found =>
    rw [executeDefinition_eq] at t
    cases t
    exact not_false
  | toBegin =>
    cases t
    exact not_false

/-- A call that records on its own line has begun a run and has not ended it. -/
theorem begun_of_records {k : Errand} {l : List Stroke} {x y : Strand RunEnd} {r : Request}
    {a : r.Answer} (h : Stage config k l x) (t : Turn c x (.answer r a) c' y) (hr : r.Records) :
    ∃ b job token, milestones l = [b] ∧ b.deed = .answer (Job.beginning job) (.ok token) := by
  cases h with
  | asking h => exact absurd hr (h.not_records t)
  | away => exact nomatch t
  | announcing hl hp hb marks => exact ⟨_, _, _, marks, hb⟩
  | running hl hp hb hst hy marks => exact ⟨_, _, _, marks, hb⟩
  | finishing ran hy marks => exact ⟨_, _, _, marks, ran.begun.2⟩
  | telling =>
    obtain ⟨s, u⟩ := turn_graft_line _ t rfl
    cases u
    exact absurd hr id
  | told =>
    obtain ⟨s, u⟩ := turn_graft_line _ t rfl
    exact nomatch u

namespace Course

variable {C : Course config} {i m t : Nat} {d : Deed}

/-- A call asks for what changes how a run stands on its own line. -/
theorem line_of_happening {r : Request} {a : r.Answer} (hd : C.happening t = .turn i d)
    (hown : d.own = .answer r a) (hr : r.IsOfTrunk) : d.line = [] := by
  obtain ⟨x, y, -, hy, -⟩ := turn_of_happening hd
  obtain ⟨k, -, hfollows⟩ := follows hy
  have hmem : (⟨t, (C.situation t).runs, d⟩ : Stroke) ∈ C.turns i (t + 1) :=
    (mem_turns (t + 1)).mpr ⟨Nat.lt_succ_self t, hd, rfl⟩
  exact line_eq_nil hfollows hmem hown hr

/-- Only a call with a run in flight records. -/
theorem inFlight_of_records {r : Request} {a : r.Answer} (h : C.Does i t r a) (hr : r.Records) :
    C.InFlight i t := by
  obtain ⟨d, hd, ha⟩ := h
  obtain ⟨x, y, hx, -, u⟩ := turn_of_happening hd
  have hown : d.own = .answer r a := (Deed.own_eq_answer_iff d).mpr ha
  rw [Deed.eq_own_of_line d (line_of_happening hd hown hr.isOfTrunk), hown] at u
  obtain ⟨k, -, hstage⟩ := stage hx
  obtain ⟨b, job, token, marks, hb⟩ := begun_of_records hstage u hr
  have hturns : b ∈ C.turns i t := (List.mem_filter.mp (marks ▸ by simp : b ∈ milestones _)).1
  obtain ⟨hlt, hbegins⟩ := does_of_mem_turns hturns (congrArg Deed.answered? hb)
  refine ⟨b.time, hlt, ⟨_, _, _, _, hbegins⟩, ?_⟩
  -- the begin is the only milestone so far
  rintro u - hut ⟨o, p, hf⟩
  obtain ⟨s, hs, -, has⟩ := mem_turns_of_does hf hut
  have hmark : s ∈ milestones (C.turns i t) :=
    List.mem_filter.mpr ⟨hs, by rw [Stroke.milestone?_eq has]; rfl⟩
  rw [marks, List.mem_singleton] at hmark
  rw [hmark, hb] at has
  exact nomatch has

/-! ### What is kept of a run -/

/-- What a call has recorded on its own line, one after another. -/
def recorded (C : Course config) (i t : Nat) : Progress :=
  (doneOn [] (C.turns i t)).foldl Progress.after Control.initial.progress

theorem recorded_turn (hd : C.happening t = .turn i d) :
    C.recorded i (t + 1) = (C.recorded i t).after d.own := by
  rw [recorded, turns_turn hd, doneOn_append, List.foldl_append]
  by_cases hline : d.line = []
  · simp [doneOn, hline, recorded]
  · have hself : (C.recorded i t).after d.own = C.recorded i t :=
      Progress.after_eq_self _ (fun _ _ _ _ hown => hline (line_of_happening hd hown trivial))
        fun _ _ hown hr => hline (line_of_happening hd hown hr.isOfTrunk)
    rw [hself]
    simp [doneOn, hline, recorded]

theorem recorded_idle (hd : ∀ d, C.happening t ≠ .turn i d) :
    C.recorded i (t + 1) = C.recorded i t := by
  rw [recorded, turns_idle hd, recorded]

/-- A step in which the call takes no turn changes nothing of what is kept, as long as no other run
is in flight before or after it. -/
private theorem progress_idle (hd : ∀ d, C.happening t ≠ .turn i d)
    (ht : ∀ j, C.InFlight j t → j = i) (ht' : ∀ j, C.InFlight j (t + 1) → j = i) :
    (C.situation (t + 1)).runs.progress = (C.situation t).runs.progress := by
  rcases runs_of_moves (C.moves t) with ⟨j, d, hj⟩ | ⟨r, -, hr⟩ | ⟨-, -, hsame⟩
  · obtain ⟨x, y, -, -, u⟩ := turn_of_happening hj
    have hne : j ≠ i := fun h => hd d (h ▸ hj)
    have hdoes {r : Request} {a : r.Answer} (hown : d.own = .answer r a) : C.Does j t r a :=
      ⟨d, hj, (Deed.own_eq_answer_iff d).mp hown⟩
    rw [progress_turn u]
    refine Progress.after_eq_self _ (fun _ _ _ _ hown => hne (ht' j ?_)) fun _ _ hown hr => ?_
    · exact inFlight_succ.mpr (.inl ⟨_, _, _, _, hdoes hown⟩)
    · exact hne (ht j (inFlight_of_records (hdoes hown) hr))
  · rw [hr, progress_asked]
  · rw [hsame]

/-- From the begin of a run on, as long as no other run is in flight, what is kept is what its call
has recorded on its own line. -/
theorem progress_eq (hb : C.Begins i m) (hmt : m < t) (alone : C.Alone i m t) :
    (C.situation t).runs.progress = C.recorded i t := by
  induction t, hmt using Nat.le_induction with
  | base =>
    obtain ⟨identity, total, env, token, d, hd, ha⟩ := hb
    obtain ⟨x, y, -, -, u⟩ := turn_of_happening hd
    have hown := (Deed.own_eq_answer_iff d).mpr ha
    rw [progress_turn u, recorded_turn hd, hown]
    rfl
  | succ t hmt ih =>
    have ih := ih fun u hu hut => alone u hu (by omega)
    by_cases hd : ∃ d, C.happening t = .turn i d
    · obtain ⟨d, hd⟩ := hd
      obtain ⟨x, y, -, -, u⟩ := turn_of_happening hd
      rw [progress_turn u, recorded_turn hd, ih]
    · have hidle := not_exists.mp hd
      rw [recorded_idle hidle, progress_idle hidle (alone t hmt (by omega))
        (alone (t + 1) (by omega) (by omega)), ih]

end Course

end Workflow

import Workflow.Proofs.Course.Nesting
import Workflow.Proofs.Story.Call
import Mathlib.Tactic.IntervalCases

/-!
# The story of a run

A call that begins a run beside no other, that nothing cancels and that returns tells one story in
the events of its runs: first that the run has started and last that it has completed or failed, and
in between of steps. Every step starts, is tried again and ends, as often as it is run; a step below
another, be it in a run that the other has called, is told of only while the other is open; and the
events that end the top-level steps carry what the log of the run says.

The host may crash in a branch. The steps that are open on its line are cut off then, and no event
tells of their end.

## Main definitions

* `Workflow.Course.Tells`, `Workflow.Course.Story` — the story of a run.
* `Workflow.Course.Uncancelled` — a run that nothing cancels, of a call that returns.

## Main results

* `Workflow.Course.tells_story` — a run that nothing cancels tells its story.
* `Workflow.Course.crashed_step_not_ended` — a step that is cut off is told no end.
-/

namespace Workflow

/-- The event tells that the engine was paused or resumed, or what a script logs. -/
def Event.IsRemark : Event → Prop
  | paused .. => True
  | resumed .. => True
  | scriptLog .. => True
  | _ => False

theorem Event.phase?_of_isRemark {e : Event} (h : e.IsRemark) : e.phase? = none := by
  cases e <;> first | rfl | exact h.elim

theorem Event.endState?_of_isRemark {e : Event} (h : e.IsRemark) : e.endState? = none := by
  cases e <;> first | rfl | exact h.elim

theorem Event.IsOfPause.isRemark : {e : Event} → e.IsOfPause → e.IsRemark
  | .paused .., _ => trivial
  | .resumed .., _ => trivial

namespace Course

variable {config : Config} (C : Course config)

/-! ### Stories -/

/-- It is told in the story of the call: an event of one of its runs, remarks apart. -/
def Tells (i n : Nat) (e : Event) : Prop := C.Publishes n e ∧ C.Owns i e.run ∧ ¬ e.IsRemark

/-- A run that a call begins and logs tells its story, and the call has returned by some step. -/
structure Story (i n : Nat) (run : RunId) (record : RunRecord) : Prop where
  /-- Its first event tells that it has started, the last one that it has completed or failed, and
  all others of steps. -/
  framed : ∃ first last started ended, first < last ∧ C.Tells i first started ∧
    C.Tells i last ended ∧ (∃ workflow total, started = .started run workflow total) ∧
      ended.run = run ∧ (ended.endState? = some .completed ∨ ended.endState? = some .failed) ∧
        ∀ t e, C.Tells i t e → t = first ∧ e = started ∨ t = last ∧ e = ended ∨
          first < t ∧ t < last ∧ e.IsOfStep
  /-- Every step comes to one bracket after another. -/
  bracketed : ∀ s, C.Owns i s.run → ∀ t ≥ n, Bracketed (C.marks s t) false
  /-- A step is cut off only where the host crashes in a branch, with the step open on its line. -/
  uncut : ∀ s t, C.Owns i s.run → C.mark? s t = some .cut → ∃ d report, C.happening t = .turn i d ∧
    d.own = .crash report ∧ d.line ≠ [] ∧ s ∈ (C.pages i t d.line).opened
  /-- Every other run of the call is called by a step of one of its runs. -/
  called : ∀ r, C.Owns i r → r ≠ run → ∃ s, C.Calls s r ∧ C.Owns i s.run
  /-- While something is told of a step, the steps above it are open. -/
  nested : ∀ t e p x, C.Tells i t e → e.phase? = some (p, x) → ∀ t' e' p' s, C.Tells i t' e' →
    e'.phase? = some (p', s) → C.Below s x → C.IsOpen s t
  /-- The events that end top-level steps carry what the log says. -/
  recorded : ∀ j outcome, (∃ t e, C.Tells i t e ∧
    e.phase? = some (.ends, ⟨run, Decimal.natText j⟩) ∧ e.outcome? = some outcome) ↔
      record.steps[j]?.map StepRecord.outcome = some outcome

/-- A call begins a run while no other run is in flight, nothing cancels the run while it is, and
the call returns. -/
structure Uncancelled (i m n : Nat) (identity : Identity) (token : Token) (e : RunEnd) : Prop where
  begins : ∃ total env, C.Does i m (.begin identity total env) (.ok token)
  alone : ∀ j, ¬ C.InFlight j m
  uncancelled : ∀ t, C.InFlight i t → ¬ C.Cancels t
  returns : C.Returned i n e

variable {C} {i j m n t : Nat}

/-- What is told in the story of a call is published by the call. -/
theorem does_of_tells (hids : C.FreshIds) {e : Event} (h : C.Tells i n e) :
    C.Does i n (.publish e) () := by
  obtain ⟨⟨j, hj⟩ | ⟨r, -, hr⟩, howns, hremark⟩ := h
  · exact owner_unique hids (owns_of_does hj) howns ▸ hj
  · exact absurd (Control.told?_isOfPause hr).isRemark hremark

/-- A call at rest takes no turn. -/
theorem turns_eq_of_atRest {x : Strand RunEnd} (hx : C.strand? i n = some x) (hrest : x.AtRest)
    (hnt : n ≤ t) : C.turns i t = C.turns i n := by
  have hkept : C.turns i t = C.turns i n ∧ C.strand? i t = some x := by
    induction t, hnt using Nat.le_induction with
    | base => exact ⟨rfl, hx⟩
    | succ t _ ih =>
      obtain ⟨hturns, hstrand⟩ := ih
      rcases turn_or_idle hstrand with ⟨d, y, -, -, u⟩ | ⟨hidle, hkept⟩
      · exact absurd u (not_turn_of_atRest hrest)
      · exact ⟨(turns_idle hidle).trans hturns, hkept⟩
  exact hkept.1

/-! ### The turns of a passage -/

section

variable {k : Errand} {x : Strand RunEnd} (P : Passage config k (C.turns i n) x)

/-- Earlier turns are taken at earlier times. -/
theorem time_lt {l r : List Stroke} {s s' : Stroke} (hl : C.turns i n = l ++ s :: r)
    (hs : s' ∈ l) : s'.time < s.time := by
  rw [← turns_of_append hl] at hs
  exact ((mem_turns s.time).mp hs).1

theorem turns_frame {l₁ l₂ : List Stroke} {s : Stroke} (hl : P.frame = l₁ ++ s :: l₂) :
    C.turns i s.time = P.before ++ P.begin :: P.start :: l₁ := by
  have hturns := P.turns
  rw [hl] at hturns
  refine turns_of_append (r := l₂ ++ P.settling) (hturns.trans ?_)
  simp

theorem pages_frame {l₁ l₂ : List Stroke} {s : Stroke} (hl : P.frame = l₁ ++ s :: l₂) :
    C.pages i s.time = Pages.blank.past l₁ := by
  rw [pages, turns_frame P hl, P.past_before]

/-- The run of a call stands alone. -/
theorem home_passage : C.Home P.job.run P.base := by
  obtain ⟨l₁, s, l₂, hl, hs⟩ := P.exists_named
  have hturns : C.turns i s.time = l₁ := by
    have hturns := P.turns
    rw [hl, List.append_assoc] at hturns
    exact turns_of_append hturns
  have hmute : Pages.blank.past l₁ = Pages.blank :=
    past_of_mute fun u hu => P.isMute_before (by simp [hl, hu])
  have hmem : s ∈ C.turns i n := P.mem_iff.mpr (by simp [hl])
  obtain ⟨-, hd, -⟩ := (mem_turns n).mp hmem
  refine .alone ⟨i, s.time, s.deed, hd, by rw [hs]; rfl, rfl⟩ ?_
  rw [pages, hturns, hmute]
  rfl

theorem owns_passage : C.Owns i P.job.run := by
  obtain ⟨l₁, s, l₂, hl, hs⟩ := P.exists_named
  have hmem : s ∈ C.turns i n := P.mem_iff.mpr (by simp [hl])
  exact ⟨s.time, (does_of_mem_turns hmem (congrArg Deed.answered? hs)).2⟩

/-- Until its frame has ended a run does not end. -/
theorem not_finishes_frame {l₁ l₂ : List Stroke} {s : Stroke} (hl : P.frame = l₁ ++ s :: l₂)
    {u : Nat} (hu : u < s.time) : ¬ C.Finishes i u := by
  rintro ⟨o, p, hd⟩
  obtain ⟨s', hs', -, ha⟩ := mem_turns_of_does hd hu
  rw [turns_frame P hl] at hs'
  have hmem : s' ∈ P.before ++ P.begin :: P.start :: P.frame := by
    rw [hl]
    simp only [List.mem_append, List.mem_cons] at hs' ⊢
    tauto
  exact P.not_finish hmem ha

/-- The run has begun and it was told that it has started before its frame takes a turn. -/
theorem time_lt_frame {s : Stroke} (hs : s ∈ P.frame) :
    P.begin.time < s.time ∧ P.start.time < s.time := by
  obtain ⟨l₁, l₂, hl⟩ := List.append_of_mem hs
  have before {u : Stroke} (hu : u ∈ P.before ++ P.begin :: P.start :: l₁) : u.time < s.time := by
    rw [← turns_frame P hl] at hu
    exact ((mem_turns s.time).mp hu).1
  exact ⟨before (by simp), before (by simp)⟩

/-- A run is settled after its frame has taken its last turn. -/
theorem time_lt_settling {v f s : Stroke} {p : RunState × Nat} (hs : P.SettledBy v f s p)
    {u : Stroke} (hu : u ∈ P.before ++ P.begin :: P.start :: P.frame) :
    u.time < f.time ∧ u.time < s.time := by
  have hf : C.turns i n = P.before ++ P.begin :: P.start :: P.frame ++ [v] ++ f :: [s] :=
    hs.turns_eq.trans (by simp)
  have hs : C.turns i n = P.before ++ P.begin :: P.start :: P.frame ++ [v, f] ++ s :: [] :=
    hs.turns_eq.trans (by simp)
  exact ⟨time_lt hf (List.mem_append_left _ hu), time_lt hs (List.mem_append_left _ hu)⟩

end

/-! ### Runs that nothing cancels -/

namespace Uncancelled

variable {identity : Identity} {token : Token} {e : RunEnd}
  (h : C.Uncancelled i m n identity token e)

include h

theorem begins' : C.Begins i m := by
  obtain ⟨_, _, hb⟩ := h.begins
  exact ⟨_, _, _, _, hb⟩

/-- While no other run is in flight beside it, the engine serves the run. -/
theorem serves_of_alone (hmt : m < t) (hf : ∀ u, m < u → u < t → ¬ C.Finishes i u)
    (alone : C.Alone i m t) : (C.situation t).runs.Serves token False := by
  obtain ⟨_, _, hb⟩ := h.begins
  have hnone : ¬ C.CancelledWithin m t := by
    rw [← exists_cancels_iff hb hf alone]
    rintro ⟨u, hmu, hut, hu⟩
    refine h.uncancelled u (inFlight_of_begins h.begins' hmu fun v hv hv' => ?_) hu
    exact hf v hv (Nat.lt_trans hv' hut)
  have hserves := serves hb hmt hf alone
  rwa [eq_false hnone] at hserves

/-- No other run begins until the run has ended. -/
theorem alone_until (hmt : m < t) (hf : ∀ u, m < u → u < t → ¬ C.Finishes i u) :
    C.Alone i m t := by
  induction t, hmt using Nat.le_induction with
  | base =>
    intro u hmu hum j hj
    obtain rfl : u = m + 1 := by omega
    rcases inFlight_succ.mp hj with ⟨_, _, _, _, hj⟩ | ⟨hj, -⟩
    · obtain ⟨_, _, hb⟩ := h.begins
      exact (does_unique hj hb).1
    · exact absurd hj (h.alone j)
  | succ t hmt ih =>
    have hf' : ∀ u, m < u → u < t → ¬ C.Finishes i u := fun u hu hu' => hf u hu (by omega)
    have alone := ih hf'
    intro u hmu hut j hj
    rcases Nat.lt_or_eq_of_le hut with hlt | rfl
    · exact alone u hmu (by omega) j hj
    · rcases inFlight_succ.mp hj with ⟨_, _, _, _, hj⟩ | ⟨hj, -⟩
      · have hactive := (h.serves_of_alone hmt hf' alone).goesOn id
        have hidle := (Control.serves_begin (begin_of_does hj)).1
        rw [hactive] at hidle
        exact nomatch hidle
      · exact alone t hmt (Nat.le_refl t) j hj

theorem serves_until (hmt : m < t) (hf : ∀ u, m < u → u < t → ¬ C.Finishes i u) :
    (C.situation t).runs.Serves token False :=
  h.serves_of_alone hmt hf (h.alone_until hmt hf)

/-- The turns of the call lead through the whole run. -/
theorem exists_passage : ∃ k x, C.Called i k ∧ C.strand? i n = some x ∧
    x.ended? = some (.ok e) ∧ Nonempty (Passage config k (C.turns i n) x) := by
  obtain ⟨_, _, hb⟩ := h.begins
  obtain ⟨x, hx, he⟩ := h.returns
  obtain ⟨k, hc, hk⟩ := follows hx
  obtain ⟨s, hs, -, ha⟩ := mem_turns_of_does hb (lt_of_returned h.begins' h.returns)
  exact ⟨k, x, hc, hx, he, Workflow.exists_passage hk he ⟨s, hs, _, _, _, _, ha⟩⟩

variable {k : Errand} {x : Strand RunEnd} (P : Passage config k (C.turns i n) x)

/-- The passage begins the run at its time, under its token and identifier. -/
theorem begin_eq : P.begin.time = m ∧ P.token = token ∧ P.job.run = identity.executionId := by
  obtain ⟨_, _, hb⟩ := h.begins
  have hmem : P.begin ∈ C.turns i n := P.mem_iff.mpr (by simp)
  obtain ⟨htime, rfl, ha⟩ := begin_unique hb hmem P.begins
  cases ha
  exact ⟨htime, rfl, rfl⟩

/-- While the frame goes on, the engine serves the run. -/
theorem serves_frame {s : Stroke} (hs : s ∈ P.frame) : s.control.Serves P.token False := by
  obtain ⟨l₁, l₂, hl⟩ := List.append_of_mem hs
  obtain ⟨htime, rfl, -⟩ := h.begin_eq P
  obtain ⟨-, -, hcontrol⟩ := (mem_turns n).mp (P.mem_iff.mpr (by simp [hs]) : s ∈ C.turns i n)
  have hms : m < s.time := htime ▸ (time_lt_frame P hs).1
  rw [hcontrol]
  exact h.serves_until hms fun u _ hu => not_finishes_frame P hl hu

/-- While the frame goes on, the engine tells it of no cancellation. -/
theorem reckons {s : Stroke} (hs : s ∈ P.frame) :
    (Contract.frame P.token config.maxDepth False).Reckons s.control :=
  have hserves := h.serves_frame P hs
  Contract.reckons_frame hserves.hit_of_cancelled hserves.cancelled.mp

/-- What the frame does tells of no cancellation, and calls runs from the steps that are open. -/
theorem calm {l₁ l₂ : List Stroke} {s : Stroke} (hl : P.frame = l₁ ++ s :: l₂) :
    s.deed.Calm C.terms (Pages.blank.past l₁) := by
  obtain ⟨huntold, hstays⟩ := P.untold (fun s hs => h.reckons P hs) hl
  refine ⟨huntold, hstays, fun run hrun σ hσ hhead => ?_⟩
  have hmem : s ∈ C.turns i n := P.mem_iff.mpr (by simp [hl])
  obtain ⟨-, hd, -⟩ := (mem_turns n).mp hmem
  exact .called ⟨_, ⟨i, s.time, s.deed, hd, hrun, rfl⟩, by rwa [pages_frame P hl]⟩ hσ

section

variable {v f s : Stroke} {p : RunState × Nat} (hs : P.SettledBy v f s p)

include hs

/-- The run ends after it has begun, and has not ended before. -/
theorem finishes_settling : m < f.time ∧ C.Does i f.time (.finish P.ended.outcome) p ∧
    ∀ u, m < u → u < f.time → ¬ C.Finishes i u := by
  have hmem : f ∈ C.turns i n := P.mem_iff.mpr (by simp [hs.turns])
  obtain ⟨-, hd⟩ := does_of_mem_turns hmem (congrArg Deed.answered? hs.finishes)
  refine ⟨(h.begin_eq P).1 ▸ (time_lt_settling P hs (by simp)).1, hd, ?_⟩
  rintro u - hu ⟨_, _, hfin⟩
  exact Nat.ne_of_lt hu (milestone_once hfin hd rfl rfl)

/-- The run ends in the state that its frame asks for. -/
theorem outcome_eq : p.1 = P.ended.outcome := by
  obtain ⟨hmf, hd, hf⟩ := h.finishes_settling P hs
  have hstate : C.state f.time ≠ .cancelled := fun hc =>
    (h.serves_until hmf hf).hit_of_cancelled hc
  rw [(finish_of_does hd).1, if_neg hstate]

end

variable (hids : C.FreshIds)

include hids

theorem isCalm : P.IsCalm C.terms :=
  ⟨id, settled hids, home_passage P, fun _ _ _ hl => h.calm P hl⟩

/-- The events of the frame tell of steps in order. -/
theorem stand : Pages.blank.Stand C.terms P.base P.frame := (h.isCalm P hids).obeys.2

variable {v f s : Stroke} {p : RunState × Nat} (hs : P.SettledBy v f s p)

include hs

/-- The run settles as its frame has ended. -/
theorem settlesAs : SettlesAs False P.ended p.1 := by
  rw [h.outcome_eq P hs]
  exact settlesAs_outcome (h.isCalm P hids).abides

theorem endState_eq : (P.ended.verdict P.job.run p).1.endState? = some .completed ∨
    (P.ended.verdict P.job.run p).1.endState? = some .failed := by
  have hsettles := h.settlesAs P hids hs
  rw [(hsettles.agrees P.job.run).1]
  by_cases hfailure : P.ended.failure = none
  · exact .inl (congrArg some (hsettles.completed id hfailure))
  · exact .inr (congrArg some (hsettles.failed id hfailure))

variable (hx : C.strand? i n = some x)

include hx

/-- After it has returned the call takes no turn. -/
theorem turns_eq (hnt : n ≤ t) : C.turns i t = C.turns i n := by
  have hrest : x.AtRest := by
    rw [hs.returns]
    exact atRest_graft_done P.strand (h.isCalm P hids).atRest.1
  exact turns_eq_of_atRest hx hrest hnt

theorem mem_turns_returned {y : Stroke} (hy : y ∈ C.turns i t) : y ∈ C.turns i n := by
  rcases Nat.le_total t n with hle | hle
  · obtain ⟨hlt, hrest⟩ := (mem_turns t).mp hy
    exact (mem_turns n).mpr ⟨Nat.lt_of_lt_of_le hlt hle, hrest⟩
  · rwa [h.turns_eq P hids hs hx hle] at hy

/-- All turns of the call are orderly. -/
theorem orderly_turns (t : Nat) : Pages.blank.Orderly (C.turns i t) := by
  intro l₁ y l₂ hl
  have hy : y ∈ C.turns i n := h.mem_turns_returned P hids hs hx (t := t) (by simp [hl])
  rcases hs.isMute_or_mem hy with hmute | hframe
  · exact hmute.orderly
  · obtain ⟨τ₁, τ₂, hτ⟩ := List.append_of_mem hframe
    have hpages : Pages.blank.past l₁ = Pages.blank.past τ₁ := by
      rw [← pages_frame P hτ, pages, turns_of_append hl]
    rw [hpages]
    exact (h.stand P hids).orderly τ₁ y τ₂ hτ

/-- A step is open on the pages of its call while its bracket is. -/
theorem brackets {q : Spot} (hq : C.Owns i q.run) (t : Nat) :
    Pages.Brackets (C.pages i t) q (C.marks q t) := by
  rw [marks_eq hids hq]
  have hblank : Pages.blank.Brackets q [] :=
    ⟨false, .nil, fun h => (nomatch h), fun ⟨_, hopen⟩ => nomatch hopen⟩
  exact (bracketed_marks Pages.blank_lone (h.orderly_turns P hids hs hx t)).2 q hblank

/-- What means something to steps is a turn of the frame. -/
theorem exists_frame {d : Deed} (hd : C.happening t = .turn i d) (hmute : ¬ d.IsMute) :
    ∃ (τ₁ τ₂ : List Stroke) (y : Stroke), P.frame = τ₁ ++ y :: τ₂ ∧ y.time = t ∧ y.deed = d := by
  have hy : ⟨t, (C.situation t).runs, d⟩ ∈ C.turns i (t + 1) :=
    (mem_turns (t + 1)).mpr ⟨Nat.lt_succ_self t, hd, rfl⟩
  have hframe := (hs.isMute_or_mem (h.mem_turns_returned P hids hs hx hy)).resolve_left hmute
  obtain ⟨τ₁, τ₂, hτ⟩ := List.append_of_mem hframe
  exact ⟨τ₁, τ₂, _, hτ, rfl, rfl⟩

/-- What is told of a step is told by the frame, of a step that stands in order. -/
theorem exists_site {e' : Event} {p' : Phase} {q : Spot} (hd : C.Does i t (.publish e') ())
    (hp : e'.phase? = some (p', q)) : ∃ (τ₁ τ₂ : List Stroke) (y : Stroke) (σ : Site),
      P.frame = τ₁ ++ y :: τ₂ ∧ y.time = t ∧ y.deed.own = .answer (.publish e') () ∧
        σ.spot = q ∧ σ.Stands C.terms P.base (Pages.blank.past τ₁) y.deed.line p' := by
  obtain ⟨d, hd, ha⟩ := hd
  have hown : d.own = .answer (.publish e') () := (Deed.own_eq_answer_iff d).mpr ha
  have hmute : ¬ d.IsMute := fun hmute => nomatch (hmute.tells e' hown).symm.trans hp
  obtain ⟨τ₁, τ₂, y, hτ, htime, rfl⟩ := h.exists_frame P hids hs hx hd hmute
  obtain ⟨p'', σ, hp', hσ⟩ := h.stand P hids τ₁ y τ₂ hτ e' hown
  cases hp.symm.trans hp'
  exact ⟨τ₁, τ₂, y, σ, hτ, htime, hown, rfl, hσ⟩

/-! ### The parts of the story -/

theorem bracketed {q : Spot} (hq : C.Owns i q.run) (hnt : n ≤ t) :
    Bracketed (C.marks q t) false := by
  refine (h.brackets P hids hs hx hq t).of_not_open ?_
  rintro ⟨line, hopen⟩
  rw [pages, h.turns_eq P hids hs hx hnt, hs.past_eq] at hopen
  exact (h.isCalm P hids).atRest.2.notMem line hopen

theorem uncut {q : Spot} (hq : C.Owns i q.run) (hcut : C.mark? q t = some .cut) :
    ∃ d report, C.happening t = .turn i d ∧ d.own = .crash report ∧ d.line ≠ [] ∧
      q ∈ (C.pages i t d.line).opened := by
  unfold mark? at hcut
  split at hcut
  · next j d hd =>
    obtain rfl : j = i := by
      by_contra hji
      exact nomatch (mark?_eq_none hids hq hd hji).symm.trans hcut
    obtain ⟨⟨report, hown⟩, hopen⟩ := Deed.crash_of_mark?_eq_cut hcut
    refine ⟨d, report, hd, hown, fun hline => ?_, hopen⟩
    have hmute : ¬ d.IsMute := fun hmute => nomatch (hmute.mark? _ q).symm.trans hcut
    obtain ⟨τ₁, τ₂, y, hτ, -, rfl⟩ := h.exists_frame P hids hs hx hd hmute
    exact P.not_crash hτ report ((Deed.eq_own_of_line y.deed hline).trans hown)
  · exact nomatch hcut

theorem called {r : RunId} (hr : C.Owns i r) (hne : r ≠ P.job.run) :
    ∃ q, C.Calls q r ∧ C.Owns i q.run := by
  obtain ⟨t, hd⟩ := hr
  obtain ⟨y, hy, -, ha⟩ := mem_turns_of_does hd (Nat.lt_succ_self t)
  have hmem := h.mem_turns_returned P hids hs hx hy
  obtain ⟨τ₁, τ₂, hτ⟩ := List.append_of_mem ((hs.named_cases hmem ha).resolve_left hne)
  have hnamed : y.deed.named? = some r := (Deed.named?_eq_some_iff y.deed).mpr ha
  have hopened := (h.isCalm P hids).opened_of_named hτ hnamed
  rw [← pages_frame P hτ] at hopened
  obtain ⟨q, rest, hq⟩ := List.exists_cons_of_ne_nil hopened
  have hopen : q ∈ (C.pages i y.time y.deed.line).opened := hq ▸ List.mem_cons_self
  refine ⟨q, ⟨_, ⟨i, y.time, y.deed, ((mem_turns n).mp hmem).2.1, hnamed, rfl⟩, ?_⟩,
    owns_of_open hopen⟩
  rw [hq]
  rfl

theorem nested {e₁ e₂ : Event} {p₁ p₂ : Phase} {q₁ q₂ : Spot} {t₁ t₂ : Nat}
    (h₁ : C.Tells i t₁ e₁) (hp₁ : e₁.phase? = some (p₁, q₁)) (h₂ : C.Tells i t₂ e₂)
    (hp₂ : e₂.phase? = some (p₂, q₂)) (hbelow : C.Below q₂ q₁) : C.IsOpen q₂ t₁ := by
  obtain ⟨τ₁, τ₂, y, σ₁, hτ, htime, -, rfl, hσ₁⟩ :=
    h.exists_site P hids hs hx (does_of_tells hids h₁) hp₁
  obtain ⟨_, _, _, σ₂, -, -, -, rfl, hσ₂⟩ :=
    h.exists_site P hids hs hx (does_of_tells hids h₂) hp₂
  have hstep := Site.path_ne_nil (settled hids) hσ₂.home hσ₂.ofStep
  obtain ⟨hin, hlt⟩ := address_of_below hids hσ₂.home hstep hbelow σ₁ rfl hσ₁.home
  have hbase : σ₂.address ≠ P.base := fun heq => by
    have hlonger := hσ₂.longer
    rw [heq] at hlonger
    exact Nat.lt_irrefl _ hlonger
  have hne : σ₂.address ≠ σ₁.address := fun heq => by
    rw [heq] at hlt
    exact Nat.lt_irrefl _ hlt
  obtain ⟨σ, hσ, haddress, hopen⟩ := hσ₁.above σ₂.address hσ₂.ofStep hσ₂.below hbase hin hne
  obtain rfl : σ = σ₂ := Site.eq_of_address (settled hids) hσ hσ₂.home haddress
  have howns : C.Owns i σ.spot.run := Event.run_of_phase? hp₂ ▸ h₂.2.1
  refine (h.brackets P hids hs hx howns t₁).of_open ?_
  rwa [← htime, pages_frame P hτ]

theorem recorded {j : Nat} {outcome : Except String Value} :
    (∃ t e', C.Tells i t e' ∧ e'.phase? = some (.ends, ⟨P.job.run, Decimal.natText j⟩) ∧
        e'.outcome? = some outcome) ↔
      P.ended.record.steps[j]?.map StepRecord.outcome = some outcome := by
  constructor
  · rintro ⟨t, e', htells, hp, houtcome⟩
    obtain ⟨τ₁, τ₂, y, σ, hτ, htime, hown, hspot, hσ⟩ :=
      h.exists_site P hids hs hx (does_of_tells hids htells) hp
    -- the step stands right below the run, so it ends around no other
    have haddress : σ.address = P.base ++ [.part (.step j)] := by
      obtain ⟨run, home, path⟩ := σ
      obtain ⟨rfl, hpath⟩ := Spot.mk.inj hspot
      obtain rfl : path = (Location.top j).path := Path.text_injective hpath
      obtain rfl : home = P.base := home_unique hids hσ.home (home_passage P)
      rfl
    obtain ⟨hline, hopened⟩ := hσ.outermost (by simp [haddress]) rfl
    have hcloses : y.deed.Closes (Pages.blank.past τ₁) e' :=
      ⟨hline, hown, σ.spot, hspot ▸ hp, hopened⟩
    have hmem : e' ∈ (Pages.blank.past P.frame []).closed :=
      mem_closed_past.mpr (.inr ⟨τ₁, y, τ₂, hτ, hcloses⟩)
    rw [(h.isCalm P hids).closed_eq] at hmem
    obtain ⟨entry, hentry, rfl⟩ := List.mem_map.mp hmem
    obtain ⟨j', hj'⟩ := List.mem_iff_getElem?.mp hentry
    obtain rfl : j' = j := by
      rw [← P.index_of_getElem? hj']
      rw [StepRecord.phase?_closing] at hp
      exact natText_injective (Spot.mk.inj (Prod.mk.inj (Option.some.inj hp)).2).2
    rw [hj', ← houtcome, StepRecord.outcome?_closing]
    rfl
  · intro hentry
    obtain ⟨entry, hj, rfl⟩ := Option.map_eq_some_iff.mp hentry
    have hp := entry.phase?_closing P.job.run
    rw [P.index_of_getElem? hj] at hp
    have hmem : entry.closing P.job.run ∈ (Pages.blank.past P.frame []).closed := by
      rw [(h.isCalm P hids).closed_eq]
      exact List.mem_map_of_mem (List.mem_of_getElem? hj)
    obtain hblank | ⟨τ₁, y, τ₂, hτ, -, hown, -⟩ := mem_closed_past.mp hmem
    · exact absurd hblank List.not_mem_nil
    · have ha := (Deed.own_eq_answer_iff y.deed).mp hown
      have hd : C.Does i y.time (.publish (entry.closing P.job.run)) () :=
        (does_of_mem_turns (P.mem_iff.mpr (by simp [hτ])) ha).2
      have hrun : (entry.closing P.job.run).run = P.job.run := Event.run_of_phase? hp
      refine ⟨y.time, _, ⟨.inl ⟨i, hd⟩, hrun.symm ▸ owns_passage P, ?_⟩, hp, ?_⟩
      · exact fun hremark => nomatch (Event.phase?_of_isRemark hremark).symm.trans hp
      · exact entry.outcome?_closing P.job.run

theorem framed : ∃ first last started ended, first < last ∧ C.Tells i first started ∧
    C.Tells i last ended ∧ (∃ workflow total, started = .started P.job.run workflow total) ∧
      ended.run = P.job.run ∧ (ended.endState? = some .completed ∨ ended.endState? = some .failed) ∧
        ∀ t e', C.Tells i t e' → t = first ∧ e' = started ∨ t = last ∧ e' = ended ∨
          first < t ∧ t < last ∧ e'.IsOfStep := by
  have hstart : C.Does i P.start.time (.publish P.job.started) () :=
    (does_of_mem_turns (P.mem_iff.mpr (by simp)) (congrArg Deed.answered? P.starts)).2
  have hend : C.Does i s.time (.publish (P.ended.verdict P.job.run p).1) () :=
    (does_of_mem_turns (P.mem_iff.mpr (by simp [hs.turns])) (congrArg Deed.answered? hs.tells)).2
  have hrun := FrameEnd.verdict_run P.job.run P.ended p
  have hstate := h.endState_eq P hids hs
  have hremark : ¬ (P.ended.verdict P.job.run p).1.IsRemark := by
    intro hr
    rw [Event.endState?_of_isRemark hr] at hstate
    exact hstate.elim nofun nofun
  refine ⟨P.start.time, s.time, _, _, (time_lt_settling P hs (by simp)).2,
    ⟨.inl ⟨i, hstart⟩, owns_passage P, id⟩, ⟨.inl ⟨i, hend⟩, hrun.symm ▸ owns_passage P, hremark⟩,
    ⟨_, _, rfl⟩, hrun, hstate, ?_⟩
  intro t e' htells
  obtain ⟨u, hu, rfl, ha⟩ := mem_turns_of_does (does_of_tells hids htells) (Nat.lt_succ_self t)
  rcases hs.publish_cases (h.mem_turns_returned P hids hs hx hu) ha with
    ⟨rfl, rfl⟩ | ⟨rfl, rfl⟩ | hframe
  · exact .inl ⟨rfl, rfl⟩
  · exact .inr (.inl ⟨rfl, rfl⟩)
  · obtain ⟨τ₁, τ₂, hτ⟩ := List.append_of_mem hframe
    obtain ⟨p', σ, hp', -⟩ := h.stand P hids τ₁ u τ₂ hτ e' ((Deed.own_eq_answer_iff _).mpr ha)
    refine .inr (.inr ⟨(time_lt_frame P hframe).2, (time_lt_settling P hs (by simp [hframe])).2,
      Event.isOfStep_iff.mpr ?_⟩)
    rw [hp']
    rfl

end Uncancelled

/-- A run that is begun beside no other, that nothing cancels and whose call returns tells its
story, and the call returns with the log that the story agrees with. -/
theorem tells_story (C : Course config) (hids : C.FreshIds) {i m n : Nat} {identity : Identity}
    {token : Token} {e : RunEnd} (h : C.Uncancelled i m n identity token e) :
    ∃ result, e.result? = some result ∧ C.Story i n identity.executionId result.record := by
  obtain ⟨k, x, -, hx, he, ⟨P⟩⟩ := h.exists_passage
  have hended : x.ended? ≠ none := by
    rw [he]
    exact Option.some_ne_none _
  obtain ⟨v, f, s, p, hs⟩ := P.exists_settling (h.isCalm P hids).atRest.1 hended
  obtain ⟨-, -, hrun⟩ := h.begin_eq P
  have hreturn : e = (P.ended.verdict P.job.run p).2 := by
    rw [hs.returns, ended?_graft] at he
    exact (Except.ok.inj (Option.some.inj he)).symm
  refine ⟨_, hreturn ▸ FrameEnd.verdict_result P.job.run P.ended p, ?_⟩
  rw [← hrun]
  exact {
    framed := h.framed P hids hs hx
    bracketed := fun _ hq _ hnt => h.bracketed P hids hs hx hq hnt
    uncut := fun _ _ hq hcut => h.uncut P hids hs hx hq hcut
    called := fun _ hr hne => h.called P hids hs hx hr hne
    nested := fun _ _ _ _ h₁ hp₁ _ _ _ _ h₂ hp₂ hb => h.nested P hids hs hx h₁ hp₁ h₂ hp₂ hb
    recorded := fun _ _ => h.recorded P hids hs hx }

/-- A run that nothing happens beside tells its story. -/
theorem tells_story_plainly : ∃ C : Course .default, ∃ identity token e result,
    C.FreshIds ∧ C.Uncancelled 0 2 13 identity token e ∧ e.result? = some result ∧
      C.Story 0 13 identity.executionId result.record := by
  obtain ⟨C, h⟩ := exists_goesPlainly
  obtain ⟨identity, total, env, hb⟩ := h.begins
  obtain ⟨e, he⟩ := h.returns
  have alone : ∀ j, ¬ C.InFlight j 2 := by
    intro j hj
    obtain rfl := h.alone 2 j hj
    exact not_inFlight_of_asksToBegin ⟨_, _, _, _, hb⟩ hj
  have uncancelled : ∀ t, C.InFlight 0 t → ¬ C.Cancels t := by
    rintro t ⟨m, hmt, ⟨_, _, _, _, hm⟩, hf⟩ hcancel
    obtain rfl : m = 2 := milestone_once hm hb rfl rfl
    obtain ⟨_, -, hsettles⟩ := settlesAs_of_finish hb h.finishes fun u _ _ j => h.alone u j
    have ht : t ≤ 11 := by
      by_contra hlt
      exact hf 11 (by omega) (by omega) ⟨_, _, h.finishes⟩
    rcases Nat.lt_or_eq_of_le ht with hlt | rfl
    · exact nomatch hsettles.cancelled ⟨t, hmt, hlt, hcancel⟩
    · obtain ⟨d, hd, -⟩ := h.finishes
      exact nomatch hd.symm.trans hcancel.1
  have hrun : C.Uncancelled 0 2 13 identity 0 e := ⟨⟨total, env, hb⟩, alone, uncancelled, he⟩
  obtain ⟨result, hresult, hstory⟩ := tells_story C h.freshIds hrun
  exact ⟨C, identity, 0, e, result, h.freshIds, hrun, hresult, hstory⟩

/-! ### A run with a step that is cut off -/

/-- A job of one action in a branch. -/
private def crashJob : Job :=
  ⟨.named "job" [.parallel Step.plain [[.ofAction .null]]], default, .ofNat 0⟩

/-- The action in the branch. -/
private def crashPlace : Location := ((Location.top 0).child (.branch 0)).child (.step 0)

/-- The host crashes over the action, and the run goes on to its end. -/
private def crashing : List Happening :=
  let job := crashJob
  let scope : Scope := ⟨job.identity, .stop, 0, 0⟩
  let env := job.env.stamp job.identity
  let result : Value := .list [branchEntry 0 (.crashed "boom")]
  let main (r : Request) (a : r.Answer) := Happening.turn 0 (.answer r a)
  let aside (r : Request) (a : r.Answer) := Happening.turn 0 (.aside 0 0 (.answer r a))
  [.call (.executeDefinition job.definition default), main .freshId job.run,
    main job.beginning (.ok 0 : Except ControlError Token), main (.publish job.started) (),
    main (.recordProgress 0 job.env) (), main .boundary true,
    main (.publish (.stepStarted job.run (Location.top 0).forEvents "parallel" "parallel")) (),
    main (.attempt ⟨.parallel Step.plain [[.ofAction .null]], scope, .top 0, env⟩) (),
    .turn 0 .fork, aside .boundary true,
    aside (.publish (.stepStarted job.run crashPlace.forEvents "action" "action")) (),
    aside (.attempt ⟨.ofAction .null, scope, crashPlace, (env.forkBranch 0).stamp job.identity⟩) (),
    .turn 0 (.aside 0 0 (.crash "boom")), .turn 0 .join,
    main (.publish (.stepCompleted job.run (Location.top 0).forEvents "parallel" result 0)) (),
    main (.recordEnvironment env) (), main (.finish .completed) (.completed, 0),
    main (.publish (.completed job.run 0 0 1
      [StepRecord.toValue ⟨0, "parallel", .ok result⟩])) ()]

private theorem stretch_crashing : ∃ s x e, Stretch .default .initial crashing s ∧
    s.calls[0]? = some x ∧ x.ended? = some (.ok e) :=
  ⟨_, _, _, .cons (.call _ _) <| .cons (.turn rfl (.answer rfl)) <|
    .cons (.turn rfl (.answer ⟨rfl, rfl⟩)) <| .cons (.turn rfl (.answer rfl)) <|
    .cons (.turn rfl (.answer rfl)) <| .cons (.turn rfl (.answer ⟨rfl, rfl⟩)) <|
    .cons (.turn rfl (.answer rfl)) <| .cons (.turn rfl (.answer rfl)) <| .cons (.turn rfl .fork) <|
    .cons (.turn rfl (.branch (b := (0 : Fin 1)) (.answer ⟨rfl, rfl⟩))) <|
    .cons (.turn rfl (.branch (b := (0 : Fin 1)) (.answer rfl))) <|
    .cons (.turn rfl (.branch (b := (0 : Fin 1)) (.answer rfl))) <|
    .cons (.turn rfl (.branch (b := (0 : Fin 1)) (.crash (r := .perform _) trivial "boom"))) <|
    .cons (.turn rfl (.join fun b => (by rw [Subsingleton.elim b 0]; rfl :
      _ = some (Except.error "boom")))) <|
    .cons (.turn rfl (.rest (d := .answer _ _) (.answer rfl))) <|
    .cons (.turn rfl (.rest (d := .answer _ _) (.answer rfl))) <|
    .cons (.turn rfl (.rest (d := .answer _ _) (.answer ⟨rfl, rfl⟩))) <|
    .cons (.turn rfl (.rest (d := .answer _ _) (.answer rfl))) <| .nil _, rfl, rfl⟩

/-- The action in the branch, as events name it. -/
private def crashSpot : Spot := ⟨crashJob.run, crashPlace.path.text⟩

private theorem exists_crashing : ∃ C : Course .default, C.FreshIds ∧ C.Owns 0 crashSpot.run ∧
    (∃ identity token e, C.Uncancelled 0 2 18 identity token e) ∧
      (C.marks crashSpot 18).filter (· ≠ .cut) = [.told .starts] := by
  obtain ⟨s, x, e, p, hx, he⟩ := stretch_crashing
  obtain ⟨C, hC, hrest⟩ := exists_resting_course p
  refine ⟨C, freshIds_of_forall (i := 0) (n := 1) ?_, ⟨1, _, hC 1, rfl⟩,
    ⟨crashJob.identity, 0, e, ?_, ?_, ?_, ?_⟩, ?_⟩
  · rintro i t run ⟨d, hd, ha⟩
    have ht : t < 18 := lt_of_happening hrest hd nofun
    rw [hC] at hd
    interval_cases t <;> cases hd <;> cases ha
    exact ⟨rfl, rfl⟩
  · exact ⟨_, _, _, hC 2, rfl⟩
  · rintro j ⟨m, hm, ⟨_, _, _, _, d, hd, ha⟩, -⟩
    rw [hC] at hd
    interval_cases m <;> cases hd
    cases ha
  · rintro t - ⟨hw, -⟩
    have ht : t < 18 := lt_of_happening hrest hw nofun
    rw [hC] at hw
    interval_cases t <;> cases hw
  · refine ⟨x, ?_, he⟩
    rw [strand?, (hrest 18 (Nat.le_refl 18)).2, hx]
  · have htold : ∀ t < 18, (C.mark? crashSpot t).toList.filter (· ≠ .cut) =
        if t = 10 then [.told .starts] else [] := by
      intro t ht
      rw [mark?, hC]
      interval_cases t
      case «12» =>
        change (if crashSpot ∈ _ then some Mark.cut else none).toList.filter _ = _
        split
        all_goals rfl
      all_goals rfl
    have hmarks : ∀ t ≤ 18, (C.marks crashSpot t).filter (· ≠ .cut) =
        if 10 < t then [.told .starts] else [] := by
      intro t ht
      induction t with
      | zero => rfl
      | succ t ih =>
        rw [marks, List.filter_append, ih (by omega), htold t (by omega)]
        split_ifs <;> first | rfl | omega
    exact hmarks 18 (Nat.le_refl 18)

/-- When the host crashes in a branch, no event tells of the end of the step that is open there,
though nothing cancels the run and its call returns. -/
theorem crashed_step_not_ended : ¬ ∀ (config : Config) (C : Course config), C.FreshIds →
    ∀ i m n identity token e, C.Uncancelled i m n identity token e → ∀ s, C.Owns i s.run →
      Bracketed ((C.marks s n).filter (· ≠ .cut)) false := by
  intro h
  obtain ⟨C, hids, howns, ⟨identity, token, e, hrun⟩, hmarks⟩ := exists_crashing
  have hbracketed := h _ C hids 0 2 18 identity token e hrun crashSpot howns
  rw [hmarks] at hbracketed
  exact nomatch Bracketed.eq_true_of_starts (l := []) hbracketed

end Course

end Workflow

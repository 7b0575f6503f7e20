import Workflow.Proofs.Course.Run
import Mathlib.Tactic.IntervalCases

/-!
# Single flight

A run may begin only while no run goes on. A run that was cancelled no longer goes on for the
engine, yet it is in flight until it has ended: its action, its wait or its branches may still be
under way. So as long as no call asks to begin while a cancelled run is in flight, at most one run
is in flight, and every other call is refused; the first call that asks at such a moment is let in
beside the cancelled run.

## Main definitions

* `Workflow.Course.SingleFlight` — at most one run is in flight.
* `Workflow.Course.Lingers` — a run is in flight although it was cancelled.

## Main results

* `Workflow.Course.singleFlight_iff` — there is single flight, and every call that asks to begin
  beside a run in flight is refused, just as long as no call asks while a cancelled run lingers.
-/

namespace Workflow.Course

variable {config : Config} {C : Course config} {i j m n t : Nat}

/-- At most one run is in flight. -/
def SingleFlight (C : Course config) (n : Nat) : Prop :=
  ∀ i j, C.InFlight i n → C.InFlight j n → i = j

/-- The run of the call is in flight, but the engine was asked to cancel since it has begun. -/
def Lingers (C : Course config) (i n : Nat) : Prop :=
  C.InFlight i n ∧ ∃ m < n, C.InFlight i m ∧ C.happening m = .control .cancel

/-- The engine refuses to begin a run just when one goes on for it. -/
theorem begin_refused_iff {identity : Identity} {total : Nat} {env : Environment}
    {a : Except ControlError Token} (h : C.Does i n (.begin identity total env) a) :
    (a = .error .alreadyRunning ↔ (C.state n).isActive = true) ∧
      (C.Begins i n ↔ a ≠ .error .alreadyRunning) := by
  have hbegins : C.Begins i n ↔ ∃ token, a = .ok token := by
    constructor
    · rintro ⟨_, _, _, token, hb⟩
      cases (does_unique h hb).2
      exact ⟨token, rfl⟩
    · rintro ⟨token, rfl⟩
      exact ⟨_, _, _, token, h⟩
  have ha := answers_of_does h
  rw [hbegins]
  simp only [Control.Answers, Control.begin] at ha
  by_cases hs : (C.situation n).runs.state.isActive = true
  · simp only [hs, if_true] at ha
    obtain ⟨rfl, -⟩ := ha
    simp [state, hs]
  · simp only [hs] at ha
    obtain ⟨rfl, -⟩ := ha
    simp [state, hs]

theorem lingers_iff (hb : C.Begins i m) (hmn : m < n) (hf : ∀ t, m < t → t < n → ¬ C.Finishes i t) :
    C.Lingers i n ↔ C.CancelledWithin m n := by
  constructor
  · rintro ⟨-, t, htn, ⟨m', hm', hb', -⟩, ht⟩
    obtain rfl := begins_once hb hb'
    exact ⟨t, hm', htn, ht⟩
  · rintro ⟨t, hmt, htn, ht⟩
    refine ⟨inFlight_of_begins hb hmn hf, t, htn, ?_, ht⟩
    exact inFlight_of_begins hb hmt fun t' h h' => hf t' h (by omega)

/-- With single flight so far, a run in flight lingers or goes on for the engine. -/
theorem lingers_or_active (h : ∀ t ≤ n, C.SingleFlight t) (hi : C.InFlight i n) :
    (C.Lingers i n → C.state n = .cancelled) ∧ (¬ C.Lingers i n → (C.state n).isActive = true) := by
  obtain ⟨m, hmn, ⟨_, _, _, token, hb⟩, hf⟩ := hi
  have hf : ∀ t, m < t → t < n → ¬ C.Finishes i t := fun t h => hf t (Nat.le_of_lt h)
  have hbegins : C.Begins i m := ⟨_, _, _, _, hb⟩
  have alone : C.Alone i m n := by
    intro t hmt htn j hj
    refine h t htn j i hj (inFlight_of_begins hbegins hmt fun t' h h' => hf t' h (by omega))
  have hs := serves hb hmn hf alone
  rw [lingers_iff hbegins hmn hf]
  exact ⟨hs.ended, hs.goesOn⟩

/-- Single flight is kept unless a run begins beside another. -/
theorem singleFlight_succ (h : C.SingleFlight n) (hn : ∀ i j, C.InFlight i n → ¬ C.Begins j n) :
    C.SingleFlight (n + 1) := by
  intro i j hi hj
  rcases inFlight_succ.mp hi with ⟨_, _, _, _, hbi⟩ | ⟨hi, -⟩
  · rcases inFlight_succ.mp hj with ⟨_, _, _, _, hbj⟩ | ⟨hj, -⟩
    · exact (does_unique hbi hbj).1
    · exact absurd ⟨_, _, _, _, hbi⟩ (hn j i hj)
  · rcases inFlight_succ.mp hj with hbj | ⟨hj, -⟩
    · exact absurd hbj (hn i j hi)
    · exact h i j hi hj

theorem singleFlight_zero : C.SingleFlight 0 := fun _ _ ⟨_, hm, _⟩ => absurd hm (Nat.not_lt_zero _)

theorem singleFlight_of_begins_alone (h : ∀ t < n, ∀ i j, C.InFlight i t → ¬ C.Begins j t) :
    ∀ t ≤ n, C.SingleFlight t
  | 0, _ => singleFlight_zero
  | t + 1, ht =>
    singleFlight_succ (singleFlight_of_begins_alone h t (Nat.le_of_succ_le ht)) (h t ht)

/-- A run that begins beside another has its call let in, and both are in flight then. -/
theorem not_begins_of_singleFlight (h : C.SingleFlight (n + 1)) (hi : C.InFlight i n) :
    ¬ C.Begins j n := by
  rintro ⟨identity, total, env, token, hb⟩
  have hni : ¬ C.Finishes i n := fun ⟨_, _, hd⟩ => nomatch (does_unique hb hd).2
  have hij := h i j (inFlight_succ.mpr (.inr ⟨hi, hni⟩)) (inFlight_succ.mpr (.inl ⟨_, _, _, _, hb⟩))
  exact not_inFlight_of_asksToBegin ⟨_, _, _, _, hb⟩ (hij ▸ hi)

/-- As long as no call asks to begin while a run lingers, no run begins beside another. -/
theorem singleFlight_of_no_lingering (h : ∀ t < n, ∀ i j, C.Lingers i t → ¬ C.AsksToBegin j t) :
    ∀ t ≤ n, C.SingleFlight t := by
  intro t
  induction t using Nat.strongRecOn with
  | ind t ih =>
    intro htn
    refine singleFlight_of_begins_alone (fun t' ht' i j hi hb => ?_) t (Nat.le_refl t)
    have hs : ∀ t ≤ t', C.SingleFlight t := fun u hu => ih u (by omega) (by omega)
    obtain ⟨_, _, _, _, hd⟩ := hb
    obtain ⟨hr, hb⟩ := begin_refused_iff hd
    have hl : ¬ C.Lingers i t' := fun hl => h t' (by omega) i j hl ⟨_, _, _, _, hd⟩
    exact nomatch hr.mpr ((lingers_or_active hs hi).2 hl)

/-- At most one run is in flight up to a moment if and only if no call asks to begin before it while
a cancelled run lingers; and if and only if so, every call that asks to begin beside a run in flight
is told that a workflow is already running. -/
theorem singleFlight_iff (C : Course config) (n : Nat) :
    ((∀ t ≤ n, C.SingleFlight t) ↔ ∀ t < n, ∀ i j, C.Lingers i t → ¬ C.AsksToBegin j t) ∧
    ((∀ t < n, ∀ i j identity total env a, C.InFlight i t →
        C.Does j t (.begin identity total env) a → a = .error .alreadyRunning) ↔
      ∀ t < n, ∀ i j, C.Lingers i t → ¬ C.AsksToBegin j t) := by
  have of_single (h : ∀ t ≤ n, C.SingleFlight t) :
      ∀ t < n, ∀ i j, C.Lingers i t → ¬ C.AsksToBegin j t := by
    rintro t ht i j hl ⟨_, _, _, a, hd⟩
    obtain ⟨hr, hb⟩ := begin_refused_iff hd
    refine not_begins_of_singleFlight (h (t + 1) ht) hl.1 (hb.mpr fun ha => ?_)
    have hs := (lingers_or_active (fun u hu => h u (by omega)) hl.1).1 hl
    rw [hr, hs] at ha
    exact nomatch ha
  refine ⟨⟨of_single, singleFlight_of_no_lingering⟩, fun h => of_single ?_, fun h => ?_⟩
  · refine singleFlight_of_begins_alone fun t ht i j hi hb => ?_
    obtain ⟨_, _, _, _, hd⟩ := hb
    exact nomatch h t ht i j _ _ _ _ hi hd
  · intro t ht i j identity total env a hi hd
    have hs := singleFlight_of_no_lingering h
    exact (begin_refused_iff hd).1.mpr ((lingers_or_active (fun u hu => hs u (by omega)) hi).2
      fun hl => h t ht i j hl ⟨_, _, _, _, hd⟩)

/-! ### A run beside one that was cancelled -/

/-- A job of a single action. -/
private def actionJob (run : Nat) : Job := ⟨.named "job" [.ofAction .null], default, .ofNat run⟩

/-- A run is begun and cancelled at once, and before it has ended another is begun. -/
private def overtaking : List Happening :=
  let called := .call (.executeDefinition (actionJob 0).definition default)
  let named (i : Nat) := .turn i (.answer .freshId (RunId.ofNat i))
  let begun (i : Nat) :=
    .turn i (.answer (actionJob i).beginning (.ok i : Except ControlError Token))
  [called, named 0, begun 0, .control .cancel, called, named 1, begun 1]

private theorem stretch_overtaking : ∃ s, Stretch .default .initial overtaking s :=
  ⟨_, .cons (.call _ _) <| .cons (.turn rfl (.answer rfl)) <|
    .cons (.turn rfl (.answer ⟨rfl, rfl⟩)) <| .cons (.control _ _) <| .cons (.call _ _) <|
    .cons (.turn rfl (.answer rfl)) <| .cons (.turn rfl (.answer ⟨rfl, rfl⟩)) <| .nil _⟩

/-- A call that asks to begin while a cancelled run lingers is let in: two runs are in flight. -/
theorem two_in_flight : ¬ ∀ (config : Config) (C : Course config) (n : Nat), C.SingleFlight n := by
  obtain ⟨s, hs⟩ := stretch_overtaking
  obtain ⟨C, hC, -⟩ := exists_resting_course hs
  have hf : ∀ i t, t < 7 → ¬ C.Finishes i t := by
    rintro i t ht ⟨o, p, d, hd, ha⟩
    rw [hC] at hd
    interval_cases t <;> cases hd <;> cases ha
  intro h
  have h0 : C.InFlight 0 7 :=
    ⟨2, by omega, ⟨_, _, _, _, _, hC 2, rfl⟩, fun t _ ht => hf 0 t ht⟩
  have h1 : C.InFlight 1 7 :=
    ⟨6, by omega, ⟨_, _, _, _, _, hC 6, rfl⟩, fun t _ ht => hf 1 t ht⟩
  exact nomatch h _ C 7 0 1 h0 h1

end Workflow.Course

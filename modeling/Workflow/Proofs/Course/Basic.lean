import Workflow.Proofs.Strand.Call
import Mathlib.Data.Nat.Init

/-!
# Courses of an engine

What happens on an engine, one thing after another: it is called, it is asked to pause, to resume or
to cancel, or one of the calls made so far takes a turn. Calls may be made at any time and take
their turns in any order, and what a host, a clock or a registry answers is left open; so a course
is any interleaving of calls, requests and turns, each of them indivisible. It goes on forever, if
only by resting.

## Main definitions

* `Workflow.Situation`, `Workflow.Happening`, `Workflow.Moves` — the steps of an engine.
* `Workflow.Course` — what happens from the start on.
* `Workflow.Course.turns` — the turns that a call has taken.
* `Workflow.Course.Begins`, `Workflow.Course.Finishes`, `Workflow.Course.InFlight` — the run of a
  call.

## Main results

* `Workflow.Course.stage` — every call is at one of its stages.
* `Workflow.exists_course`, `Workflow.exists_resting_course` — what can happen in finitely many
  steps happens on a course.
-/

namespace Workflow

/-! ### Steps of an engine -/

/-- The control of an engine and the calls that were made, in their order. -/
structure Situation where
  runs : Control
  calls : List (Strand RunEnd)

namespace Situation

/-- The situation of an engine that was asked for nothing. -/
def initial : Situation := ⟨.initial, []⟩

end Situation

/-- What happens in a step. -/
inductive Happening where
  | rest
  | call (k : Errand)
  | control (c : ControlRequest)
  /-- A call takes a turn. -/
  | turn (call : Nat) (deed : Deed)

/-- The steps of an engine. -/
inductive Moves (config : Config) : Situation → Happening → Situation → Prop
  | rest (s : Situation) : Moves config s .rest s
  | call (s : Situation) (k : Errand) :
      Moves config s (.call k) ⟨s.runs, s.calls ++ [.line (k.flow config)]⟩
  | control (s : Situation) (c : ControlRequest) :
      Moves config s (.control c) ⟨s.runs.asked c, s.calls⟩
  | turn {s : Situation} {i : Nat} {x y : Strand RunEnd} {d : Deed} {c : Control}
      (hi : s.calls[i]? = some x) (t : Turn s.runs x d c y) :
      Moves config s (.turn i d) ⟨c, s.calls.set i y⟩

section

variable {config : Config} {s s' : Situation} {w : Happening} {i : Nat}

/-- A call after a step is as it was before, or it is made in the step, or takes a turn in it. -/
theorem calls_of_moves {x : Strand RunEnd} (h : Moves config s w s') (hx : s'.calls[i]? = some x) :
    (s.calls[i]? = some x ∧ ∀ d, w ≠ .turn i d) ∨
      (∃ k : Errand, w = .call k ∧ s.calls.length = i ∧ x = .line (k.flow config)) ∨
      ∃ d y, w = .turn i d ∧ s.calls[i]? = some y ∧ Turn s.runs y d s'.runs x := by
  cases h with
  | rest => exact .inl ⟨hx, fun _ h => nomatch h⟩
  | control c => exact .inl ⟨hx, fun _ h => nomatch h⟩
  | call k =>
    rcases Nat.lt_or_ge i s.calls.length with hi | hi
    · rw [List.getElem?_append_left hi] at hx
      exact .inl ⟨hx, fun _ h => nomatch h⟩
    · rw [List.getElem?_append_right hi] at hx
      obtain ⟨hi', hx⟩ := List.getElem?_eq_some_iff.mp hx
      rw [List.length_singleton] at hi'
      exact .inr (.inl ⟨k, rfl, by omega, hx ▸ by simp⟩)
  | @turn j y z d c hj t =>
    rcases eq_or_ne j i with rfl | hji
    · have hlt : j < s.calls.length := (List.getElem?_eq_some_iff.mp hj).1
      rw [List.getElem?_set_self hlt] at hx
      cases hx
      exact .inr (.inr ⟨d, y, rfl, hj, t⟩)
    · rw [List.getElem?_set_ne hji] at hx
      refine .inl ⟨hx, ?_⟩
      rintro d ⟨⟩
      exact hji rfl

/-- Apart from turns, only what is asked for from outside changes the control. -/
theorem runs_of_moves (h : Moves config s w s') : (∃ j d, w = .turn j d) ∨
    (∃ c, w = .control c ∧ s'.runs = s.runs.asked c) ∨
      (∀ c, w ≠ .control c) ∧ (∀ j d, w ≠ .turn j d) ∧ s'.runs = s.runs := by
  cases h with
  | rest => exact .inr (.inr ⟨fun _ h => (nomatch h), fun _ _ h => (nomatch h), rfl⟩)
  | call k => exact .inr (.inr ⟨fun _ h => (nomatch h), fun _ _ h => (nomatch h), rfl⟩)
  | control c => exact .inr (.inl ⟨c, rfl, rfl⟩)
  | turn => exact .inl ⟨_, _, rfl⟩

theorem situation_of_moves_rest (h : Moves config s .rest s') : s' = s := by
  cases h
  rfl

theorem length_calls_of_moves (h : Moves config s w s') : s.calls.length ≤ s'.calls.length ∧
    ∀ k, w = .call k → s.calls.length < s'.calls.length := by
  cases h with
  | rest => exact ⟨Nat.le_refl _, fun _ h => nomatch h⟩
  | call k => simp
  | control c => exact ⟨Nat.le_refl _, fun _ h => nomatch h⟩
  | turn => exact ⟨by simp, fun _ h => nomatch h⟩

theorem turn_of_moves {d : Deed} (h : Moves config s (.turn i d) s') :
    ∃ x y, s.calls[i]? = some x ∧ s'.calls[i]? = some y ∧ Turn s.runs x d s'.runs y := by
  cases h with
  | turn hi t =>
    exact ⟨_, _, hi, List.getElem?_set_self (List.getElem?_eq_some_iff.mp hi).1, t⟩

/-- Calls stay; a call is the same after a step in which it takes no turn. -/
theorem calls_kept_of_moves {x : Strand RunEnd} (h : Moves config s w s')
    (hx : s.calls[i]? = some x) : ∃ y, s'.calls[i]? = some y ∧ ((∀ d, w ≠ .turn i d) → y = x) := by
  have hlt : i < s.calls.length := (List.getElem?_eq_some_iff.mp hx).1
  cases h with
  | rest => exact ⟨x, hx, fun _ => rfl⟩
  | control c => exact ⟨x, hx, fun _ => rfl⟩
  | call k => exact ⟨x, by rw [List.getElem?_append_left hlt, hx], fun _ => rfl⟩
  | @turn j y z d c hj t =>
    rcases eq_or_ne j i with rfl | hji
    · exact ⟨z, List.getElem?_set_self hlt, fun h => absurd rfl (h d)⟩
    · exact ⟨x, by rw [List.getElem?_set_ne hji, hx], fun _ => rfl⟩

end

/-- What happens on an engine from its start on. -/
structure Course (config : Config) where
  situation : Nat → Situation
  happening : Nat → Happening
  start : situation 0 = .initial
  moves : ∀ n, Moves config (situation n) (happening n) (situation (n + 1))

/-- Finitely many steps of an engine. -/
inductive Stretch (config : Config) : Situation → List Happening → Situation → Prop
  | nil (s : Situation) : Stretch config s [] s
  | cons {s s' s'' : Situation} {w : Happening} {ws : List Happening} (h : Moves config s w s')
      (p : Stretch config s' ws s'') : Stretch config s (w :: ws) s''

section

variable {config : Config} {s s' s'' : Situation} {ws ws' : List Happening}

private theorem exists_situations_cons {w : Happening} (h : Moves config s w s')
    {σ : Nat → Situation} (hs : σ 0 = s')
    (hm : ∀ n, Moves config (σ n) (ws[n]?.getD .rest) (σ (n + 1))) :
    ∃ σ' : Nat → Situation, σ' 0 = s ∧ (∀ n, σ' (n + 1) = σ n) ∧
      ∀ n, Moves config (σ' n) ((w :: ws)[n]?.getD .rest) (σ' (n + 1)) := by
  subst hs
  refine ⟨fun n => n.casesOn s σ, rfl, fun _ => rfl, fun n => ?_⟩
  cases n with
  | zero => exact h
  | succ n => exact hm n

private theorem exists_situations (p : Stretch config s ws s') : ∃ σ : Nat → Situation, σ 0 = s ∧
    ∀ n, Moves config (σ n) (ws[n]?.getD .rest) (σ (n + 1)) := by
  induction p with
  | nil s => exact ⟨fun _ => s, rfl, fun _ => .rest s⟩
  | cons h _ ih =>
    obtain ⟨σ, hs, hm⟩ := ih
    obtain ⟨σ', hs', -, hm'⟩ := exists_situations_cons h hs hm
    exact ⟨σ', hs', hm'⟩

private theorem exists_situations_append (p : Stretch config s ws s')
    (q : Stretch config s' ws' s'') : ∃ σ : Nat → Situation, σ 0 = s ∧
      (∀ n, Moves config (σ n) ((ws ++ ws')[n]?.getD .rest) (σ (n + 1))) ∧ σ ws.length = s' := by
  induction p with
  | nil s =>
    obtain ⟨σ, hs, hm⟩ := exists_situations q
    exact ⟨σ, hs, hm, hs⟩
  | cons h _ ih =>
    obtain ⟨σ, hs, hm, he⟩ := ih q
    obtain ⟨σ', hs', hσ, hm'⟩ := exists_situations_cons h hs hm
    exact ⟨σ', hs', hm', (hσ _).trans he⟩

/-- What can happen in finitely many steps happens on a course, which rests then. -/
theorem exists_course (p : Stretch config .initial ws s) (q : Stretch config s ws' s') :
    ∃ C : Course config,
      (∀ n, C.happening n = (ws ++ ws')[n]?.getD .rest) ∧ C.situation ws.length = s := by
  obtain ⟨σ, hs, hm, he⟩ := exists_situations_append p q
  exact ⟨⟨σ, fun n => (ws ++ ws')[n]?.getD .rest, hs, hm⟩, fun _ => rfl, he⟩

/-- What can happen in finitely many steps happens on a course on which nothing happens then. -/
theorem exists_resting_course (p : Stretch config .initial ws s) : ∃ C : Course config,
    (∀ n, C.happening n = ws[n]?.getD .rest) ∧
      ∀ n ≥ ws.length, C.happening n = .rest ∧ C.situation n = s := by
  obtain ⟨C, hC, hs⟩ := exists_course p (.nil s)
  rw [List.append_nil] at hC
  have hrest : ∀ n ≥ ws.length, C.happening n = .rest := by
    intro n hn
    rw [hC, List.getElem?_eq_none hn]
    rfl
  refine ⟨C, hC, fun n hn => ⟨hrest n hn, ?_⟩⟩
  induction n, hn using Nat.le_induction with
  | base => exact hs
  | succ n hn ih => exact (situation_of_moves_rest (hrest n hn ▸ C.moves n)).trans ih

end

namespace Course

variable {config : Config} (C : Course config)

/-! ### What calls do -/

/-- The state of the engine. -/
def state (n : Nat) : RunState := (C.situation n).runs.state

/-- The strand of a call, if it was made. -/
def strand? (i n : Nat) : Option (Strand RunEnd) := (C.situation n).calls[i]?

/-- The call was made for an errand. -/
def Called (i : Nat) (k : Errand) : Prop :=
  ∃ n, C.happening n = .call k ∧ (C.situation n).calls.length = i

/-- The call has returned. -/
def Returned (i n : Nat) (e : RunEnd) : Prop :=
  ∃ x, C.strand? i n = some x ∧ x.ended? = some (.ok e)

/-- A request of the call, or of one of its branches, is answered. -/
def Does (i n : Nat) (r : Request) (a : r.Answer) : Prop :=
  ∃ d, C.happening n = .turn i d ∧ d.answered? = some ⟨r, a⟩

/-- The call asks to begin a run. -/
def AsksToBegin (i n : Nat) : Prop :=
  ∃ identity total env a, C.Does i n (.begin identity total env) a

/-- The run of the call begins. -/
def Begins (i n : Nat) : Prop :=
  ∃ identity total env token, C.Does i n (.begin identity total env) (.ok token)

/-- The run of the call ends. -/
def Finishes (i n : Nat) : Prop := ∃ outcome a, C.Does i n (.finish outcome) a

/-- The run of the call has begun and has not ended yet. -/
def InFlight (i n : Nat) : Prop := ∃ m < n, C.Begins i m ∧ ∀ t, m ≤ t → t < n → ¬ C.Finishes i t

/-- No identifier is given out twice. -/
def FreshIds : Prop :=
  ∀ i j m n run, C.Does i m .freshId run → C.Does j n .freshId run → i = j ∧ m = n

/-- The turns that a call has taken. -/
def turns (i : Nat) : Nat → List Stroke
  | 0 => []
  | n + 1 =>
    match C.happening n with
    | .turn j d => if j = i then turns i n ++ [⟨n, (C.situation n).runs, d⟩] else turns i n
    | _ => turns i n

section

variable {C} {i n : Nat}

/-- What happens on a course that rests from some step on happens before. -/
theorem lt_of_happening {s : Situation} {m : Nat} {w : Happening}
    (hrest : ∀ t ≥ m, C.happening t = .rest ∧ C.situation t = s) (hw : C.happening n = w)
    (hne : w ≠ .rest) : n < m := by
  by_contra hn
  exact hne (hw.symm.trans (hrest n (Nat.not_lt.mp hn)).1)

/-- Where one identifier is given out, none is given out twice. -/
theorem freshIds_of_forall (h : ∀ j m run, C.Does j m .freshId run → j = i ∧ m = n) :
    C.FreshIds := by
  intro j j' m m' run hd hd'
  obtain ⟨rfl, rfl⟩ := h j m run hd
  obtain ⟨rfl, rfl⟩ := h j' m' run hd'
  exact ⟨rfl, rfl⟩

/-! ### Turns of a call -/

/-- A turn of a call is one that its strand takes. -/
theorem turn_of_happening {d : Deed} (h : C.happening n = .turn i d) :
    ∃ x y, C.strand? i n = some x ∧ C.strand? i (n + 1) = some y ∧
      Turn (C.situation n).runs x d (C.situation (n + 1)).runs y :=
  turn_of_moves (h ▸ C.moves n)

theorem strand?_succ {x : Strand RunEnd} (h : C.strand? i n = some x)
    (hd : ∀ d, C.happening n ≠ .turn i d) : C.strand? i (n + 1) = some x := by
  obtain ⟨y, hy, he⟩ := calls_kept_of_moves (C.moves n) h
  exact he hd ▸ hy

/-- In a step of the engine a call takes a turn, or it stays as it is. -/
theorem turn_or_idle {x : Strand RunEnd} (h : C.strand? i n = some x) :
    (∃ d y, C.happening n = .turn i d ∧ C.strand? i (n + 1) = some y ∧
      Turn (C.situation n).runs x d (C.situation (n + 1)).runs y) ∨
    (∀ d, C.happening n ≠ .turn i d) ∧ C.strand? i (n + 1) = some x := by
  by_cases hd : ∃ d, C.happening n = .turn i d
  · obtain ⟨d, hd⟩ := hd
    obtain ⟨z, y, hz, hy, t⟩ := turn_of_happening hd
    cases h.symm.trans hz
    exact .inl ⟨d, y, hd, hy, t⟩
  · have hidle := not_exists.mp hd
    exact .inr ⟨hidle, strand?_succ h hidle⟩

theorem turns_turn {d : Deed} (h : C.happening n = .turn i d) :
    C.turns i (n + 1) = C.turns i n ++ [⟨n, (C.situation n).runs, d⟩] := by
  rw [turns, h]
  exact if_pos rfl

theorem turns_idle (h : ∀ d, C.happening n ≠ .turn i d) : C.turns i (n + 1) = C.turns i n := by
  rw [turns]
  split
  · next j d hj =>
    refine if_neg ?_
    rintro rfl
    exact h d hj
  · rfl

theorem mem_turns {s : Stroke} : (n : Nat) → (s ∈ C.turns i n ↔
    s.time < n ∧ C.happening s.time = .turn i s.deed ∧ s.control = (C.situation s.time).runs)
  | 0 => ⟨fun h => (nomatch h), fun h => absurd h.1 (Nat.not_lt_zero _)⟩
  | n + 1 => by
    by_cases hd : ∃ d, C.happening n = .turn i d
    · obtain ⟨d, hd⟩ := hd
      rw [turns_turn hd, List.mem_append, mem_turns n, List.mem_singleton]
      constructor
      · rintro (⟨ht, h⟩ | rfl)
        · exact ⟨by omega, h⟩
        · exact ⟨Nat.lt_succ_self n, hd, rfl⟩
      · rintro ⟨ht, h, hc⟩
        rcases Nat.lt_succ_iff_lt_or_eq.mp ht with ht | ht
        · exact .inl ⟨ht, h, hc⟩
        · obtain ⟨time, c, d'⟩ := s
          subst ht
          cases hd.symm.trans h
          exact .inr (congrArg (Stroke.mk _ · _) hc)
    · have hd := not_exists.mp hd
      rw [turns_idle hd, mem_turns n]
      refine and_congr_left fun h => ⟨fun ht => by omega, fun ht => ?_⟩
      rcases Nat.lt_succ_iff_lt_or_eq.mp ht with ht | ht
      · exact ht
      · exact absurd (ht ▸ h.1) (hd _)

/-- Before a turn that a call has taken come the turns up to its time. -/
theorem turns_of_append {l r : List Stroke} {s : Stroke} :
    {n : Nat} → C.turns i n = l ++ s :: r → C.turns i s.time = l
  | 0, h => absurd h (by simp [turns])
  | n + 1, h => by
    by_cases hd : ∃ d, C.happening n = .turn i d
    · obtain ⟨d, hd⟩ := hd
      rw [turns_turn hd] at h
      rcases eq_or_ne r [] with rfl | hr
      · obtain ⟨hl, hs⟩ := List.append_inj' h rfl
        exact List.singleton_inj.mp hs ▸ hl
      · obtain ⟨r, s', rfl⟩ : ∃ r' s', r = r' ++ [s'] :=
          ⟨_, _, (List.dropLast_concat_getLast hr).symm⟩
        rw [← List.cons_append, ← List.append_assoc] at h
        exact turns_of_append (List.append_inj' h rfl).1
    · rw [turns_idle (not_exists.mp hd)] at h
      exact turns_of_append h

/-- Calls are not taken back. -/
theorem exists_strand_add {x : Strand RunEnd} (h : C.strand? i n = some x) :
    (k : Nat) → ∃ y, C.strand? i (n + k) = some y
  | 0 => ⟨x, h⟩
  | k + 1 => by
    obtain ⟨y, hy⟩ := exists_strand_add h k
    obtain ⟨z, hz, -⟩ := calls_kept_of_moves (C.moves (n + k)) hy
    exact ⟨z, hz⟩

theorem length_calls_add (C : Course config) (n : Nat) :
    (k : Nat) → (C.situation n).calls.length ≤ (C.situation (n + k)).calls.length
  | 0 => Nat.le_refl _
  | k + 1 => Nat.le_trans (length_calls_add C n k) (length_calls_of_moves (C.moves (n + k))).1

/-- A call is made once. -/
theorem called_unique {k k' : Errand} (h : C.Called i k) (h' : C.Called i k') : k = k' := by
  obtain ⟨n, hw, hn⟩ := h
  obtain ⟨n', hw', hn'⟩ := h'
  have later : ∀ {m m' : Nat} {k : Errand}, C.happening m = .call k → m < m' →
      (C.situation m).calls.length < (C.situation m').calls.length := by
    intro m m' k hw hm
    have hle := length_calls_add C (m + 1) (m' - (m + 1))
    rw [Nat.add_sub_cancel' hm] at hle
    exact Nat.lt_of_lt_of_le ((length_calls_of_moves (C.moves m)).2 k hw) hle
  rcases Nat.lt_trichotomy n n' with hlt | rfl | hlt
  · exact absurd (later hw hlt) (by omega)
  · exact Happening.call.inj (hw.symm.trans hw')
  · exact absurd (later hw' hlt) (by omega)

theorem turns_of_not_made : {n : Nat} → C.strand? i n = none → C.turns i n = []
  | 0, _ => rfl
  | n + 1, h => by
    cases hx : C.strand? i n with
    | some x =>
      obtain ⟨y, hy, -⟩ := calls_kept_of_moves (C.moves n) hx
      exact nomatch hy.symm.trans h
    | none =>
      rw [turns_idle fun d hd => ?_, turns_of_not_made hx]
      obtain ⟨x, y, hi, -⟩ := turn_of_happening hd
      exact nomatch hi.symm.trans hx

/-- A call that was made has been carried on by its turns. -/
theorem follows {x : Strand RunEnd} : {n : Nat} → C.strand? i n = some x →
    ∃ k : Errand, C.Called i k ∧ Follows (.line (k.flow config)) (C.turns i n) x
  | 0, h => by
    rw [strand?, C.start] at h
    exact nomatch h
  | n + 1, h => by
    rcases calls_of_moves (C.moves n) h with ⟨hx, hd⟩ | ⟨k, hw, hi, rfl⟩ | ⟨d, y, hd, hy, t⟩
    · rw [turns_idle hd]
      exact follows hx
    · have hnone : C.strand? i n = none := List.getElem?_eq_none (Nat.le_of_eq hi)
      rw [turns_idle fun d hd => (nomatch hw.symm.trans hd), turns_of_not_made hnone]
      exact ⟨k, ⟨n, hw, hi⟩, .refl _⟩
    · obtain ⟨k, hc, hk⟩ := follows hy
      rw [turns_turn hd]
      exact ⟨k, hc, .turn hk t⟩

/-- Every call is at one of its stages. -/
theorem stage {x : Strand RunEnd} (h : C.strand? i n = some x) :
    ∃ k, C.Called i k ∧ Stage config k (C.turns i n) x := by
  obtain ⟨k, hc, hk⟩ := follows h
  exact ⟨k, hc, stage_follows hk⟩

end

end Course

end Workflow

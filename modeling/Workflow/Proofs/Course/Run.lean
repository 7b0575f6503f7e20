import Workflow.Proofs.Course.Basic

/-!
# Runs on a course

Every call begins at most one run, and ends it at most once and only after it has begun. Only calls
that begin or end a run, and requests from outside, change the state of the engine; all other turns
leave it as it is.

## Main definitions

* `Workflow.Course.Change` — what a step of a course does to the state of the engine.
* `Workflow.Control.Serves` — the engine serves the run with a token.

## Main results

* `Workflow.Course.inFlight_of_finishes`, `Workflow.Course.not_inFlight_of_asksToBegin`.
* `Workflow.Course.change` — every step is such a change.
* `Workflow.Course.serves` — while a run is alone in flight, the engine serves it.
-/

namespace Workflow

/-! ### Serving a run -/

/-- The engine serves the run that has begun with a token, which was cancelled or was not. -/
structure Control.Serves (c : Control) (token : Token) (hit : Prop) : Prop where
  latest : c.tokens.length = token + 1
  cancelled : c.isCancelled token = true ↔ hit
  ended : hit → c.state = .cancelled
  goesOn : ¬ hit → c.state.isActive = true

section

variable {c c' : Control} {token : Token} {hit : Prop}

theorem Control.serves_begin {identity : Identity} {total : Nat} {env : Environment}
    (h : c.begin identity total env = .ok (token, c')) :
    c.state.isActive = false ∧ c'.Serves token False := by
  unfold Control.begin at h
  split at h
  · exact nomatch h
  · next hs =>
    cases h
    refine ⟨by simpa using hs, by simp, ?_, fun h => h.elim, fun _ => rfl⟩
    simp [Control.isCancelled]

theorem Control.Serves.still (h : c.Serves token hit) (hs : c'.state = c.state)
    (ht : c'.tokens = c.tokens) : c'.Serves token hit where
  latest := ht ▸ h.latest
  cancelled := by rw [← h.cancelled, Control.isCancelled, Control.isCancelled, ht]
  ended := hs ▸ h.ended
  goesOn := hs ▸ h.goesOn

theorem Control.Serves.hit_of_cancelled (h : c.Serves token hit) (hs : c.state = .cancelled) :
    hit := by
  by_contra hn
  have hactive := h.goesOn hn
  rw [hs] at hactive
  exact nomatch hactive

/-- Pausing and resuming neither cancels a run nor ends it. -/
theorem Control.asked_of_ne_cancel {r : ControlRequest} (hr : r ≠ .cancel) (c : Control) :
    (c.asked r).tokens = c.tokens ∧ (c.asked r).state.isActive = c.state.isActive ∧
      ((c.asked r).state = .cancelled ↔ c.state = .cancelled) := by
  obtain ⟨state, tokens, progress⟩ := c
  cases r with
  | cancel => exact absurd rfl hr
  | pause => cases state <;> simp [asked, pause, RunState.isActive]
  | resume => cases state <;> simp [asked, resume, RunState.isActive]

theorem Control.Serves.asked (h : c.Serves token hit) (r : ControlRequest) :
    (c.asked r).Serves token (hit ∨ r = .cancel) := by
  by_cases hr : r = .cancel
  · subst hr
    by_cases ha : c.state.isActive = true
    · have hc : c.asked .cancel =
          { c with state := .cancelled, tokens := c.tokens.set (c.tokens.length - 1) true } :=
        if_pos ha
      rw [hc]
      refine ⟨by simpa using h.latest, ?_, fun _ => rfl, fun h => absurd (.inr rfl) h⟩
      simp [isCancelled, h.latest]
    · have hhit : hit := not_not.mp fun hn => ha (h.goesOn hn)
      have hc : c.asked .cancel = c := if_neg ha
      rw [hc]
      exact ⟨h.latest, by simp [h.cancelled, hhit], fun _ => h.ended hhit,
        fun h => absurd (.inr rfl) h⟩
  · obtain ⟨ht, ha, hc⟩ := asked_of_ne_cancel hr c
    simp only [hr, or_false]
    refine ⟨ht ▸ h.latest, ?_, fun hit => hc.mpr (h.ended hit), fun hn => ha ▸ h.goesOn hn⟩
    rw [isCancelled, ht]
    exact h.cancelled

end

namespace Course

variable {config : Config} {C : Course config} {i j m n t : Nat}

/-! ### Milestones -/

theorem answers_of_does {r : Request} {a : r.Answer} (h : C.Does i n r a) :
    (C.situation n).runs.Answers r a (C.situation (n + 1)).runs := by
  obtain ⟨d, hd, ha⟩ := h
  obtain ⟨x, y, -, -, t⟩ := turn_of_happening hd
  exact (answers_turn t).1 r a ha

/-- A call does one thing at a time, and only one call does something at a time. -/
theorem does_unique {r r' : Request} {a : r.Answer} {a' : r'.Answer} (h : C.Does i n r a)
    (h' : C.Does j n r' a') : i = j ∧ (⟨r, a⟩ : (r : Request) × r.Answer) = ⟨r', a'⟩ := by
  obtain ⟨d, hd, ha⟩ := h
  obtain ⟨d', hd', ha'⟩ := h'
  cases hd.symm.trans hd'
  exact ⟨rfl, Option.some.inj (ha.symm.trans ha')⟩

/-- What a call does is among its turns from then on. -/
theorem mem_turns_of_does {r : Request} {a : r.Answer} (h : C.Does i t r a) (ht : t < n) :
    ∃ s ∈ C.turns i n, s.time = t ∧ s.deed.answered? = some ⟨r, a⟩ := by
  obtain ⟨d, hd, ha⟩ := h
  exact ⟨⟨t, (C.situation t).runs, d⟩, (mem_turns n).mpr ⟨ht, hd, rfl⟩, rfl, ha⟩

theorem does_of_mem_turns {s : Stroke} {r : Request} {a : r.Answer} (h : s ∈ C.turns i n)
    (ha : s.deed.answered? = some ⟨r, a⟩) : s.time < n ∧ C.Does i s.time r a := by
  obtain ⟨ht, hd, -⟩ := (mem_turns n).mp h
  exact ⟨ht, s.deed, hd, ha⟩

theorem exists_stage_of_does {r : Request} {a : r.Answer} (h : C.Does i n r a) :
    ∃ k x, C.Called i k ∧ C.strand? i (n + 1) = some x ∧ Stage config k (C.turns i (n + 1)) x := by
  obtain ⟨d, hd, -⟩ := h
  obtain ⟨x, y, -, hy, -⟩ := turn_of_happening hd
  obtain ⟨k, hk, hs⟩ := stage hy
  exact ⟨k, y, hk, hy, hs⟩

/-- What a call that does something has done by then are turns of its errand. -/
theorem exists_follows_of_does {r : Request} {a : r.Answer} (h : C.Does i t r a) (htn : t < n) :
    ∃ k x, C.Called i k ∧ Follows (.line (k.flow config)) (C.turns i n) x := by
  obtain ⟨-, x, -, hx, -⟩ := exists_stage_of_does h
  obtain ⟨y, hy⟩ := exists_strand_add hx (n - (t + 1))
  rw [Nat.add_sub_cancel' htn] at hy
  obtain ⟨k, hk, hfollows⟩ := follows hy
  exact ⟨k, y, hk, hfollows⟩

/-- A call reaches each of its milestones once. -/
theorem milestone_once {r r' : Request} {a : r.Answer} {a' : r'.Answer} {mark : Milestone}
    (h : C.Does i m r a) (h' : C.Does i n r' a') (hr : r.milestone? = some mark)
    (hr' : r'.milestone? = some mark) : m = n := by
  wlog hmn : m ≤ n generalizing m n r r'
  · exact (this h' h hr' hr (by omega)).symm
  obtain ⟨k, x, -, -, hx⟩ := exists_stage_of_does h'
  obtain ⟨s, hs, rfl, ha⟩ := mem_turns_of_does h (show m < n + 1 by omega)
  obtain ⟨s', hs', rfl, ha'⟩ := mem_turns_of_does h' (Nat.lt_succ_self n)
  rw [milestone_once_of_stage hx hs hs' ((Stroke.milestone?_eq ha).trans hr)
    ((Stroke.milestone?_eq ha').trans hr')]

/-- A call begins one run. -/
theorem begins_once (h : C.Begins i m) (h' : C.Begins i n) : m = n := by
  obtain ⟨_, _, _, _, h⟩ := h
  obtain ⟨_, _, _, _, h'⟩ := h'
  exact milestone_once h h' rfl rfl

/-- A call that has begun a run has asked to begin that run. -/
theorem begin_unique {identity : Identity} {total : Nat} {env : Environment} {token : Token}
    (hb : C.Does i m (.begin identity total env) (.ok token)) {b : Stroke} {job : Job}
    {a : Except ControlError Token} (hmem : b ∈ C.turns i n)
    (hbd : b.deed = .answer job.beginning a) :
    b.time = m ∧ job.identity = identity ∧ a = .ok token := by
  obtain ⟨-, hd⟩ := does_of_mem_turns hmem (congrArg Deed.answered? hbd)
  have htime : b.time = m := milestone_once hd hb rfl rfl
  cases (does_unique (htime ▸ hd) hb).2
  exact ⟨htime, rfl, rfl⟩

/-- A call whose run is in flight does not ask to begin another. -/
theorem not_inFlight_of_asksToBegin (h : C.AsksToBegin i n) : ¬ C.InFlight i n := by
  rintro ⟨m, hm, ⟨_, _, _, _, hb⟩, -⟩
  obtain ⟨_, _, _, _, ha⟩ := h
  exact Nat.ne_of_lt hm (milestone_once hb ha rfl rfl)

/-- When a run ends, its frame has ended, as the turns of its call since its begin show. -/
theorem ran_of_finishes {o : RunState} {p : RunState × Nat} (h : C.Does i n (.finish o) p) :
    ∃ k b job token ended, C.Called i k ∧ Ran config k (C.turns i n) b job token ended ∧
      o = ended.outcome := by
  obtain ⟨k, x, hk, -, hx⟩ := exists_stage_of_does h
  obtain ⟨s, hs, rfl, ha⟩ := mem_turns_of_does h (Nat.lt_succ_self n)
  obtain ⟨l₀, rest, b, job, token, ended, hl, ran, ho⟩ := ran_of_finish hx hs ha
  exact ⟨k, b, job, token, ended, hk, (turns_of_append hl).symm ▸ ran, ho⟩

/-- Only a run that is in flight ends. -/
theorem inFlight_of_finishes (h : C.Finishes i n) : C.InFlight i n := by
  obtain ⟨o, p, h⟩ := h
  obtain ⟨k, b, job, token, ended, -, ran, -⟩ := ran_of_finishes h
  obtain ⟨hb, hd⟩ := ran.begun
  obtain ⟨hlt, hb⟩ := does_of_mem_turns hb (congrArg Deed.answered? hd)
  refine ⟨b.time, hlt, ⟨_, _, _, _, hb⟩, ?_⟩
  rintro t - ht ⟨_, _, hf⟩
  exact Nat.ne_of_lt ht (milestone_once hf h rfl rfl)

/-- A run ends after it has begun. -/
theorem begins_lt_of_finishes (hb : C.Begins i m) (hf : C.Finishes i n) : m < n := by
  obtain ⟨m', hm', hb', -⟩ := inFlight_of_finishes hf
  rwa [begins_once hb hb']

/-- A run is in flight from its begin to its end. -/
theorem inFlight_between (hb : C.Begins i m) (hf : C.Finishes i n) (hmt : m < t) (htn : t ≤ n) :
    C.InFlight i t := by
  obtain ⟨m', -, hb', hnone⟩ := inFlight_of_finishes hf
  obtain rfl := begins_once hb hb'
  exact ⟨m, hmt, hb, fun u h h' => hnone u h (Nat.lt_of_lt_of_le h' htn)⟩

theorem exists_strand_of_inFlight (h : C.InFlight i n) : ∃ x, C.strand? i n = some x := by
  obtain ⟨m, hmn, ⟨_, _, _, _, hb⟩, -⟩ := h
  obtain ⟨-, x, -, hx, -⟩ := exists_stage_of_does hb
  obtain ⟨y, hy⟩ := exists_strand_add hx (n - (m + 1))
  exact ⟨y, by rwa [Nat.add_sub_cancel' hmn] at hy⟩

/-- A run is in flight once it has begun, until it ends. -/
theorem inFlight_succ : C.InFlight i (n + 1) ↔
    C.Begins i n ∨ (C.InFlight i n ∧ ¬ C.Finishes i n) := by
  constructor
  · rintro ⟨m, hm, hb, hf⟩
    rcases Nat.lt_succ_iff_lt_or_eq.mp hm with hm | rfl
    · refine .inr ⟨⟨m, hm, hb, fun t h h' => hf t h (by omega)⟩, ?_⟩
      exact hf n (Nat.le_of_lt hm) (Nat.lt_succ_self n)
    · exact .inl hb
  · rintro (hb | ⟨⟨m, hm, hb, hf⟩, hn⟩)
    · refine ⟨n, Nat.lt_succ_self n, hb, fun t h h' => ?_⟩
      obtain rfl : t = n := by omega
      rintro ⟨_, _, hd⟩
      obtain ⟨_, _, _, _, hb⟩ := hb
      exact nomatch (does_unique hb hd).2
    · refine ⟨m, by omega, hb, fun t h h' => ?_⟩
      rcases Nat.lt_succ_iff_lt_or_eq.mp h' with h' | rfl
      · exact hf t h h'
      · exact hn

/-! ### Changes of state -/

/-- What a step does to the state of the engine and to its tokens. -/
inductive Change (C : Course config) (n : Nat) : Prop
  | begins (i : Nat) {identity : Identity} {total : Nat} {env : Environment} {token : Token}
      (h : C.Does i n (.begin identity total env) (.ok token))
      (hc : (C.situation n).runs.begin identity total env =
        .ok (token, (C.situation (n + 1)).runs))
  | finishes (i : Nat) {outcome : RunState} {p : RunState × Nat}
      (h : C.Does i n (.finish outcome) p)
      (hp : p.1 = ((C.situation n).runs.finish outcome).1)
      (hc : (C.situation (n + 1)).runs = ((C.situation n).runs.finish outcome).2)
  | control (c : ControlRequest) (h : C.happening n = .control c)
      (hc : (C.situation (n + 1)).runs = (C.situation n).runs.asked c)
  | still (hb : ∀ i, ¬ C.Begins i n) (hf : ∀ i, ¬ C.Finishes i n)
      (hc : ∀ c, C.happening n ≠ .control c)
      (hs : (C.situation (n + 1)).runs.state = (C.situation n).runs.state)
      (ht : (C.situation (n + 1)).runs.tokens = (C.situation n).runs.tokens)

private theorem change_of_does {r : Request} {a : r.Answer} (h : C.Does i n r a) : C.Change n := by
  have hc : ∀ c, C.happening n ≠ .control c := by
    intro c hc
    obtain ⟨d, hd, -⟩ := h
    exact nomatch hc.symm.trans hd
  have ha := answers_of_does h
  have still (hb : ∀ identity total env token,
        (⟨r, a⟩ : (r : Request) × r.Answer) ≠ ⟨.begin identity total env, .ok token⟩)
      (hf : ∀ o p, (⟨r, a⟩ : (r : Request) × r.Answer) ≠ ⟨.finish o, p⟩)
      (hs : (C.situation (n + 1)).runs.state = (C.situation n).runs.state ∧
        (C.situation (n + 1)).runs.tokens = (C.situation n).runs.tokens) : C.Change n := by
    refine .still ?_ ?_ hc hs.1 hs.2
    · rintro j ⟨_, _, _, _, hj⟩
      exact hb _ _ _ _ (does_unique h hj).2
    · rintro j ⟨_, _, hj⟩
      exact hf _ _ (does_unique h hj).2
  cases r with
  | finish outcome => exact .finishes i h (congrArg Prod.fst ha.1) ha.2
  | begin identity total env =>
    simp only [Control.Answers] at ha
    split at ha
    · next token c hb =>
      obtain ⟨rfl, rfl⟩ := ha
      exact .begins i h hb
    · obtain ⟨rfl, hc⟩ := ha
      exact still (fun _ _ _ _ h => nomatch h) (fun _ _ h => nomatch h) (hc ▸ ⟨rfl, rfl⟩)
  | _ => exact still (fun _ _ _ _ h => nomatch h) (fun _ _ h => nomatch h) (ha.still id)

/-- Every step is a change of one of these kinds. -/
theorem change (C : Course config) (n : Nat) : C.Change n := by
  have still (hc : ∀ c, C.happening n ≠ .control c) (hd : ∀ i r a, ¬ C.Does i n r a)
      (hs : (C.situation (n + 1)).runs = (C.situation n).runs) : C.Change n :=
    .still (fun i ⟨_, _, _, _, h⟩ => hd i _ _ h) (fun i ⟨_, _, h⟩ => hd i _ _ h) hc
      (congrArg Control.state hs) (congrArg Control.tokens hs)
  rcases runs_of_moves (C.moves n) with ⟨j, d, hw⟩ | ⟨c, hw, hs⟩ | ⟨hc, ht, hs⟩
  · rcases ha : d.answered? with _ | ⟨r, a⟩
    · obtain ⟨x, y, -, -, t⟩ := turn_of_happening hw
      refine still (fun c hc => nomatch hc.symm.trans hw) ?_ ((answers_turn t).2 ha)
      rintro i r a ⟨d', hd', ha'⟩
      cases hw.symm.trans hd'
      exact nomatch ha.symm.trans ha'
    · exact change_of_does ⟨d, hw, ha⟩
  · exact .control c hw hs
  · exact still hc (fun i r a ⟨d, hd, _⟩ => ht i d hd) hs

/-- No other run is in flight after one step and up to another. -/
def Alone (C : Course config) (i m n : Nat) : Prop :=
  ∀ t, m < t → t ≤ n → ∀ j, C.InFlight j t → j = i

/-- The engine is asked to cancel between two steps. -/
def CancelledWithin (C : Course config) (m n : Nat) : Prop :=
  ∃ t, m < t ∧ t < n ∧ C.happening t = .control .cancel

theorem cancelledWithin_succ (hmn : m < n) : C.CancelledWithin m (n + 1) ↔
    C.CancelledWithin m n ∨ C.happening n = .control .cancel := by
  constructor
  · rintro ⟨t, hm, hn, ht⟩
    rcases Nat.lt_succ_iff_lt_or_eq.mp hn with hn | rfl
    · exact .inl ⟨t, hm, hn, ht⟩
    · exact .inr ht
  · rintro (⟨t, hm, hn, ht⟩ | h)
    · exact ⟨t, hm, by omega, ht⟩
    · exact ⟨n, hmn, Nat.lt_succ_self n, h⟩

theorem begin_of_does {identity : Identity} {total : Nat} {env : Environment} {token : Token}
    (h : C.Does i n (.begin identity total env) (.ok token)) :
    (C.situation n).runs.begin identity total env = .ok (token, (C.situation (n + 1)).runs) := by
  have ha := answers_of_does h
  simp only [Control.Answers] at ha
  split at ha
  · next hb =>
    obtain ⟨ht, hc⟩ := ha
    cases ht
    rw [hb, hc]
  · exact nomatch ha.1

/-- A run settles as it asks, unless the engine is cancelled. -/
theorem finish_of_does {o : RunState} {p : RunState × Nat} (h : C.Does i n (.finish o) p) :
    p.1 = (if C.state n = .cancelled then .cancelled else o) ∧ C.state (n + 1) = p.1 := by
  obtain ⟨hp, hc⟩ := answers_of_does h
  unfold state
  rw [hp, hc, Control.finish]
  split
  · next hs => exact ⟨rfl, hs⟩
  · exact ⟨rfl, rfl⟩

theorem inFlight_of_begins (hb : C.Begins i m) (hmn : m < n)
    (hf : ∀ t, m < t → t < n → ¬ C.Finishes i t) : C.InFlight i n := by
  refine ⟨m, hmn, hb, fun t h h' => ?_⟩
  rcases Nat.lt_or_eq_of_le h with h | rfl
  · exact hf t h h'
  · rintro ⟨_, _, hd⟩
    obtain ⟨_, _, _, _, hb⟩ := hb
    exact nomatch (does_unique hb hd).2

/-- While a run is alone in flight the engine serves it, and it is cancelled once the engine was
asked to cancel. -/
theorem serves {identity : Identity} {total : Nat} {env : Environment} {token : Token}
    (hb : C.Does i m (.begin identity total env) (.ok token)) (hmn : m < n)
    (hf : ∀ t, m < t → t < n → ¬ C.Finishes i t) (alone : C.Alone i m n) :
    (C.situation n).runs.Serves token (C.CancelledWithin m n) := by
  have hbegins : C.Begins i m := ⟨_, _, _, _, hb⟩
  induction n, hmn using Nat.le_induction with
  | base =>
    have hnone : ¬ C.CancelledWithin m (m + 1) := fun ⟨t, h, h', _⟩ => by omega
    rw [eq_false hnone]
    exact (Control.serves_begin (begin_of_does hb)).2
  | succ n hmn ih =>
    have hf' : ∀ t, m < t → t < n → ¬ C.Finishes i t := fun t h h' => hf t h (by omega)
    have hn : C.InFlight i n := inFlight_of_begins hbegins hmn hf'
    have h := ih hf' fun t h h' => alone t h (by omega)
    rw [cancelledWithin_succ hmn]
    cases C.change n with
    | begins j hd =>
      have hfl : C.InFlight j (n + 1) := inFlight_succ.mpr (.inl ⟨_, _, _, _, hd⟩)
      have hj : j = i := alone (n + 1) (by omega) (Nat.le_refl _) j hfl
      exact absurd hn (not_inFlight_of_asksToBegin ⟨_, _, _, _, hj ▸ hd⟩)
    | finishes j hd =>
      have hfin : C.Finishes j n := ⟨_, _, hd⟩
      have hj : j = i := alone n hmn (by omega) j (inFlight_of_finishes hfin)
      exact absurd (hj ▸ hfin) (hf n hmn (Nat.lt_succ_self n))
    | control c hc hs =>
      rw [hs, hc, Happening.control.injEq]
      exact h.asked c
    | still _ _ hc hs ht =>
      rw [eq_false (hc .cancel), or_false]
      exact h.still hs ht

end Course

end Workflow

import Workflow.Proofs.Strand.Thread

/-!
# Threads that are woken

When an engine runs a flow or wakes a thread, the strand that the thread stands for takes turns, and
nothing else happens but that the host asks the engine to pause, to resume or to cancel. Branches
that are left to themselves meanwhile are added to those that the engine keeps.

## Main definitions

* `Workflow.Engine.Polls` — an engine answers a request as its control allows.
* `Workflow.Engine.Went` — what becomes of an engine and a strand when its thread goes on.

## Main results

* `Workflow.Engine.went_run`, `Workflow.Engine.went_wake` — a flow that is run, and a thread that is
  woken, take turns of their strand.
-/

namespace Workflow

/-- What a request comes to under a control, and the control after it. -/
def Polled.Suits (c c' : Control) {r : Request} : Polled r → Prop
  | .answered a => c.Answers r a c'
  | .blocked _ => c' = c
  | .crashed _ => r.IsOfHost ∧ c' = c

/-- An engine may be asked for something while a strand does nothing. -/
theorem Advances.of_asked {α : Type} (x : Strand α) (rs : List ControlRequest) (c : Control) :
    Advances c x (rs.foldl Control.asked c) x := by
  induction rs generalizing c with
  | nil => exact .refl c x
  | cons r rs ih => exact ((Advances.refl c x).asked r).trans (ih (c.asked r))

namespace Engine

variable {σ α : Type}

/-! ### Answers -/

/-- What of an engine concerns its strands. -/
def kept (e : Engine σ) : Config × Control × List (Thread BranchResult) :=
  (e.config, e.runs, e.detached)

@[simp]
theorem kept_publish (e : Engine σ) (event : Event) : (e.publish event).kept = e.kept := by
  cases event <;> rfl

@[simp]
theorem kept_publishLog (e : Engine σ) (s : ScriptRequest) (log : List (LogLevel × String)) :
    (e.publishLog s log).kept = e.kept := by
  unfold publishLog
  induction log generalizing e with
  | nil => rfl
  | cons l log ih => rw [List.foldl_cons, ih, kept_publish]

/-- The control of an engine that is asked for something changes accordingly. -/
theorem kept_control (e : Engine σ) (c : ControlRequest) :
    (e.control c).2.kept = (e.config, e.runs.asked c, e.detached) := by
  cases c with
  | cancel => rfl
  | pause =>
    simp only [control, Control.asked]
    cases e.runs.pause with
    | ok p => exact kept_publish _ _
    | error => rfl
  | resume =>
    simp only [control, Control.asked]
    cases e.runs.resume with
    | ok p => exact kept_publish _ _
    | error => rfl

/-- An engine answers a request, or lets it wait, as its control allows after it was asked for
something. -/
def Polls (e : Engine σ) (r : Request) (w : Polled r × Engine σ) : Prop :=
  ∃ (rs : List ControlRequest) (c' : Control), w.2.kept = (e.config, c', e.detached) ∧
    w.1.Suits (rs.foldl Control.asked e.runs) c'

theorem polls_followReply (call : ActionCall) (reply : Reply) (e : Engine σ) :
    e.Polls (.perform call) (followReply call reply e) := by
  induction reply generalizing e with
  | answer r => exact ⟨[], e.runs, rfl, rfl⟩
  | after ms rest ih =>
    rw [followReply]
    split
    · exact ih e
    · exact ⟨[], e.runs, rfl, rfl⟩
  | control c rest ih =>
    obtain ⟨rs, c', hk, hs⟩ := ih (e.control c).1 (e.control c).2
    have hc := e.kept_control c
    rw [kept, Prod.mk.injEq, Prod.mk.injEq] at hc
    obtain ⟨h₁, h₂, h₃⟩ := hc
    rw [h₁, h₃] at hk
    rw [h₂] at hs
    exact ⟨c :: rs, c', hk, hs⟩
  | crash message => exact ⟨[], e.runs, rfl, trivial, rfl⟩

theorem polls_poll (e : Engine σ) (r : Request) : e.Polls r (e.poll r) := by
  cases r with
  | boundary =>
    rw [poll]
    split <;> next h => exact ⟨[], e.runs, rfl, by simp [Polled.Suits, Control.Answers, h]⟩
  | attempt a => exact ⟨[], e.runs, rfl, rfl⟩
  | publish event => exact ⟨[], e.runs, e.kept_publish event, rfl⟩
  | perform call => exact polls_followReply call _ _
  | evaluate s =>
    rw [poll]
    split
    · exact ⟨[], e.runs, e.kept_publishLog _ _, rfl⟩
    · split <;> exact ⟨[], e.runs, rfl, rfl⟩
  | sleep token ms =>
    rw [poll]
    split
    · next h => exact ⟨[], e.runs, rfl, fun _ => h, rfl⟩
    · split
      · exact ⟨[], e.runs, rfl, nofun, rfl⟩
      · exact ⟨[], e.runs, rfl, rfl⟩
  | isCancelled token => exact ⟨[], e.runs, rfl, rfl, rfl⟩
  | recordProgress index env => exact ⟨[], _, rfl, rfl⟩
  | recordEnvironment env => exact ⟨[], _, rfl, rfl⟩
  | lookup id => exact ⟨[], e.runs, rfl, rfl⟩
  | freshId => exact ⟨[], e.runs, rfl, rfl⟩
  | begin identity total env =>
    rw [poll]
    split <;> next h => exact ⟨[], _, rfl, by simp [Polled.Suits, Control.Answers, h]⟩
  | finish outcome => exact ⟨[], _, rfl, rfl, rfl⟩

theorem polls_repoll (e : Engine σ) {r : Request} (b : Blocked r) : e.Polls r (e.repoll b) := by
  cases b with
  | boundary => exact e.polls_poll .boundary
  | sleep deadline =>
    rw [repoll]
    split
    · next h => exact ⟨[], e.runs, rfl, fun _ => h, rfl⟩
    · split
      · exact ⟨[], e.runs, rfl, nofun, rfl⟩
      · exact ⟨[], e.runs, rfl, rfl⟩
  | script deadline =>
    rw [repoll]
    split
    · exact ⟨[], e.runs, rfl, rfl⟩
    · split <;> exact ⟨[], e.runs, rfl, rfl⟩
  | host deadline rest =>
    rw [repoll]
    split
    · exact polls_followReply _ rest e
    · exact ⟨[], e.runs, rfl, rfl⟩

/-! ### Threads that go on -/

/-- What becomes of an engine and a strand when its thread goes on: the strand advances, and
branches that nothing waits for any more are added to those that the engine keeps. -/
def Went (e : Engine σ) (x : Strand α) (m : Multiset (Thread BranchResult)) (t : Thread α)
    (e' : Engine σ) : Prop :=
  ∃ y c new, e'.kept = (e.config, c, e.detached ++ new) ∧ Advances e.runs x c y ∧
    Carries t y (m + (new : Multiset (Thread BranchResult)))

section

variable {e e' : Engine σ}

theorem kept_eq_iff {c : Config} {r : Control} {l : List (Thread BranchResult)} :
    e.kept = (c, r, l) ↔ e.config = c ∧ e.runs = r ∧ e.detached = l := by
  rw [kept, Prod.mk.injEq, Prod.mk.injEq]

theorem Went.refl {t : Thread α} {x : Strand α} {m : Multiset (Thread BranchResult)}
    (h : Carries t x m) : e.Went x m t e :=
  ⟨x, e.runs, [], by rw [List.append_nil]; rfl, .refl _ _, by simpa using h⟩

variable {r : Request} {next : r.Answer → Flow α}

/-- A strand whose request is answered goes on from there. -/
theorem Went.of_answered {a : r.Answer} {t : Thread α} {e'' : Engine σ}
    (h : e.Polls r (.answered a, e')) (hw : e'.Went (.line (next a)) 0 t e'') :
    e.Went (.line (.ask r next)) 0 t e'' := by
  obtain ⟨rs, c', hk, hs⟩ := h
  obtain ⟨y, c, new, hk', hy, hc⟩ := hw
  obtain ⟨h₁, rfl, h₃⟩ := kept_eq_iff.mp hk
  rw [h₁, h₃] at hk'
  have asked := Advances.of_asked (.line (.ask r next)) rs e.runs
  exact ⟨y, c, new, hk', (asked.turn (.answer hs)).trans hy, hc⟩

theorem Went.of_blocked {b : Blocked r} (h : e.Polls r (.blocked b, e')) :
    e.Went (.line (.ask r next)) 0 (.waiting r b next) e' := by
  obtain ⟨rs, c', hk, rfl⟩ := h
  exact ⟨_, _, [], by rw [List.append_nil, hk], .of_asked _ rs _, .waiting r b next⟩

theorem Went.of_crashed {report : String} (h : e.Polls r (.crashed report, e')) :
    e.Went (.line (.ask r next)) 0 (.crashed report) e' := by
  obtain ⟨rs, c', hk, hr, rfl⟩ := h
  have asked := Advances.of_asked (.line (.ask r next)) rs e.runs
  exact ⟨_, _, [], by rw [List.append_nil, hk], asked.turn (.crash hr report), .crashed report⟩

end

/-- A flow that is run takes its turns. -/
theorem went_run (flow : Flow α) (e : Engine σ) :
    e.Went (.line flow) 0 (run flow e).1 (run flow e).2 := by
  induction flow generalizing e with
  | done a => exact .refl (.finished a)
  | ask r next ih =>
    have h := e.polls_poll r
    rw [run]
    split
    · next hp => exact .of_answered (hp ▸ h) (ih _ _)
    · next hp => exact .of_blocked (hp ▸ h)
    · next hp => exact .of_crashed (hp ▸ h)
  | fork token n branch next _ _ =>
    refine ⟨_, e.runs, [], by rw [List.append_nil]; rfl, (Advances.refl _ _).turn .fork, ?_⟩
    have h := Carries.joining token next fun b => Carries.ready (branch b)
    rw [List.ofFn_eq_map] at h
    simpa [run] using h

/-- A whole takes the turns of the branches that are in it. -/
def Whole {n : Nat} (K : (Fin n → Strand BranchResult) → Strand α) : Prop :=
  ∀ {c c' : Control} {d : Deed} {f : Fin n → Strand BranchResult} {b : Fin n}
    {y : Strand BranchResult}, Turn c (f b) d c' y →
      ∃ d', Turn c (K f) d' c' (K (Function.update f b y))

section

variable {n : Nat} {K : (Fin (n + 1) → Strand BranchResult) → Strand α} {c c' : Control}

/-- The first branch of a whole advances. -/
theorem Whole.first (hK : Whole K) {x y : Strand BranchResult} (f : Fin n → Strand BranchResult)
    (h : Advances c x c' y) : Advances c (K (Fin.cons x f)) c' (K (Fin.cons y f)) := by
  refine h.lift (K := fun z => K (Fin.cons z f)) fun {c c' d x y} t => ?_
  obtain ⟨d', t'⟩ := hK (f := Fin.cons x f) (b := 0) t
  rw [Fin.update_cons_zero] at t'
  exact ⟨d', t'⟩

/-- The branches but the first are in a whole. -/
theorem Whole.others (hK : Whole K) (y : Strand BranchResult) :
    Whole fun f => K (Fin.cons y f) := by
  intro c c' d f b z t
  obtain ⟨d', t'⟩ := hK (f := Fin.cons y f) (b := b.succ) t
  rw [← Fin.cons_update] at t'
  exact ⟨d', t'⟩

end

/-- Branches that are woken in their order advance in their whole. -/
theorem went_wakeAll {n : Nat} {K : (Fin n → Strand BranchResult) → Strand α} (hK : Whole K)
    {ts : Fin n → Thread BranchResult} {branch : Fin n → Strand BranchResult}
    {l : Fin n → Multiset (Thread BranchResult)}
    (h : ∀ b (e : Engine σ), e.Went (branch b) (l b) (wake (ts b) e).thread (wake (ts b) e).engine)
    (e : Engine σ) : ∃ (ts' : Fin n → Thread BranchResult) (branch' : Fin n → Strand BranchResult)
      (l' : Fin n → Multiset (Thread BranchResult)) (c : Control)
      (new : List (Thread BranchResult)),
      (wakeAll (List.ofFn ts) e).1 = List.ofFn ts' ∧
      (wakeAll (List.ofFn ts) e).2.1.kept = (e.config, c, e.detached ++ new) ∧
      Advances e.runs (K branch) c (K branch') ∧ (∀ b, Carries (ts' b) (branch' b) (l' b)) ∧
      ∑ b, l' b = ∑ b, l b + (new : Multiset (Thread BranchResult)) := by
  induction n generalizing e with
  | zero =>
    refine ⟨ts, branch, l, e.runs, [], ?_, ?_, .refl _ _, fun b => b.elim0, by simp⟩
    · rw [List.ofFn_zero, wakeAll]
    · rw [List.ofFn_zero, wakeAll, List.append_nil]
      rfl
  | succ n ih =>
    rw [List.ofFn_succ, wakeAll]
    obtain ⟨y, c₁, new₁, hk₁, hy, hc₁⟩ := h 0 e
    obtain ⟨hconfig, hruns, hdetached⟩ := kept_eq_iff.mp hk₁
    have hfirst := hK.first (Fin.tail branch) hy
    rw [Fin.cons_self_tail] at hfirst
    obtain ⟨ts', branch', l', c, new, hts, hk, hrest, hc, hl⟩ :=
      ih (hK.others y) (fun b => h b.succ) (wake (ts 0) e).engine
    rw [hconfig, hdetached, List.append_assoc] at hk
    rw [hruns] at hrest
    refine ⟨Fin.cons (wake (ts 0) e).thread ts', Fin.cons y branch',
      Fin.cons (l 0 + (new₁ : Multiset (Thread BranchResult))) l', c, new₁ ++ new, ?_, hk,
      hfirst.trans hrest, ?_, ?_⟩
    · simp only [List.ofFn_succ, Fin.cons_zero, Fin.cons_succ]
      rw [← hts]
    · intro b
      cases b using Fin.cases with
      | zero => exact hc₁
      | succ b => exact hc b
    · rw [Fin.sum_univ_succ, Fin.sum_univ_succ]
      simp only [Fin.cons_zero, Fin.cons_succ]
      rw [hl, ← Multiset.coe_add]
      abel

section

variable {n : Nat} {ts : Fin n → Thread BranchResult} {branch : Fin n → Strand BranchResult}
  {l : Fin n → Multiset (Thread BranchResult)} (h : ∀ b, Carries (ts b) (branch b) (l b))
  {token : Token} {next : Option (List BranchEnd) → Flow α} {e : Engine σ}

include h

/-- When its token is cancelled, a strand goes on beside its branches, which are left to
themselves. -/
theorem went_of_abandoned (hcancelled : e.runs.isCancelled token = true) :
    e.Went (.joining token n branch next) (∑ b, l b)
      (run (next none) (e.detach (List.ofFn ts))).1
      (run (next none) (e.detach (List.ofFn ts))).2 := by
  obtain ⟨y, c, new, hk, hy, hc⟩ := went_run (next none) (e.detach (List.ofFn ts))
  have turn := (Advances.refl e.runs (.joining token n branch next)).turn (.abandon hcancelled)
  refine ⟨_, c, ((List.ofFn ts).filter fun t => !t.hasEnded) ++ new, ?_,
    turn.trans (hy.lift fun t => ⟨_, .rest t⟩), ?_⟩
  · rw [← List.append_assoc]
    exact hk
  · have hb := Carries.beside h hc
    rw [Finset.sum_add_distrib, Thread.sum_loose, zero_add] at hb
    rw [← Multiset.coe_add]
    refine cast (congrArg _ ?_) hb
    abel

/-- When all its branches have ended, a strand goes on with how they did. -/
theorem went_of_joined {ends : List BranchEnd} (hends : Thread.ends? (List.ofFn ts) = some ends) :
    e.Went (.joining token n branch next) (∑ b, l b)
      (run (next (some ends)) e).1 (run (next (some ends)) e).2 := by
  obtain ⟨r, hr, rfl, hloose⟩ := Carries.ended_of_ends? h hends
  obtain ⟨y, c, new, hk, hy, hc⟩ := went_run (next (some (List.ofFn fun b => .ofEnd (r b)))) e
  have turn := (Advances.refl e.runs (.joining token n branch next)).turn (.join hr)
  refine ⟨_, c, new, hk, turn.trans (hy.lift fun t => ⟨_, .rest t⟩), ?_⟩
  have hb := Carries.beside h hc
  rw [Finset.sum_add_distrib, Finset.sum_eq_zero fun b _ => hloose b, zero_add, zero_add,
    add_comm] at hb
  exact hb

end

/-- A thread that is woken takes turns of its strand. -/
theorem went_wake {t : Thread α} {x : Strand α} {m : Multiset (Thread BranchResult)}
    (h : Carries t x m) (e : Engine σ) : e.Went x m (wake t e).thread (wake t e).engine := by
  induction h generalizing e with
  | ready flow => exact went_run flow e
  | finished a => exact .refl (.finished a)
  | crashed report => exact .refl (.crashed report)
  | waiting r b next =>
    have h := e.polls_repoll b
    rw [wake]
    split
    · next hp => exact .of_answered (hp ▸ h) (went_run _ _)
    · next hp => exact .of_blocked (hp ▸ h)
    · next hp => exact .of_crashed (hp ▸ h)
  | @joining _ token n ts branch l next h ih =>
    rw [wake]
    split
    · next hcancelled => exact went_of_abandoned h hcancelled
    · split
      · next ends hends => exact went_of_joined h hends
      · obtain ⟨ts', branch', l', c, new, hts, hk, hy, hc, hl⟩ :=
          went_wakeAll (K := fun f => .joining token n f next) (fun t => ⟨_, .branch t⟩) ih e
        refine ⟨_, c, new, hk, hy, ?_⟩
        have hj := Carries.joining token next hc
        rw [← hts, hl] at hj
        exact hj
  | @beside _ t rest m n ts branch l h hr ih ihr =>
    obtain ⟨y, c, new, hk, hy, hc⟩ := ihr e
    refine ⟨_, c, new, hk, hy.lift fun t => ⟨_, .rest t⟩, ?_⟩
    have hb := Carries.beside h hc
    rwa [add_right_comm] at hb

end Engine

end Workflow

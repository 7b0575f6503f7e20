import Workflow.Engine.Session
import Workflow.Proofs.Course.Basic
import Workflow.Proofs.Strand.Waking

/-!
# Sessions are courses

An engine that holds sessions carries its calls on in an order of its own. Whatever its host does
and whatever is planned, it only takes the steps of a course: every session, with the branches that
are left to themselves and go on in later sessions, is a stretch of one.

## Main definitions

* `Workflow.Leads` — one situation leads to another in some steps.
* `Workflow.Depicts` — a situation depicts an engine with the threads of its calls.
* `Workflow.Session.Depicted` — a situation depicts a session.

## Main results

* `Workflow.Session.depicted_hold` — a session that is held on an engine is a stretch of a course.
* `Workflow.exists_course_of_hold` — what an engine does from its start on happens on a course.
-/

namespace Workflow

/-! ### Stretches -/

/-- A situation leads to another in finitely many steps. -/
def Leads (config : Config) (s s' : Situation) : Prop := ∃ ws, Stretch config s ws s'

section

variable {config : Config} {s s' s'' : Situation} {w : Happening}

theorem Stretch.append {ws ws' : List Happening} (p : Stretch config s ws s')
    (q : Stretch config s' ws' s'') : Stretch config s (ws ++ ws') s'' := by
  induction p with
  | nil => exact q
  | cons h _ ih => exact .cons h (ih q)

namespace Leads

theorem refl (s : Situation) : Leads config s s := ⟨[], .nil s⟩

theorem trans (h : Leads config s s') (h' : Leads config s' s'') : Leads config s s'' := by
  obtain ⟨ws, p⟩ := h
  obtain ⟨ws', q⟩ := h'
  exact ⟨ws ++ ws', p.append q⟩

theorem of_moves (h : Moves config s w s') : Leads config s s' := ⟨[w], .cons h (.nil s')⟩

/-- A call advances in the steps of an engine. -/
theorem of_advances {c c' : Control} {x y : Strand RunEnd} {calls : List (Strand RunEnd)} {i : Nat}
    (hi : calls[i]? = some x) (h : Advances c x c' y) :
    Leads config ⟨c, calls⟩ ⟨c', calls.set i y⟩ := by
  obtain ⟨hlt, hx⟩ := List.getElem?_eq_some_iff.mp hi
  induction h with
  | refl =>
    rw [← hx, List.set_getElem_self]
    exact .refl _
  | asked _ r ih => exact (ih hi hx).trans (.of_moves (.control _ r))
  | @turn c' c'' x y z d _ t ih =>
    have hy : (calls.set i y)[i]? = some y := List.getElem?_set_self hlt
    have hm : Moves config ⟨c', calls.set i y⟩ (.turn i d) ⟨c'', (calls.set i y).set i z⟩ :=
      .turn hy t
    rw [List.set_set] at hm
    exact (ih hi hx).trans (.of_moves hm)

end Leads

end

/-! ### Threads of calls -/

/-- Threads stand for calls, in their order. -/
inductive CarriesAll : List (Thread RunEnd) → List (Strand RunEnd) →
    Multiset (Thread BranchResult) → Prop
  | nil : CarriesAll [] [] 0
  | cons {t : Thread RunEnd} {x : Strand RunEnd} {m m' : Multiset (Thread BranchResult)}
      {ts : List (Thread RunEnd)} {xs : List (Strand RunEnd)} (h : Carries t x m)
      (hs : CarriesAll ts xs m') : CarriesAll (t :: ts) (x :: xs) (m + m')

namespace CarriesAll

variable {ts : List (Thread RunEnd)} {xs : List (Strand RunEnd)}
  {m : Multiset (Thread BranchResult)}

theorem concat {t : Thread RunEnd} {x : Strand RunEnd} (hs : CarriesAll ts xs m)
    (h : Carries t x 0) : CarriesAll (ts ++ [t]) (xs ++ [x]) m := by
  induction hs with
  | nil => exact .cons h .nil
  | cons h _ ih => exact .cons h ih

end CarriesAll

/-- A call among others, with its thread; it may advance, while the others stay as they are. -/
structure Among (ts : List (Thread RunEnd)) (xs : List (Strand RunEnd))
    (m : Multiset (Thread BranchResult)) (i : Nat) (t : Thread RunEnd) (x : Strand RunEnd)
    (l others : Multiset (Thread BranchResult)) : Prop where
  thread : ts[i]? = some t
  call : xs[i]? = some x
  carries : Carries t x l
  sum : m = l + others
  set : ∀ {t' x' l'}, Carries t' x' l' → CarriesAll (ts.set i t') (xs.set i x') (l' + others)

namespace CarriesAll

variable {ts : List (Thread RunEnd)} {xs : List (Strand RunEnd)} {i : Nat} {t t₀ : Thread RunEnd}
  {x x₀ : Strand RunEnd} {m l l₀ others : Multiset (Thread BranchResult)}

theorem among_zero (h : Carries t x l) (hs : CarriesAll ts xs m) :
    Among (t :: ts) (x :: xs) (l + m) 0 t x l m :=
  ⟨rfl, rfl, h, rfl, fun h => .cons h hs⟩

theorem among_succ (h : Carries t₀ x₀ l₀) (hs : Among ts xs m i t x l others) :
    Among (t₀ :: ts) (x₀ :: xs) (l₀ + m) (i + 1) t x l (l₀ + others) where
  thread := hs.thread
  call := hs.call
  carries := hs.carries
  sum := by rw [hs.sum, add_left_comm]
  set h' := by
    rw [add_left_comm]
    exact .cons h (hs.set h')

/-- Every thread stands for a call. -/
theorem exists_among (h : CarriesAll ts xs m) (hi : ts[i]? = some t) :
    ∃ x l others, Among ts xs m i t x l others := by
  induction h generalizing i with
  | nil => cases hi
  | cons h₀ hs ih =>
    cases i with
    | zero =>
      cases hi
      exact ⟨_, _, _, among_zero h₀ hs⟩
    | succ i =>
      obtain ⟨x, l, others, h⟩ := ih hi
      exact ⟨x, l, _, among_succ h₀ h⟩

/-- Every loose thread belongs to a call. -/
theorem exists_among_of_loose {u : Thread BranchResult} (h : CarriesAll ts xs m) (hu : u ∈ m) :
    ∃ i t x l others, Among ts xs m i t x l others ∧ u ∈ l := by
  induction h with
  | nil => exact absurd hu (Multiset.notMem_zero u)
  | cons h₀ hs ih =>
    rcases Multiset.mem_add.mp hu with hu | hu
    · exact ⟨0, _, _, _, _, among_zero h₀ hs, hu⟩
    · obtain ⟨i, t, x, l, others, h, hl⟩ := ih hu
      exact ⟨i + 1, t, x, l, _, among_succ h₀ h, hl⟩

end CarriesAll

/-! ### Engines and situations -/

/-- A situation depicts an engine with the threads of its calls; the loose threads are kept by the
engine, apart from some that are being woken. -/
structure Depicts {σ : Type} (config : Config) (s : Situation) (e : Engine σ)
    (ts : List (Thread RunEnd)) (more : Multiset (Thread BranchResult)) : Prop where
  config : e.config = config
  runs : s.runs = e.runs
  carries : CarriesAll ts s.calls ((e.detached : Multiset (Thread BranchResult)) + more)

namespace Depicts

open Engine (wake wakeAll run)

variable {σ : Type} {config : Config} {s : Situation} {e e' : Engine σ} {ts : List (Thread RunEnd)}
  {more : Multiset (Thread BranchResult)} {i : Nat} {t t' : Thread RunEnd}

/-- Only what the engine keeps for its strands matters. -/
theorem congr (h : Depicts config s e ts more) (hk : e'.kept = e.kept) :
    Depicts config s e' ts more := by
  obtain ⟨h₁, h₂, h₃⟩ := Engine.kept_eq_iff.mp hk
  exact ⟨h₁.trans h.config, h.runs.trans h₂.symm, h₃ ▸ h.carries⟩

theorem control (h : Depicts config s e ts more) (c : ControlRequest) :
    ∃ s', Leads config s s' ∧ Depicts config s' (e.control c).2 ts more := by
  obtain ⟨h₁, h₂, h₃⟩ := Engine.kept_eq_iff.mp (e.kept_control c)
  refine ⟨_, .of_moves (.control s c), h₁.trans h.config, ?_, h₃ ▸ h.carries⟩
  rw [h₂, ← h.runs]

/-- A thread that goes on carries its call on. -/
theorem went (h : Depicts config s e ts more) (hi : ts[i]? = some t)
    (hw : ∀ {x m}, Carries t x m → e.Went x m t' e') :
    ∃ s', Leads config s s' ∧ Depicts config s' e' (ts.set i t') more := by
  obtain ⟨runs, calls⟩ := s
  obtain ⟨hconfig, rfl, hs⟩ := h
  obtain ⟨x, l, others, ha⟩ := hs.exists_among hi
  obtain ⟨y, c, new, hk, hy, hc⟩ := hw ha.carries
  obtain ⟨h₁, rfl, h₃⟩ := Engine.kept_eq_iff.mp hk
  refine ⟨_, .of_advances ha.call hy, h₁.trans hconfig, rfl, ?_⟩
  have hset := ha.set hc
  rw [add_right_comm, ← ha.sum] at hset
  rw [h₃, ← Multiset.coe_add, add_right_comm]
  exact hset

/-- A loose thread that is woken carries its branch on. -/
theorem wake_loose {u : Thread BranchResult} (h : Depicts config s e ts ({u} + more)) :
    ∃ s', Leads config s s' ∧
      Depicts config s' (wake u e).engine ts ((wake u e).thread.loose + more) := by
  obtain ⟨runs, calls⟩ := s
  obtain ⟨hconfig, rfl, hs⟩ := h
  obtain ⟨i, t, x, l, others, ha, hu⟩ := hs.exists_among_of_loose (u := u) (by simp)
  obtain ⟨z, k, rest, K, hz, hl, rfl, hseat⟩ := ha.carries.exists_seat hu
  obtain ⟨y, c, new, hk, hy, hc⟩ := Engine.went_wake hz e
  obtain ⟨h₁, rfl, h₃⟩ := Engine.kept_eq_iff.mp hk
  refine ⟨_, .of_advances ha.call (hy.lift hseat.turn), h₁.trans hconfig, rfl, ?_⟩
  have hset := ha.set (hseat.carries hc)
  obtain ⟨hlt, ht⟩ := List.getElem?_eq_some_iff.mp ha.thread
  rw [← ht, List.set_getElem_self] at hset
  have hothers : (e.detached : Multiset (Thread BranchResult)) + more = k + rest + others := by
    refine add_left_cancel (a := ({u} : Multiset (Thread BranchResult))) ?_
    rw [add_left_comm, ha.sum, hl]
    abel
  rw [h₃, ← Multiset.coe_add]
  refine cast (congrArg _ ?_) hset
  calc (wake u e).thread.loose + (k + (new : Multiset (Thread BranchResult))) + rest + others
      = (wake u e).thread.loose + new + (k + rest + others) := by abel
    _ = e.detached + new + ((wake u e).thread.loose + more) := by rw [← hothers]; abel

/-- The loose threads are woken in their order. -/
theorem wakeAll_loose {l : List (Thread BranchResult)}
    (h : Depicts config s e ts ((l : Multiset (Thread BranchResult)) + more)) :
    ∃ s', Leads config s s' ∧ Depicts config s' (wakeAll l e).2.1 ts
      (((wakeAll l e).1.filter fun t => !t.hasEnded : List (Thread BranchResult)) + more) := by
  induction l generalizing s e more with
  | nil => exact ⟨s, .refl s, h⟩
  | cons u l ih =>
    rw [← Multiset.cons_coe, ← Multiset.singleton_add, add_assoc] at h
    obtain ⟨s₁, hs₁, h₁⟩ := h.wake_loose
    rw [add_left_comm] at h₁
    obtain ⟨s₂, hs₂, h₂⟩ := ih h₁
    refine ⟨s₂, hs₁.trans hs₂, ?_⟩
    simp only [wakeAll]
    refine cast (congrArg _ ?_) h₂
    rw [← add_assoc]
    refine congrArg (· + more) ?_
    rw [add_comm, List.filter_cons, Thread.loose]
    cases (wake u e).thread.hasEnded <;> simp

/-- All that the engine keeps is woken. -/
theorem wake_detached (h : Depicts config s e ts 0) :
    ∃ s', Leads config s s' ∧
      Depicts config s' ((wakeAll e.detached { e with detached := [] }).2.1.detach
        (wakeAll e.detached { e with detached := [] }).1) ts 0 := by
  have h₀ : Depicts config s { e with detached := [] } ts
      ((e.detached : Multiset (Thread BranchResult)) + 0) :=
    ⟨h.config, h.runs, by simpa using h.carries⟩
  obtain ⟨s', hs, h'⟩ := h₀.wakeAll_loose
  refine ⟨s', hs, h'.config, h'.runs, ?_⟩
  have hc := h'.carries
  rw [← add_assoc, Multiset.coe_add] at hc
  exact hc

/-- A call that is made is run as far as it goes. -/
theorem call (h : Depicts config s e ts 0) (k : Errand) :
    ∃ s', Leads config s s' ∧
      Depicts config s' (run (k.flow config) e).2 (ts ++ [(run (k.flow config) e).1]) 0 := by
  have h₁ : Depicts config ⟨s.runs, s.calls ++ [.line (k.flow config)]⟩ e
      (ts ++ [.ready (k.flow config)]) 0 :=
    ⟨h.config, h.runs, h.carries.concat (.ready _)⟩
  have hi : (ts ++ [.ready (k.flow config)])[ts.length]? = some (.ready (k.flow config)) := by simp
  obtain ⟨s', hs, h'⟩ := h₁.went hi fun hc => Engine.went_wake hc e
  rw [List.set_append_right _ _ (Nat.le_refl _), Nat.sub_self] at h'
  exact ⟨s', .trans (.of_moves (.call s k)) hs, h'⟩

end Depicts

/-! ### Sessions -/

namespace Session

open Engine (wake wakeAll)

variable {σ : Type} {config : Config} {v v' : Session σ} {s : Situation} {i : Nat}

/-- A situation depicts a session whose execution is one of its calls; another call may be waited
for. -/
def Depicted (config : Config) (i : Nat) (v : Session σ) (s : Situation) : Prop :=
  ∃ ts, Depicts config s v.engine ts 0 ∧ ts[i]? = some v.main ∧
    ∀ t, v.side = some t → ∃ j, j ≠ i ∧ ts[j]? = some t

theorem depicted_wake (h : Depicted config i v s) (hv : v.wake? = some v') :
    ∃ s', Leads config s s' ∧ Depicted config i v' s' := by
  obtain ⟨ts, hs, hmain, hside⟩ := h
  obtain ⟨s₁, hs₁, h₁⟩ := hs.went hmain fun hc => Engine.went_wake hc v.engine
  have hlt : i < ts.length := (List.getElem?_eq_some_iff.mp hmain).1
  unfold wake? at hv
  cases hvs : v.side with
  | none =>
    simp only [hvs] at hv
    split at hv
    · cases hv
      obtain ⟨s₂, hs₂, h₂⟩ := h₁.wake_detached
      exact ⟨s₂, hs₁.trans hs₂, _, h₂, List.getElem?_set_self hlt, fun t ht => nomatch ht⟩
    · cases hv
  | some t =>
    obtain ⟨j, hji, hj⟩ := hside t hvs
    simp only [hvs] at hv
    split at hv
    · cases hv
      rw [← List.getElem?_set_ne hji.symm] at hj
      obtain ⟨s₂, hs₂, h₂⟩ := h₁.went hj fun hc => Engine.went_wake hc (wake v.main v.engine).engine
      obtain ⟨s₃, hs₃, h₃⟩ := h₂.wake_detached
      refine ⟨s₃, (hs₁.trans hs₂).trans hs₃, _, h₃, ?_, ?_⟩
      · rw [List.getElem?_set_ne hji]
        exact List.getElem?_set_self hlt
      · rintro t' ⟨⟩
        exact ⟨j, hji, List.getElem?_set_self (List.getElem?_eq_some_iff.mp hj).1⟩
    · cases hv

theorem depicted_collect (h : Depicted config i v s) (hv : v.collect? = some v') :
    Depicted config i v' s := by
  obtain ⟨ts, hs, hmain, -⟩ := h
  unfold collect? at hv
  split at hv
  · cases hv
    exact ⟨ts, hs, hmain, fun t ht => nomatch ht⟩
  · cases hv

theorem depicted_command (h : Depicted config i v s) (c : Command) :
    ∃ s', Leads config s s' ∧ Depicted config i (v.command c) s' := by
  obtain ⟨ts, hs, hmain, hside⟩ := h
  cases c with
  | control c =>
    obtain ⟨s', hs', h'⟩ := hs.control c
    exact ⟨s', hs', ts, h', hmain, hside⟩
  | status => exact ⟨s, .refl s, ts, hs, hmain, hside⟩
  | execute id options =>
    obtain ⟨s', hs', h'⟩ := hs.call (.execute id options)
    have hlt : i < ts.length := (List.getElem?_eq_some_iff.mp hmain).1
    simp only [command, hs.config]
    refine ⟨s', hs', _, h', ?_, ?_⟩
    · rw [List.getElem?_append_left hlt]
      exact hmain
    · rintro t ⟨⟩
      exact ⟨ts.length, Nat.ne_of_gt hlt, by simp [Errand.flow]⟩

theorem depicted_proceed (h : Depicted config i v s) (hv : v.proceed? = some v') :
    ∃ s', Leads config s s' ∧ Depicted config i v' s' := by
  unfold proceed? at hv
  split at hv
  · next p rest _ _ =>
    split at hv
    · cases hv
      exact depicted_command (v := { v with plan := rest }) h p.command
    · cases hv
  · cases hv

theorem depicted_advance (h : Depicted config i v s) (hv : v.advance? = some v') :
    ∃ s', Leads config s s' ∧ Depicted config i v' s' := by
  obtain ⟨ts, hs, hmain, hside⟩ := h
  unfold advance? at hv
  split at hv
  · cases hv
  · obtain ⟨t, -, hv⟩ := Option.map_eq_some_iff.mp hv
    subst hv
    have hs₁ : Depicts config s { v.engine with now := max t v.engine.now } ts 0 := hs.congr rfl
    dsimp only
    split
    · obtain ⟨s', hs', h'⟩ := hs₁.control .cancel
      exact ⟨s', hs', ts, h', hmain, hside⟩
    · exact ⟨s, .refl s, ts, hs₁, hmain, hside⟩

/-- A step of a session is a stretch of a course. -/
theorem depicted_step (h : Depicted config i v s) (hv : v.step? = some v') :
    ∃ s', Leads config s s' ∧ Depicted config i v' s' := by
  simp only [step?, Option.orElse_eq_orElse, Option.orElse_eq_or, Option.or_eq_some_iff] at hv
  rcases hv with hv | ⟨-, hv | ⟨-, hv | ⟨-, hv⟩⟩⟩
  · exact depicted_wake h hv
  · exact ⟨s, .refl s, depicted_collect h hv⟩
  · exact depicted_proceed h hv
  · exact depicted_advance h hv

theorem depicted_steps (h : Depicted config i v s) (n : Nat) :
    ∃ s', Leads config s s' ∧ Depicted config i (steps n v) s' := by
  induction n generalizing v s with
  | zero => exact ⟨s, .refl s, h⟩
  | succ n ih =>
    rw [steps]
    split
    · next v' hv =>
      obtain ⟨s₁, hs₁, h₁⟩ := depicted_step h hv
      obtain ⟨s₂, hs₂, h₂⟩ := ih h₁
      exact ⟨s₂, hs₁.trans hs₂, h₂⟩
    · exact ⟨s, .refl s, h⟩

end Session

section

variable {σ : Type} {config : Config} {e : Engine σ}

/-- A session that is held on an engine is a stretch of a course. -/
theorem depicted_hold {s : Situation} {ts : List (Thread RunEnd)} (h : Depicts config s e ts 0)
    (k : Errand) (plan : List Planned) : ∃ s', Leads config s s' ∧
      Session.Depicted config ts.length (e.hold (k.flow config) plan) s' := by
  obtain ⟨s₁, hs₁, h₁⟩ := h.call k
  have hstart : Session.Depicted config ts.length (.start e (k.flow config) plan) s₁ :=
    ⟨_, h₁, by simp [Session.start], fun t ht => nomatch ht⟩
  obtain ⟨s₂, hs₂, h₂⟩ := Session.depicted_steps hstart Session.enough
  exact ⟨s₂, hs₁.trans hs₂, h₂⟩

/-- What an engine does from its start on, whatever is registered, happens on a course, and what it
answers is what the call returns there. -/
theorem exists_course_of_hold (h : e.kept = (config, .initial, [])) (k : Errand)
    (plan : List Planned) : ∃ (C : Course config) (n : Nat),
      (C.situation n).runs = (e.hold (k.flow config) plan).engine.runs ∧
      ∀ r, (e.hold (k.flow config) plan).main.result? = some r → C.Returned 0 n r := by
  obtain ⟨h₁, h₂, h₃⟩ := Engine.kept_eq_iff.mp h
  have hstart : Depicts config .initial e [] 0 := ⟨h₁, h₂.symm, by rw [h₃]; exact .nil⟩
  obtain ⟨s, ⟨ws, p⟩, ts, hs, hmain, -⟩ := depicted_hold hstart k plan
  obtain ⟨C, -, hrest⟩ := exists_resting_course p
  have hC : C.situation ws.length = s := (hrest ws.length (Nat.le_refl _)).2
  refine ⟨C, ws.length, ?_, fun r hr => ?_⟩
  · rw [hC, hs.runs]
  · obtain ⟨x, l, others, ha⟩ := hs.carries.exists_among hmain
    refine ⟨x, ?_, ha.carries.ended.1 r ?_⟩
    · rw [Course.strand?, hC]
      exact ha.call
    · revert hr
      cases (e.hold (k.flow config) plan).main <;> simp [Thread.result?]

end

end Workflow

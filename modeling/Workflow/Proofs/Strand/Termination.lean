import Workflow.Proofs.Strand.Basic
import Mathlib.Data.Fin.Tuple.Basic
import Mathlib.Order.GameAdd

/-!
# Strands come to an end

Whatever a strand is answered and in whatever order its branches take their turns, the turns of the
strand and of all branches beside it are finite in number. Until it has ended it can take one,
unless the engine is paused.

Turns of a strand are well-founded by its flow: the branches of a fork are smaller than the fork,
and a turn of one of several branches makes one of them smaller and leaves the others.

## Main results

* `Workflow.Strand.wellFounded_next` — no strand takes turns forever.
* `Workflow.turn_of_not_ended` — a strand that has not ended can take a turn.
-/

namespace Workflow

variable {α : Type}

/-! ### Finitely many turns -/

namespace Strand

/-- A strand comes from another in a turn, under some control. -/
def Next (y x : Strand α) : Prop := ∃ c d c', Turn c x d c' y

/-- One of several branches takes a turn. -/
def NextOf {n : Nat} (g f : Fin n → Strand BranchResult) : Prop :=
  ∃ b y, Next y (f b) ∧ g = Function.update f b y

private theorem acc_nextOf : {n : Nat} → {f : Fin n → Strand BranchResult} →
    (∀ b, Acc Next (f b)) → Acc NextOf f
  | 0, _, _ => ⟨_, fun _ ⟨b, _⟩ => b.elim0⟩
  | n + 1, f, h => by
    have htail : Acc NextOf (Fin.tail f) := acc_nextOf fun b => h b.succ
    -- a turn of a branch is one of the first branch or one of the others
    let split (g : Fin (n + 1) → Strand BranchResult) := (g 0, Fin.tail g)
    have hsplit : Acc (InvImage (Prod.GameAdd Next NextOf) split) f :=
      InvImage.accessible split ((h 0).prod_gameAdd htail)
    refine Subrelation.accessible ?_ hsplit
    rintro g g' ⟨b, y, hy, rfl⟩
    induction b using Fin.cases with
    | zero =>
      simp only [InvImage, split, Function.update_self, Fin.tail_update_zero]
      exact .fst hy
    | succ b =>
      simp only [InvImage, split, Fin.tail_update_succ]
      rw [Function.update_of_ne (Fin.succ_ne_zero b).symm]
      exact .snd ⟨b, y, hy, rfl⟩

private theorem acc_beside {n : Nat} {p : (Fin n → Strand BranchResult) × Strand α}
    (h : Acc (Prod.GameAdd NextOf Next) p) : Acc Next (beside n p.1 p.2) := by
  induction h with
  | intro p _ ih =>
    refine ⟨_, ?_⟩
    rintro y ⟨c, d, c', t⟩
    cases t with
    | drift t => exact ih (_, p.2) (.fst ⟨_, _, ⟨_, _, _, t⟩, rfl⟩)
    | rest t => exact ih (p.1, _) (.snd ⟨_, _, _, t⟩)

private theorem acc_joining {token : Token} {n : Nat} {branch : Fin n → Strand BranchResult}
    {next : Option (List BranchEnd) → Flow α} (h : Acc NextOf branch)
    (hn : ∀ ends, Acc Next (line (next ends))) : Acc Next (joining token n branch next) := by
  induction h with
  | intro branch hb ih =>
    have hacc : Acc NextOf branch := ⟨_, hb⟩
    refine ⟨_, ?_⟩
    rintro y ⟨c, d, c', t⟩
    cases t with
    | branch t => exact ih _ ⟨_, _, ⟨_, _, _, t⟩, rfl⟩
    | join => exact acc_beside (hacc.prod_gameAdd (hn _))
    | abandon => exact acc_beside (hacc.prod_gameAdd (hn none))

private theorem acc_crashed (report : String) : Acc Next (crashed report : Strand α) :=
  ⟨_, fun _ ⟨_, _, _, t⟩ => nomatch t⟩

private theorem acc_line : {α : Type} → (flow : Flow α) → Acc Next (line flow)
  | _, .done _ => ⟨_, fun _ ⟨_, _, _, t⟩ => nomatch t⟩
  | _, .ask _ next => by
    refine ⟨_, ?_⟩
    rintro y ⟨c, d, c', t⟩
    cases t with
    | answer => exact acc_line (next _)
    | crash => exact acc_crashed _
  | _, .fork _ _ branch next => by
    refine ⟨_, ?_⟩
    rintro y ⟨c, d, c', ⟨⟩⟩
    exact acc_joining (acc_nextOf fun b => acc_line (branch b)) fun ends => acc_line (next ends)

private theorem acc_next : {α : Type} → (x : Strand α) → Acc Next x
  | _, line flow => acc_line flow
  | _, crashed report => acc_crashed report
  | _, joining _ _ branch next =>
    acc_joining (acc_nextOf fun b => acc_next (branch b)) fun ends => acc_line (next ends)
  | _, beside _ branch rest =>
    acc_beside (p := (branch, rest))
      ((acc_nextOf fun b => acc_next (branch b)).prod_gameAdd (acc_next rest))

/-- No strand takes turns forever. -/
theorem wellFounded_next : WellFounded (Next : Strand α → Strand α → Prop) := ⟨acc_next⟩

end Strand

/-! ### No turn is missing -/

/-- While the engine is not paused there is an answer to every request. -/
theorem answers_of_not_paused {c : Control} (hc : c.state ≠ .paused) :
    (r : Request) → ∃ a c', c.Answers r a c'
  | .boundary => by
    cases hb : c.boundary with
    | passes => exact ⟨true, c, hb, rfl⟩
    | ends => exact ⟨false, c, hb, rfl⟩
    | waits =>
      refine absurd ?_ hc
      unfold Control.boundary at hb
      split at hb <;> first | assumption | exact nomatch hb
  | .attempt _ => ⟨(), c, rfl⟩
  | .publish _ => ⟨(), c, rfl⟩
  | .perform _ => ⟨.error (.failed ""), c, rfl⟩
  | .evaluate _ => ⟨.error .disabled, c, rfl⟩
  | .sleep _ _ => ⟨true, c, fun h => (nomatch h), rfl⟩
  | .isCancelled t => ⟨c.isCancelled t, c, rfl, rfl⟩
  | .recordProgress _ _ => ⟨(), _, rfl⟩
  | .recordEnvironment _ => ⟨(), _, rfl⟩
  | .lookup _ => ⟨none, c, rfl⟩
  | .freshId => ⟨.ofNat 0, c, rfl⟩
  | .begin identity n env => by
    cases hb : c.begin identity n env with
    | ok p => exact ⟨.ok p.1, p.2, by simp [Control.Answers, hb]⟩
    | error e => exact ⟨.error e, c, by simp [Control.Answers, hb]⟩
  | .finish _ => ⟨_, _, rfl, rfl⟩

/-- While the engine is not paused, a strand that has not ended can take a turn. -/
theorem turn_of_not_ended {c : Control} (hc : c.state ≠ .paused) : {α : Type} → (x : Strand α) →
    x.ended? = none → ∃ d c' y, Turn c x d c' y
  | _, .line (.ask r _), _ => by
    obtain ⟨a, c', h⟩ := answers_of_not_paused hc r
    exact ⟨_, c', _, .answer h⟩
  | _, .line (.fork ..), _ => ⟨_, c, _, .fork⟩
  | _, .joining token n branch next, _ => by
    by_cases h : ∀ b, (branch b).ended? ≠ none
    · choose ends hends using fun b => Option.ne_none_iff_exists'.mp (h b)
      exact ⟨_, c, _, .join hends⟩
    · obtain ⟨b, hb⟩ := not_forall.mp h
      obtain ⟨d, c', y, t⟩ := turn_of_not_ended hc (branch b) (not_not.mp hb)
      exact ⟨_, c', _, .branch t⟩
  | _, .beside _ _ rest, h => by
    obtain ⟨d, c', y, t⟩ := turn_of_not_ended hc rest h
    exact ⟨d.shift, c', _, .rest t⟩

end Workflow

import Workflow.Proofs.Protocol.Flow
import Workflow.Proofs.Strand.Line

/-!
# Strands that follow a protocol

On every line of a strand the answered requests lead the state of the line on. A strand follows a
protocol if every line asks for what the protocol allows in its state, and so it does after every
turn, whichever line takes it and however it is answered.

## Main definitions

* `Workflow.Protocol.step` — the state of a line after something was done on it.
* `Workflow.Strand.Tracks` — strands that follow a protocol from the states of their lines on.

## Main results

* `Workflow.tracks_turn` — a turn asks for what the protocol allows in the state of its line.
* `Workflow.tracks_follows` — so do all turns of a strand.
-/

namespace Workflow

variable {α σ : Type} {k : Protocol σ} {c c' : Control} {d : Deed} {x y : Strand α}
  {post : α → σ → Prop} {gs : Lined σ}

namespace Protocol

/-- The state of a line after something was done on it. -/
def step (k : Protocol σ) (g : σ) : Deed → σ
  | .answer r a => k.after g r a
  | _ => g

/-- On no line was anything asked for. -/
def Fresh (k : Protocol σ) (gs : Lined σ) : Prop := ∀ line, gs line = k.start

end Protocol

/-- The strand asks, from the states of its lines on, only for what the protocol allows, and comes
to results of a kind with a state only. -/
def Strand.Tracks (k : Protocol σ) : {α : Type} → (post : α → σ → Prop) → Lined σ → Strand α → Prop
  | _, post, gs, line flow => flow.Tracks k post (gs []) ∧ ∀ j b, k.Fresh (gs.branch j b)
  | _, _, _, crashed _ => True
  | _, post, gs, joining _ n branch next =>
    (∀ b : Fin n, Tracks k (fun _ _ => True) (gs.branch 0 b) (branch b)) ∧
      (∀ j b, (j ≠ 0 ∨ n ≤ b) → k.Fresh (gs.branch j b)) ∧
        ∀ ends, (next ends).Tracks k post (gs [])
  | _, post, gs, beside n branch rest =>
    (∀ b : Fin n, Tracks k (fun _ _ => True) (gs.branch 0 b) (branch b)) ∧
      Tracks k post gs.shift rest

/-- A branch that has taken a turn, among the others. -/
private theorem tracks_update {n : Nat} {branch : Fin n → Strand BranchResult} {b : Fin n}
    {z : Strand BranchResult}
    (h : ∀ i : Fin n, (branch i).Tracks k (fun _ _ => True) (gs.branch 0 i))
    (hz : z.Tracks k (fun _ _ => True) ((gs.branch 0 b).after k.step d)) (i : Fin n) :
    (Function.update branch b z i).Tracks k (fun _ _ => True)
      ((gs.after k.step (.aside 0 b d)).branch 0 i) := by
  rcases eq_or_ne i b with rfl | hi
  · rw [Function.update_self, Lined.branch_after_self]
    exact hz
  · rw [Function.update_of_ne hi, Lined.branch_after_of_ne_branch hi]
    exact h i

/-- A turn of whichever line asks for what the protocol allows in the state of the line. -/
theorem tracks_turn (h : Turn c x d c' y) (hx : x.Tracks k post gs) :
    y.Tracks k post (gs.after k.step d) ∧
      ∀ r a, d.own = .answer r a → k.asks (gs d.line) r := by
  induction h generalizing gs with
  | @answer _ _ _ r a next _ =>
    obtain ⟨⟨hr, hnext⟩, hfresh⟩ := hx
    refine ⟨⟨?_, fun j b => ?_⟩, ?_⟩
    · rw [Lined.after_nil rfl]
      exact hnext a
    · rw [Lined.branch_after_nil rfl]
      exact hfresh j b
    · rintro r' a' ⟨⟩
      exact hr
  | crash => exact ⟨trivial, fun _ _ h => nomatch h⟩
  | fork =>
    obtain ⟨⟨hbranch, hnext⟩, hfresh⟩ := hx
    rw [Lined.after_of_same rfl]
    refine ⟨⟨fun b => ⟨?_, fun j b' line => hfresh 0 b ((j, b') :: line)⟩,
      fun j b _ => hfresh j b, hnext⟩, fun _ _ h => nomatch h⟩
    rw [hfresh 0 b []]
    exact hbranch b
  | @branch _ _ _ _ n branch next b d y _ ih =>
    obtain ⟨hbranch, hfresh, hnext⟩ := hx
    obtain ⟨hy, hd⟩ := ih (hbranch b)
    refine ⟨⟨tracks_update hbranch hy, fun j i hi => ?_, fun ends => ?_⟩, hd⟩
    · rw [Lined.branch_after_of_beyond hi]
      exact hfresh j i hi
    · rw [Lined.after_aside_nil]
      exact hnext ends
  | join =>
    obtain ⟨hbranch, hfresh, hnext⟩ := hx
    rw [Lined.after_of_same rfl]
    exact ⟨⟨hbranch, hnext _, fun j b => hfresh (j + 1) b (.inl (Nat.succ_ne_zero j))⟩,
      fun _ _ h => nomatch h⟩
  | abandon =>
    obtain ⟨hbranch, hfresh, hnext⟩ := hx
    rw [Lined.after_of_same rfl]
    exact ⟨⟨hbranch, hnext none, fun j b => hfresh (j + 1) b (.inl (Nat.succ_ne_zero j))⟩,
      fun _ _ h => nomatch h⟩
  | drift _ ih =>
    obtain ⟨hbranch, hrest⟩ := hx
    obtain ⟨hy, hd⟩ := ih (hbranch _)
    refine ⟨⟨tracks_update hbranch hy, ?_⟩, hd⟩
    rwa [Lined.shift_after_aside]
  | rest _ ih =>
    obtain ⟨hbranch, hrest⟩ := hx
    obtain ⟨hy, hd⟩ := ih hrest
    refine ⟨⟨fun b => ?_, ?_⟩, ?_⟩
    · rw [Lined.branch_zero_after_shift]
      exact hbranch b
    · rwa [Lined.shift_after_shift]
    · rwa [Deed.own_shift, Deed.line_shift]

/-- However far a strand is carried on, it asks on every line for what the protocol allows there. -/
theorem tracks_follows {l : List Stroke} (h : Follows x l y) (hx : x.Tracks k post gs) :
    y.Tracks k post (gs.past k.step l) ∧ ∀ l₁ s l₂, l = l₁ ++ s :: l₂ → ∀ r a,
      s.deed.own = .answer r a → k.asks (gs.past k.step l₁ s.deed.line) r := by
  refine h.run (I := fun l y => y.Tracks k post (gs.past k.step l)) hx ?_
  intro l₁ s _ _ _ _ _ t hy
  rw [Lined.past_concat]
  exact tracks_turn t hy

end Workflow

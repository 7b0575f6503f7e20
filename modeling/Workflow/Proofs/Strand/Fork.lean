import Workflow.Proofs.Strand.Doings

/-!
# Branches of a fork, turn by turn

Among the turns of a strand that waits for its branches are those of each branch, and taken alone
they are turns of that branch. A fork that is waited for to the end has told what follows it how its
branches have ended; a branch does nothing behind its end. A branch in which the host has crashed
was crashed in on its own line.

## Main definitions

* `Workflow.inBranch` — the turns of a branch of the first fork.

## Main results

* `Workflow.follows_joining`, `Workflow.follows_beside` — the turns of a branch are its own.
* `Workflow.exists_ends` — how the branches of a fork have ended, and in which turns.
* `Workflow.crash_mem_doneOn` — a strand that has ended in a crash was crashed in.
-/

namespace Workflow

variable {α : Type}

/-! ### Turns of a branch -/

/-- The turn of a branch of the first fork, as the branch takes it. -/
def Stroke.inBranch? (b : Nat) (s : Stroke) : Option Stroke :=
  match s.deed with
  | .aside 0 b' d => if b' = b then some { s with deed := d } else none
  | _ => none

/-- The turns of a branch of the first fork. -/
def inBranch (b : Nat) (l : List Stroke) : List Stroke := l.filterMap (Stroke.inBranch? b)

/-- What was done on the line of a branch was done in its turns. -/
theorem doneOn_branch (b : Nat) (line : Line) (l : List Stroke) :
    doneOn ((0, b) :: line) l = doneOn line (inBranch b l) := by
  rw [doneOn, doneOn, inBranch, List.filterMap_filterMap]
  congr 1
  funext s
  obtain ⟨time, control, deed⟩ := s
  cases deed with
  | aside k b' d =>
    cases k with
    | zero => by_cases hb : b' = b <;> simp [Stroke.inBranch?, hb]
    | succ k => simp [Stroke.inBranch?]
  | _ => simp [Stroke.inBranch?, Deed.line]

theorem mem_inBranch {b : Nat} {l : List Stroke} {s : Stroke} (h : s ∈ inBranch b l) :
    ∃ s' ∈ l, s'.control = s.control := by
  obtain ⟨s', hs', heq⟩ := List.mem_filterMap.mp h
  refine ⟨s', hs', ?_⟩
  unfold Stroke.inBranch? at heq
  split at heq
  · split at heq
    · cases heq
      rfl
    · exact nomatch heq
  · exact nomatch heq

variable {token : Token} {n : Nat} {branch br : Fin n → Strand BranchResult}
  {next : Option (List BranchEnd) → Flow α} {l : List Stroke} {z : Strand α}

/-- A turn of one branch is a turn of that branch alone. -/
theorem follows_inBranch (h : ∀ b, Follows (branch b) (inBranch b l) (br b)) {s : Stroke}
    {b : Fin n} {c' : Control} {d : Deed} {y : Strand BranchResult} (hs : s.deed = .aside 0 b d)
    (t : Turn s.control (br b) d c' y) (b' : Fin n) :
    Follows (branch b') (inBranch b' (l ++ [s])) (Function.update br b y b') := by
  rw [inBranch, List.filterMap_append]
  rcases eq_or_ne b' b with rfl | hb
  · have hone : [s].filterMap (Stroke.inBranch? b') = [{ s with deed := d }] := by
      simp [Stroke.inBranch?, hs]
    rw [hone, Function.update_self]
    exact .turn (h b') t
  · have hnone : [s].filterMap (Stroke.inBranch? b') = [] := by
      simp [Stroke.inBranch?, hs, Fin.val_inj, hb.symm]
    rw [hnone, List.append_nil, Function.update_of_ne hb]
    exact h b'

/-- The turns of a strand that waits for its branches are theirs until they are joined or
abandoned. -/
theorem follows_joining (h : Follows (.joining token n branch next) l z) :
    (∃ br, z = .joining token n br next) ∨
      ∃ l₁ s l₂ br, l = l₁ ++ s :: l₂ ∧ (∀ b, Follows (branch b) (inBranch b l₁) (br b)) ∧
        ((∃ ends : Fin n → Except String BranchResult, s.deed = .join ∧
            (∀ b, (br b).ended? = some (ends b)) ∧
            Follows (.beside n br (.line (next (some (List.ofFn fun b => .ofEnd (ends b)))))) l₂
              z) ∨
          s.control.isCancelled token = true) := by
  suffices hturns : (∃ br, z = .joining token n br next ∧
      ∀ b, Follows (branch b) (inBranch b l) (br b)) ∨ _ by
    exact hturns.imp_left fun hbr => hbr.imp fun _ => And.left
  induction h with
  | refl => exact .inl ⟨branch, rfl, fun b => .refl _⟩
  | @turn y z l s c' h t ih =>
    rcases ih with ⟨br, rfl, hbr⟩ | ⟨l₁, s', l₂, br, rfl, hbr, hjoined⟩
    · generalize hd : s.deed = d at t
      cases t with
      | branch u => exact .inl ⟨_, rfl, follows_inBranch hbr hd u⟩
      | join hends => exact .inr ⟨l, s, [], br, rfl, hbr, .inl ⟨_, hd, hends, .refl _⟩⟩
      | abandon hcancel => exact .inr ⟨l, s, [], br, rfl, hbr, .inr hcancel⟩
    · refine .inr ⟨l₁, s', l₂ ++ [s], br, by simp, hbr, ?_⟩
      rcases hjoined with ⟨ends, hs, hends, hrest⟩ | hcancel
      · exact .inl ⟨ends, hs, hends, .turn hrest t⟩
      · exact .inr hcancel

/-- The turns of a strand that goes on beside branches are theirs and its own. -/
theorem follows_beside {rest : Strand α} (h : Follows (.beside n branch rest) l z) :
    ∃ br l' rest', z = .beside n br rest' ∧ (∀ b, Follows (branch b) (inBranch b l) (br b)) ∧
      Follows rest l' rest' := by
  induction h with
  | refl => exact ⟨branch, [], rest, rfl, fun b => .refl _, .refl _⟩
  | @turn y z l s c' h t ih =>
    obtain ⟨br, l', rest', rfl, hbr, hrest⟩ := ih
    generalize hd : s.deed = d at t
    cases t with
    | drift u => exact ⟨_, l', rest', rfl, follows_inBranch hbr hd u, hrest⟩
    | @rest _ _ _ _ _ _ _ d u =>
      have hnone (b : Nat) : [s].filterMap (Stroke.inBranch? b) = [] := by
        cases d <;> simp [Stroke.inBranch?, hd, Deed.shift]
      refine ⟨br, l' ++ [⟨s.time, s.control, d⟩], _, rfl, fun b => ?_, .turn hrest u⟩
      rw [inBranch, List.filterMap_append, hnone, List.append_nil]
      exact hbr b

/-- A strand that has ended does nothing more on its line. -/
theorem doneOn_nil_of_ended {x y : Strand α} (h : Follows x l y) (hx : x.ended? ≠ none) :
    doneOn [] l = [] := by
  induction h with
  | refl => rfl
  | @turn y z l s _ h t ih =>
    obtain ⟨e, he⟩ := Option.ne_none_iff_exists'.mp hx
    have hline := line_ne_nil_of_ended t
      (Option.ne_none_iff_exists'.mpr ⟨e, ended?_follows h he⟩)
    rw [doneOn_append, ih]
    simp [doneOn, hline]

/-- Branches that are waited for to the end, without a cancellation, have ended in turns of their
own, and what follows is given how. -/
theorem exists_ends {branch : Fin n → Flow BranchResult} {e : Except String α}
    (h : Follows (.line (.fork token n branch next)) l z) (hz : z.ended? = some e)
    (hl : ∀ s ∈ l, s.control.isCancelled token = false) :
    ∃ (ends : Fin n → Except String BranchResult),
      (∀ b, ∃ lb y, Follows (.line (branch b)) lb y ∧ y.ended? = some (ends b) ∧
        doneOn [] lb = doneOn [(0, b.val)] l ∧ ∀ s ∈ lb, ∃ s' ∈ l, s'.control = s.control) ∧
      ∃ l₂ br, Follows (.beside n br
        (.line (next (some (List.ofFn fun b => .ofEnd (ends b)))))) l₂ z := by
  cases l with
  | nil =>
    obtain rfl := eq_of_follows_nil h
    exact nomatch hz
  | cons s l =>
    obtain ⟨c', w, t, hw⟩ := follows_cons h
    obtain ⟨time, control, deed⟩ := s
    cases t
    rcases follows_joining hw with ⟨br, rfl⟩ | ⟨l₁, s, l₂, br, rfl, hbr, hjoined⟩
    · exact nomatch hz
    rcases hjoined with ⟨ends, hs, hends, hrest⟩ | hcancel
    · refine ⟨ends, fun b => ⟨_, _, hbr b, hends b, ?_, fun s' hs' => ?_⟩, l₂, br, hrest⟩
      · obtain ⟨br', _, _, -, hlater, -⟩ := follows_beside hrest
        have hnone : doneOn [] (inBranch b l₂) = [] :=
          doneOn_nil_of_ended (hlater b) (Option.ne_none_iff_exists'.mpr ⟨_, hends b⟩)
        have hturns : inBranch b (⟨time, control, .fork⟩ :: (l₁ ++ s :: l₂)) =
            inBranch b l₁ ++ inBranch b l₂ := by
          simp [inBranch, Stroke.inBranch?, List.filterMap_cons, hs]
        rw [doneOn_branch, hturns, doneOn_append, hnone, List.append_nil]
      · obtain ⟨s'', hs'', hcontrol⟩ := mem_inBranch hs'
        exact ⟨s'', by simp [hs''], hcontrol⟩
    · exact absurd (hl s (by simp)) (by simp [hcancel])

/-- A strand that has ended in a crash was crashed in on its line. -/
theorem crash_mem_doneOn {report : String} {x y : Strand α} (h : Follows x l y)
    (hy : y.ended? = some (.error report)) (hx : x.ended? ≠ some (.error report)) :
    .crash report ∈ doneOn [] l := by
  induction h with
  | refl => exact absurd hy hx
  | @turn y z l s _ h t ih =>
    rw [doneOn_append]
    rcases crash_of_turn t hy with hy | hd
    · exact List.mem_append_left _ (ih hy)
    · exact List.mem_append_right _ (by simp [doneOn, hd, Deed.line, Deed.own])

end Workflow

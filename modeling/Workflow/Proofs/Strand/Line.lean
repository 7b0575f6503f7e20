import Workflow.Proofs.Strand.Basic

/-!
# Lines of a strand

The lines of a strand are the strand itself and the branches of its forks, the branches of their
forks, and so on. Whatever is done in a turn is done on one line. What is kept for every line can
be looked at from a branch, and from behind the first fork, where later forks are counted from zero;
a change on one line is seen from there on that line only.

## Main definitions

* `Workflow.Line` — the lines of a strand.
* `Workflow.Deed.line`, `Workflow.Deed.own` — where a deed is done, and what is done there.
* `Workflow.Lined` — what is kept for every line.
* `Workflow.Lined.branch`, `Workflow.Lined.shift`, `Workflow.Lined.alter`.
* `Workflow.Lined.after`, `Workflow.Lined.past` — what is kept after turns.
-/

namespace Workflow

/-- A line of a strand: the forks that lead to it from the outermost in, counted on their lines,
each with the branch that is taken. -/
abbrev Line := List (Nat × Nat)

/-- The line of a strand as it is counted when one more fork lies before it. -/
def Line.shift : Line → Line
  | [] => []
  | (k, b) :: line => (k + 1, b) :: line

theorem Line.shift_injective : Function.Injective Line.shift := by
  rintro (_ | ⟨⟨k, b⟩, line⟩) (_ | ⟨⟨k', b'⟩, line'⟩) h <;> cases h <;> rfl

namespace Deed

/-- The line that something is done on. -/
def line : Deed → Line
  | aside k b d => (k, b) :: d.line
  | _ => []

/-- What is done, as its own line sees it. -/
def own : Deed → Deed
  | aside _ _ d => d.own
  | d => d

/-- The identifier that is given, if one is. -/
def named? (d : Deed) : Option RunId :=
  match d.own with
  | answer .freshId run => some run
  | _ => none

@[simp]
theorem line_aside (k b : Nat) (d : Deed) : (aside k b d).line = (k, b) :: d.line := rfl

@[simp]
theorem own_aside (k b : Nat) (d : Deed) : (aside k b d).own = d.own := rfl

@[simp]
theorem line_shift (d : Deed) : d.shift.line = d.line.shift := by cases d <;> rfl

@[simp]
theorem own_shift (d : Deed) : d.shift.own = d.own := by cases d <;> rfl

@[simp]
theorem named?_aside (k b : Nat) (d : Deed) : (aside k b d).named? = d.named? := rfl

@[simp]
theorem named?_shift (d : Deed) : d.shift.named? = d.named? := by rw [named?, own_shift, named?]

theorem eq_own_of_line : (d : Deed) → d.line = [] → d = d.own
  | answer .., _ => rfl
  | crash _, _ => rfl
  | fork, _ => rfl
  | join, _ => rfl
  | abandon, _ => rfl

/-- What a strand does on its own line is the same behind the branches of another fork. -/
theorem shift_eq_self : (d : Deed) → d.line = [] → d.shift = d
  | answer .., _ => rfl
  | crash _, _ => rfl
  | fork, _ => rfl
  | join, _ => rfl
  | abandon, _ => rfl

/-- What is answered on a line is answered in the strand. -/
theorem own_eq_answer_iff {r : Request} {a : r.Answer} :
    (d : Deed) → (d.own = answer r a ↔ d.answered? = some ⟨r, a⟩)
  | answer r' a' => by simp [own, answered?]
  | aside _ _ d => own_eq_answer_iff d
  | crash _ => by simp [own, answered?]
  | fork => by simp [own, answered?]
  | join => by simp [own, answered?]
  | abandon => by simp [own, answered?]

theorem named?_eq_some_iff {run : RunId} (d : Deed) :
    d.named? = some run ↔ d.answered? = some ⟨.freshId, run⟩ := by
  rw [← own_eq_answer_iff, named?]
  split
  · next h => simp [h]
  · next h => exact ⟨fun hn => (nomatch hn), fun hd => absurd hd (h run)⟩

end Deed

/-- What is kept for every line of a strand. -/
abbrev Lined (β : Type) := Line → β

namespace Lined

variable {β : Type} (f : Lined β) (g : β → β) (k b : Nat) (line : Line)

/-- What is kept for the lines of a branch. -/
def branch (k b : Nat) : Lined β := fun line => f ((k, b) :: line)

/-- What is kept for the lines behind the first fork, where later forks are counted from zero. -/
def shift : Lined β := fun line => f line.shift

/-- A change on one line. -/
def alter (line : Line) (g : β → β) : Lined β := Function.update f line (g (f line))

@[simp]
theorem shift_nil : f.shift [] = f [] := rfl

@[simp]
theorem branch_shift : f.shift.branch k b = f.branch (k + 1) b := rfl

@[simp]
theorem alter_self : f.alter line g line = g (f line) := Function.update_self ..

theorem alter_of_ne {line' : Line} (h : line' ≠ line) : f.alter line g line' = f line' :=
  Function.update_of_ne h ..

@[simp]
theorem alter_cons_nil : f.alter ((k, b) :: line) g [] = f [] :=
  alter_of_ne f g _ (List.cons_ne_nil _ _).symm

@[simp]
theorem branch_alter_nil : (f.alter [] g).branch k b = f.branch k b :=
  Function.update_comp_eq_of_forall_ne f _ fun _ => List.cons_ne_nil _ _

@[simp]
theorem branch_alter_self : (f.alter ((k, b) :: line) g).branch k b = (f.branch k b).alter line g :=
  Function.update_comp_eq_of_injective f (fun _ _ h => (List.cons.inj h).2) line _

theorem branch_alter_of_ne {k' b' : Nat} (h : (k', b') ≠ (k, b)) :
    (f.alter ((k, b) :: line) g).branch k' b' = f.branch k' b' :=
  Function.update_comp_eq_of_forall_ne f _ fun _ hline => h (List.cons.inj hline).1

/-- A change in a branch of the first fork is not seen from behind the fork. -/
@[simp]
theorem shift_alter_zero : (f.alter ((0, b) :: line) g).shift = f.shift := by
  refine Function.update_comp_eq_of_forall_ne f _ fun line' h => ?_
  rcases line' with _ | ⟨⟨k', b'⟩, line'⟩ <;> cases h

/-- A change behind the first fork is seen from there. -/
@[simp]
theorem shift_alter_shift : (f.alter line.shift g).shift = f.shift.alter line g :=
  Function.update_comp_eq_of_injective f Line.shift_injective line _

/-- A change behind the first fork is not seen in its branches. -/
@[simp]
theorem branch_zero_alter_shift : (f.alter line.shift g).branch 0 b = f.branch 0 b := by
  refine Function.update_comp_eq_of_forall_ne f _ fun line' h => ?_
  rcases line with _ | ⟨⟨k', b'⟩, line⟩ <;> cases h

/-! ### After turns -/

/-- What is kept after a turn, by what is done on its line. -/
def after (h : β → Deed → β) (d : Deed) : Lined β := f.alter d.line fun g => h g d.own

/-- What is kept after turns. -/
def past (h : β → Deed → β) (l : List Stroke) : Lined β := l.foldl (fun f s => f.after h s.deed) f

variable {f k b} {h : β → Deed → β} {d : Deed}

@[simp]
theorem past_nil : f.past h [] = f := rfl

theorem past_cons (s : Stroke) (l : List Stroke) :
    f.past h (s :: l) = (f.after h s.deed).past h l := rfl

theorem past_append (l l' : List Stroke) : f.past h (l ++ l') = (f.past h l).past h l' :=
  List.foldl_append ..

theorem past_concat (l : List Stroke) (s : Stroke) :
    f.past h (l ++ [s]) = (f.past h l).after h s.deed := past_append l [s]

theorem after_line : f.after h d d.line = h (f d.line) d.own := alter_self f _ d.line

theorem branch_after_self : (f.after h (.aside k b d)).branch k b = (f.branch k b).after h d :=
  f.branch_alter_self _ k b d.line

theorem branch_after_of_ne {k' b' : Nat} (hne : (k', b') ≠ (k, b)) :
    (f.after h (.aside k b d)).branch k' b' = f.branch k' b' :=
  f.branch_alter_of_ne _ k b d.line hne

section

variable {n : Nat} {b : Fin n}

/-- What one branch of the first fork does is not seen from behind the last branch, or by another
fork. -/
theorem branch_after_of_beyond {j i : Nat} (hi : j ≠ 0 ∨ n ≤ i) :
    (f.after h (.aside 0 b d)).branch j i = f.branch j i := by
  refine branch_after_of_ne ?_
  rintro ⟨⟩
  have hlt := b.isLt
  omega

/-- What one branch of the first fork does is not seen by the other branches. -/
theorem branch_after_of_ne_branch {i : Fin n} (hi : i ≠ b) :
    (f.after h (.aside 0 b d)).branch 0 i = f.branch 0 i :=
  branch_after_of_ne fun hsame => hi (Fin.ext (Prod.mk.inj hsame).2)

end

theorem after_aside_nil : f.after h (.aside k b d) [] = f [] := f.alter_cons_nil _ k b d.line

theorem shift_after_aside : (f.after h (.aside 0 b d)).shift = f.shift :=
  f.shift_alter_zero _ b d.line

theorem shift_after_shift : (f.after h d.shift).shift = f.shift.after h d := by
  rw [after, after, Deed.line_shift, Deed.own_shift]
  exact f.shift_alter_shift _ d.line

theorem branch_zero_after_shift : (f.after h d.shift).branch 0 b = f.branch 0 b := by
  rw [after, Deed.line_shift]
  exact f.branch_zero_alter_shift _ b d.line

/-- What is done on the line of a strand itself. -/
theorem after_nil (hd : d.line = []) : f.after h d [] = h (f []) d.own := by
  rw [after, hd]
  exact f.alter_self _ []

theorem branch_after_nil (hd : d.line = []) : (f.after h d).branch k b = f.branch k b := by
  rw [after, hd]
  exact f.branch_alter_nil _ k b

/-- What is done on the line of a strand itself is not seen from its branches. -/
theorem branch_past_of_nil {l : List Stroke} (hl : ∀ s ∈ l, s.deed.line = []) :
    (f.past h l).branch k b = f.branch k b := by
  induction l generalizing f with
  | nil => rfl
  | cons s l ih =>
    have hrest : ∀ s' ∈ l, s'.deed.line = [] := fun s' hs' => hl s' (List.mem_cons_of_mem s hs')
    rw [past_cons, ih hrest, branch_after_nil (hl s List.mem_cons_self)]

theorem after_of_same (hd : h (f d.line) d.own = f d.line) : f.after h d = f := by
  rw [after, alter, hd, Function.update_eq_self]

end Lined

end Workflow

import Workflow.Proofs.Contract.Step
import Workflow.Proofs.Strand.Line

/-!
# Stories of steps

What the turns of a strand tell about steps. On every line of a strand steps are opened and closed
by the events that are published there, the innermost first; when the host crashes in a branch, the
steps that are open on its line are left as they are.

## Main definitions

* `Workflow.Spot`, `Workflow.Event.phase?` — the step that an event tells of, and what it tells.
* `Workflow.Page`, `Workflow.Pages` — the steps that are open on the lines of a strand.
-/

namespace Workflow

/-! ### Events of steps -/

/-- A step as events name it: the run, and the written path in it. -/
structure Spot where
  run : RunId
  path : String
deriving DecidableEq

/-- What an event tells of a step. -/
inductive Phase where
  | starts
  | retries
  | ends
deriving DecidableEq

namespace Event

/-- The step that an event tells of, and what it tells. -/
def phase? : Event → Option (Phase × Spot)
  | stepStarted run place _ _ => some (.starts, ⟨run, place.path⟩)
  | retrying run place _ _ _ _ => some (.retries, ⟨run, place.path⟩)
  | stepCompleted run place _ _ _ => some (.ends, ⟨run, place.path⟩)
  | stepFailed run place _ _ => some (.ends, ⟨run, place.path⟩)
  | _ => none

/-- The result or the text of the error that an event at the end of a step carries. -/
def outcome? : Event → Option (Except String Value)
  | stepCompleted _ _ _ result _ => some (.ok result)
  | stepFailed _ _ _ error => some (.error error)
  | _ => none

theorem run_of_phase? {e : Event} {p : Phase} {s : Spot} (h : e.phase? = some (p, s)) :
    e.run = s.run := by
  cases e <;> cases h <;> rfl

/-- The events of steps are those that a frame may publish. -/
theorem isOfStep_iff {e : Event} : e.IsOfStep ↔ e.phase?.isSome := by
  cases e <;> simp [IsOfStep, phase?]

end Event

/-! ### Open steps -/

/-- The steps that are open on a line, the innermost first, and the events that have closed steps
around which no other was open. -/
structure Page where
  opened : List Spot
  closed : List Event

namespace Page

/-- The page of a line on which nothing was told. -/
def blank : Page := ⟨[], []⟩

/-- The page after an event. -/
def tell (g : Page) (e : Event) : Page :=
  match e.phase? with
  | some (.starts, s) => { g with opened := s :: g.opened }
  | some (.ends, s) =>
    ⟨g.opened.erase s, if g.opened = [s] then g.closed ++ [e] else g.closed⟩
  | _ => g

/-- The page after something was done on its line. -/
def after (g : Page) : Deed → Page
  | .answer (.publish e) _ => g.tell e
  | .crash _ => { g with opened := [] }
  | _ => g

theorem eq_of_opened : (g : Page) → g.opened = [] → g = ⟨[], g.closed⟩
  | ⟨_, _⟩, rfl => rfl

end Page

/-- The pages of the lines of a strand. -/
abbrev Pages := Lined Page

namespace Pages

/-- The pages of a strand that nothing was done in. -/
def blank : Pages := fun _ => .blank

/-- The pages after a turn. -/
def after (pages : Pages) (d : Deed) : Pages := pages.alter d.line fun g => g.after d.own

/-- The pages after turns. -/
def past (pages : Pages) (l : List Stroke) : Pages :=
  l.foldl (fun pages s => pages.after s.deed) pages

/-- The step is open on some line. -/
def IsOpen (pages : Pages) (s : Spot) : Prop := ∃ line, s ∈ (pages line).opened

/-- No step is open on any line. -/
def Clear (pages : Pages) : Prop := ∀ line, (pages line).opened = []

section

variable {pages : Pages} {d : Deed} {k b : Nat}

@[simp]
theorem past_nil : pages.past [] = pages := rfl

theorem past_append (l l' : List Stroke) : pages.past (l ++ l') = past (pages.past l) l' :=
  List.foldl_append ..

theorem past_concat (l : List Stroke) (s : Stroke) :
    pages.past (l ++ [s]) = after (pages.past l) s.deed := past_append l [s]

theorem branch_after_self :
    (pages.after (.aside k b d)).branch k b = after (pages.branch k b) d :=
  Lined.branch_after_self (h := Page.after)

theorem branch_after_of_ne {n : Nat} {b i : Fin n} (hi : i ≠ b) :
    (pages.after (.aside 0 b d)).branch 0 i = pages.branch 0 i :=
  Lined.branch_after_of_ne_branch (h := Page.after) hi

theorem branch_after_of_beyond {n j i : Nat} {b : Fin n} (hi : j ≠ 0 ∨ n ≤ i) :
    (pages.after (.aside 0 b d)).branch j i = pages.branch j i :=
  Lined.branch_after_of_beyond (h := Page.after) hi

theorem after_aside_nil : pages.after (.aside k b d) [] = pages [] :=
  Lined.after_aside_nil (h := Page.after)

/-- What is done in a branch of the first fork is not seen from behind the fork. -/
theorem shift_after_aside : (pages.after (.aside 0 b d)).shift = pages.shift :=
  Lined.shift_after_aside (h := Page.after)

/-- What is done behind the first fork is done on the lines counted from there. -/
theorem shift_after_shift : (pages.after d.shift).shift = after pages.shift d :=
  Lined.shift_after_shift (h := Page.after)

theorem branch_zero_after_shift : (pages.after d.shift).branch 0 b = pages.branch 0 b :=
  Lined.branch_zero_after_shift (h := Page.after)

/-- What is done on the line of a strand itself. -/
theorem after_nil (h : d.line = []) : pages.after d [] = (pages []).after d.own :=
  Lined.after_nil (h := Page.after) h

theorem branch_after_nil (h : d.line = []) : (pages.after d).branch k b = pages.branch k b :=
  Lined.branch_after_nil (h := Page.after) h

/-- The pages stay the same when nothing is told and nothing crashes. -/
theorem after_of_same (h : (pages d.line).after d.own = pages d.line) : pages.after d = pages :=
  Lined.after_of_same (h := Page.after) h

namespace Clear

theorem notMem {s : Spot} (h : pages.Clear) (line : Line) : s ∉ (pages line).opened := by
  rw [h line]
  exact List.not_mem_nil

theorem branch (h : pages.Clear) (k b : Nat) : Clear (pages.branch k b) := fun _ => h _

theorem of_branches (hnil : (pages []).opened = []) (h : ∀ k b, Clear (pages.branch k b)) :
    pages.Clear
  | [] => hnil
  | (k, b) :: line => h k b line

/-- Nothing is open if nothing is open in the branches of the first fork and behind it. -/
theorem of_shift (h : ∀ b, Clear (pages.branch 0 b)) (hs : Clear pages.shift) : pages.Clear
  | [] => hs []
  | (0, b) :: line => h b line
  | (k + 1, b) :: line => hs ((k, b) :: line)

end Clear

end

end Pages

end Workflow

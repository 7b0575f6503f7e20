import Workflow.Proofs.Strand.Confluence
import Workflow.Proofs.Strand.Rest

/-!
# What is done on the lines of a strand does not depend on the order of turns

While the collaborators of a run answer as functions of what they are asked and nothing is
cancelled, a flow does one thing after another on each of its lines, and what it does there is
settled beforehand: it is computed branch by branch, without any turns. A turn of whichever line
does the first of what is left to be done on that line and leaves all other lines as they are. So
all orders of turns come to the same doings on every line, and up to any moment each line has done
a beginning of them.

## Main definitions

* `Workflow.doneOn` — what was done on a line in some turns.
* `Workflow.Doings`, `Workflow.Flow.doings`, `Workflow.Strand.doings` — what is left to be done.

## Main results

* `Workflow.doings_follows` — what was left to be done was done or is still left.
* `Workflow.doneOn_eq`, `Workflow.doneOn_prefix` — every line does the same in all orders of turns.
* `Workflow.doneOn_ask` — behind the end of a strand, a flow asks for one thing after another.
-/

namespace Workflow

/-- What was done on a line in some turns, in order. -/
def doneOn (line : Line) (l : List Stroke) : List Deed :=
  l.filterMap fun s => if s.deed.line = line then some s.deed.own else none

theorem mem_doneOn {line : Line} {l : List Stroke} {d : Deed} :
    d ∈ doneOn line l ↔ ∃ s ∈ l, s.deed.line = line ∧ s.deed.own = d := by
  simp [doneOn]

theorem doneOn_append (line : Line) (l l' : List Stroke) :
    doneOn line (l ++ l') = doneOn line l ++ doneOn line l' := List.filterMap_append

/-- What was done depends on what the turns have done alone. -/
theorem doneOn_congr {l l' : List Stroke} (h : l.map Stroke.deed = l'.map Stroke.deed)
    (line : Line) : doneOn line l = doneOn line l' := by
  have hdeeds (l : List Stroke) : doneOn line l =
      (l.map Stroke.deed).filterMap fun d => if d.line = line then some d.own else none := by
    rw [List.filterMap_map]
    rfl
  rw [hdeeds l, hdeeds l', h]

/-- What is to be done on the lines of a strand, in order. -/
abbrev Doings := Lined (List Deed)

namespace Doings

/-- Nothing is to be done. -/
def none : Doings := fun _ => []

/-- Something is to be done before all else on its line. -/
def add (h : Doings) (d : Deed) : Doings := h.alter d.line (d.own :: ·)

/-- What is to be done in the branches of a fork and behind it. -/
def fork (n : Nat) (branch : Fin n → Doings) (rest : Doings) : Doings
  | [] => rest []
  | (0, b) :: line => if hb : b < n then branch ⟨b, hb⟩ line else []
  | (j + 1, b) :: line => rest ((j, b) :: line)

variable {n : Nat} {branch : Fin n → Doings} {rest : Doings} {d : Deed}

theorem add_line (h : Doings) : h.add d d.line = d.own :: h d.line := h.alter_self _ d.line

theorem add_of_ne (h : Doings) {line : Line} (hne : line ≠ d.line) : h.add d line = h line :=
  h.alter_of_ne _ d.line hne

/-- What a branch does first is done in the fork. -/
theorem fork_add_aside (b : Fin n) :
    (fork n branch rest).add (.aside 0 b d) =
      fork n (Function.update branch b ((branch b).add d)) rest := by
  funext line
  rcases eq_or_ne line (Deed.aside 0 b d).line with rfl | hne
  · rw [add_line]
    simp [fork, add_line]
  · rw [add_of_ne _ hne]
    rcases line with _ | ⟨⟨_ | j, b'⟩, line⟩
    · rfl
    · by_cases hb' : b' < n
      · simp only [fork, hb', dif_pos]
        rcases eq_or_ne (⟨b', hb'⟩ : Fin n) b with rfl | hb
        · have hline : line ≠ d.line := by
            rintro rfl
            exact hne rfl
          rw [Function.update_self, add_of_ne _ hline]
        · rw [Function.update_of_ne hb]
      · simp only [fork, hb', dif_neg, not_false_eq_true]
    · rfl

/-- What follows a fork does behind it what it does. -/
theorem fork_add_shift : (fork n branch rest).add d.shift = fork n branch (rest.add d) := by
  have hread : ∀ (h : Doings) (line : Line), fork n branch h line.shift = h line := by
    rintro h (_ | ⟨⟨j, b⟩, line⟩) <;> rfl
  funext line
  by_cases hline : ∃ line', line = Line.shift line'
  · obtain ⟨line, rfl⟩ := hline
    rw [hread]
    rcases eq_or_ne line d.line with rfl | hne
    · rw [← Deed.line_shift, add_line, Deed.line_shift, hread, add_line, Deed.own_shift]
    · have hne' : line.shift ≠ d.shift.line := by
        rw [Deed.line_shift]
        exact fun h => hne (Line.shift_injective h)
      rw [add_of_ne _ hne', hread, add_of_ne _ hne]
  · have hne : line ≠ d.shift.line := by
      rw [Deed.line_shift]
      exact fun h => hline ⟨_, h⟩
    rw [add_of_ne _ hne]
    rcases line with _ | ⟨⟨_ | j, b⟩, line⟩
    · exact absurd ⟨[], rfl⟩ hline
    · rfl
    · exact absurd ⟨(j, b) :: line, rfl⟩ hline

theorem fork_none : fork n (fun _ => none) none = none := by
  funext line
  rcases line with _ | ⟨⟨_ | j, b⟩, line⟩
  · rfl
  · simp [fork, none]
  · rfl

end Doings

/-- What a flow does on its lines. -/
def Flow.doings (w : Collaborators) : {α : Type} → Flow α → Names → Doings
  | _, done _, _ => .none
  | _, ask r next, names =>
    let a := w.answer (names [] 0) r
    ((next a).doings w (names.after (.answer r a))).add (.answer r a)
  | _, fork _ n branch next, names =>
    let ends := List.ofFn fun b => .finished ((branch b).outcome w (names.branch 0 b)).1
    (Doings.fork n (fun b => (branch b).doings w (names.branch 0 b))
      (((next (some ends)).doings w names.shift).add .join)).add .fork

/-- A flow whose result is only read in another way does the same. -/
theorem Flow.doings_bind_done {w : Collaborators} {α β : Type} (f : α → β) : (x : Flow α) →
    (names : Names) → (x.bind fun a => .done (f a)).doings w names = x.doings w names
  | done _, _ => rfl
  | ask r next, names => by
    rw [bind, doings, doings, doings_bind_done f (next _)]
  | fork _ n branch next, names => by
    rw [bind, doings, doings, doings_bind_done f (next _)]

/-- What a strand still does on its lines. -/
def Strand.doings (w : Collaborators) : {α : Type} → Strand α → Names → Doings
  | _, line flow, names => flow.doings w names
  | _, crashed _, _ => .none
  | _, joining _ n branch next, names =>
    let ends := List.ofFn fun b => .ofEnd ((branch b).outcome w (names.branch 0 b))
    Doings.fork n (fun b => (branch b).doings w (names.branch 0 b))
      (((next (some ends)).doings w names.shift).add .join)
  | _, beside n branch rest, names =>
    Doings.fork n (fun b => (branch b).doings w (names.branch 0 b)) (rest.doings w names.shift)

variable {α : Type} {w : Collaborators} {token : Token} {limit : Nat} {names : Names}
  {x y : Strand α} {d : Deed} {c c' : Control}

/-- Nothing is left to be done in a strand at rest. -/
theorem doings_of_atRest : {α : Type} → (x : Strand α) → (names : Names) → x.AtRest →
    x.doings w names = .none
  | _, .line (.done _), _, _ => rfl
  | _, .crashed _, _, _ => rfl
  | _, .beside n branch rest, names, hx => by
    have hbranch : (fun b => (branch b).doings w (names.branch 0 b)) = fun _ => Doings.none :=
      funext fun b => doings_of_atRest (branch b) _ (hx.1 b)
    rw [Strand.doings, hbranch, doings_of_atRest rest _ hx.2, Doings.fork_none]

/-- A branch that has done something in a turn, among the others. -/
private theorem doings_update {n : Nat} {branch : Fin n → Strand BranchResult} {b : Fin n}
    {z : Strand BranchResult} (h : (branch b).doings w (names.branch 0 b) =
      (z.doings w (Names.after (names.branch 0 b) d)).add d) (rest : Doings) :
    Doings.fork n (fun i => (branch i).doings w (names.branch 0 i)) rest =
      (Doings.fork n (fun i => (Function.update branch b z i).doings w
        ((names.after (.aside 0 b d)).branch 0 i)) rest).add (.aside 0 b d) := by
  rw [Doings.fork_add_aside]
  congr 1
  funext i
  rcases eq_or_ne i b with rfl | hi
  · rw [Function.update_self, Function.update_self, Names.branch_after_self, h]
  · rw [Function.update_of_ne hi, Function.update_of_ne hi,
      Names.branch_after_of_ne (fun hv => hi (Fin.ext hv))]

/-- The first of what is left to be done on its line is done in a turn; on all other lines the same
is left. -/
theorem doings_turn (h : Turn c x d c' y) (names : Names) (hd : w.Settle names d) :
    x.doings w names = (y.doings w (names.after d)).add d := by
  induction h generalizing names with
  | answer =>
    obtain rfl := hd
    rfl
  | crash => exact hd.elim
  | fork =>
    rw [Names.after_of_not_named rfl]
    rfl
  | branch t ih =>
    simp only [Strand.doings, Names.shift_after_aside, outcome_update (outcome_turn t _ hd)]
    exact doings_update (ih _ hd) _
  | join h =>
    rw [Names.after_of_not_named rfl]
    simp only [Strand.doings, outcome_of_ended _ _ (h _)]
    exact (Doings.fork_add_shift (d := .join)).symm
  | abandon => exact hd.elim
  | drift t ih =>
    simp only [Strand.doings, Names.shift_after_aside]
    exact doings_update (ih _ hd) _
  | @rest _ _ _ n branch _ _ d _ ih =>
    have hbranch : (fun b : Fin n => (branch b).doings w ((names.after d.shift).branch 0 b)) =
        fun b : Fin n => (branch b).doings w (names.branch 0 b) := by
      funext b
      rw [Names.branch_after_shift]
    simp only [Strand.doings, Names.shift_after_shift, hbranch, Doings.fork_add_shift]
    rw [ih _ (Collaborators.settle_shift.mp hd)]

/-! ### Every order of turns -/

/-- What was to be done on a line was done in the turns or is left to be done. -/
theorem doings_follows {l : List Stroke} {post : α → Prop} (h : Follows x l y)
    (hx : x.Keeps (.frame token limit False) post) (ha : w.Attend token names l) (line : Line) :
    x.doings w names line = doneOn line l ++ y.doings w (names.past l) line := by
  induction h with
  | refl => rfl
  | @turn y z l s c' h t ih =>
    obtain ⟨hl, hs, ht, hd, -⟩ := Collaborators.attend_append.mp ha
    obtain ⟨-, hkeeps⟩ := outcome_follows h hx hl
    have hturn := doings_turn t (names.past l) (settle_turn t _ hs ht hkeeps hd)
    rw [ih hl, hturn, Names.past_concat, doneOn_append, List.append_assoc]
    congr 1
    rcases eq_or_ne line s.deed.line with rfl | hne
    · rw [Doings.add_line]
      simp [doneOn]
    · rw [Doings.add_of_ne _ hne]
      simp [doneOn, hne.symm]

/-! ### Strands that have ended -/

/-- Nothing goes on beside the strand any more, in branches that it has waited for. -/
def Strand.Joins : {α : Type} → Strand α → Prop
  | _, line _ => True
  | _, crashed _ => True
  | _, joining _ _ branch _ => ∀ b, (branch b).Joins
  | _, beside _ branch rest => (∀ b, (branch b).AtRest) ∧ rest.Joins

theorem atRest_of_joins : {α : Type} → {e : Except String α} → (x : Strand α) → x.Joins →
    x.ended? = some e → x.AtRest
  | _, _, .line (.done _), _, _ => trivial
  | _, _, .crashed _, _, _ => trivial
  | _, _, .beside _ _ rest, hx, he => ⟨hx.1, atRest_of_joins rest hx.2 he⟩

/-- Branches that are waited for are at rest when they are joined. -/
theorem joins_turn (h : Turn c x d c' y) (hd : d.own ≠ .abandon) (hx : x.Joins) : y.Joins := by
  have hupdate {n : Nat} {branch : Fin n → Strand BranchResult} {b : Fin n}
      {z : Strand BranchResult} (h : ∀ b, (branch b).Joins) (hz : z.Joins) (i : Fin n) :
      (Function.update branch b z i).Joins := by
    rcases eq_or_ne i b with rfl | hi
    · rwa [Function.update_self]
    · rw [Function.update_of_ne hi]
      exact h i
  induction h with
  | answer => trivial
  | crash => trivial
  | fork => exact fun _ => trivial
  | branch _ ih => exact hupdate hx (ih hd (hx _))
  | join h => exact ⟨fun b => atRest_of_joins _ (hx b) (h b), trivial⟩
  | abandon => exact absurd rfl hd
  | drift t => exact absurd t (not_turn_of_atRest (hx.1 _))
  | rest _ ih =>
    rw [Deed.own_shift] at hd
    exact ⟨hx.1, ih hd hx.2⟩

theorem Collaborators.own_ne_abandon : {d : Deed} → {names : Names} → w.Settle names d →
    d.own ≠ .abandon
  | .aside _ _ d, _, hd => own_ne_abandon (d := d) hd
  | .answer .., _, _ => nofun
  | .fork, _, _ => nofun
  | .join, _, _ => nofun

variable {post : α → Prop} {l : List Stroke}

/-- Turns in which nothing is cancelled abandon no branches. -/
theorem joins_follows (h : Follows x l y) (hk : x.Keeps (.frame token limit False) post)
    (ha : w.Attend token names l) (hx : x.Joins) : y.Joins := by
  induction h with
  | refl => exact hx
  | @turn y z l s _ h t ih =>
    obtain ⟨hl, hc, ht, hd, -⟩ := Collaborators.attend_append.mp ha
    obtain ⟨-, hkeeps⟩ := outcome_follows h hk hl
    have hsettle := settle_turn t (names.past l) hc ht hkeeps hd
    exact joins_turn t (Collaborators.own_ne_abandon hsettle) (ih hl)

section

variable {flow : Flow α} {e : Except String α}

/-- A flow that has ended while nothing was cancelled has left nothing that goes on. -/
theorem atRest_of_attend (h : Follows (.line flow) l y)
    (hx : flow.Keeps (.frame token limit False) post) (ha : w.Attend token names l)
    (he : y.ended? = some e) : y.AtRest :=
  atRest_of_joins y (joins_follows h hx ha trivial) he

/-- While nothing is cancelled, every line of a flow does a beginning of what it is to do, in
whatever order the lines take their turns, and all of it until the flow has ended. -/
theorem doneOn_prefix (h : Follows (.line flow) l y)
    (hx : flow.Keeps (.frame token limit False) post) (ha : w.Attend token names l)
    (line : Line) : doneOn line l <+: flow.doings w names line := by
  have hdone : flow.doings w names line = _ := doings_follows h hx ha line
  rw [hdone]
  exact List.prefix_append _ _

theorem doneOn_eq (h : Follows (.line flow) l y)
    (hx : flow.Keeps (.frame token limit False) post) (ha : w.Attend token names l)
    (he : y.ended? = some e) (line : Line) : doneOn line l = flow.doings w names line := by
  have hdone : flow.doings w names line = _ := doings_follows h hx ha line
  rw [hdone, doings_of_atRest y _ (atRest_of_attend h hx ha he)]
  exact (List.append_nil _).symm

end

/-! ### What is done behind the end of a strand -/

/-- What goes on beside an ended strand goes on in branches. -/
theorem line_ne_nil_of_ended (h : Turn c x d c' y) (he : x.ended? ≠ none) : d.line ≠ [] := by
  induction h with
  | drift => exact List.cons_ne_nil _ _
  | rest _ ih =>
    rw [Deed.line_shift]
    exact fun hnil => ih he (Line.shift_injective hnil)
  | _ => exact absurd rfl he

/-- A turn beside an ended strand leaves it ended, and does nothing on its line. -/
private theorem doneOn_of_ended {s : Stroke} (h : Turn s.control x s.deed c' y)
    (hx : x.ended? ≠ none) (l : List Stroke) :
    y.ended? ≠ none ∧ doneOn [] (s :: l) = doneOn [] l := by
  obtain ⟨e, he⟩ := Option.ne_none_iff_exists'.mp hx
  refine ⟨Option.ne_none_iff_exists'.mpr ⟨e, ended?_turn h he⟩, ?_⟩
  simp [doneOn, line_ne_nil_of_ended h hx]

/-- Behind the end of a strand nothing is done on the line before a flow takes its first turn. -/
theorem doneOn_graft {x : Strand α} (hx : x.ended? ≠ none) {flow : Flow β} {l : List Stroke}
    {z : Strand β} (h : Follows (x.graft (.line flow)) l z) :
    doneOn [] l = [] ∨ ∃ y s l' c' w, (y : Strand α).ended? ≠ none ∧
      doneOn [] l = doneOn [] (s :: l') ∧ Turn s.control (.line flow) s.deed c' w ∧
        Follows (y.graft w) l' z := by
  induction l generalizing x with
  | nil => exact .inl rfl
  | cons s l ih =>
    obtain ⟨c', w, u, hw⟩ := follows_cons h
    rcases turn_graft x u with ⟨x', v, rfl⟩ | ⟨w', v, rfl⟩
    · obtain ⟨hx', hside⟩ := doneOn_of_ended v hx l
      rw [hside]
      exact ih hx' hw
    · exact .inr ⟨x, s, l, c', w', hx, rfl, v, hw⟩

/-- Behind the end of a strand, a flow asks for its first request before all else on its line. -/
theorem doneOn_ask {x : Strand α} (hx : x.ended? ≠ none) {r : Request} {next : r.Answer → Flow β}
    {l : List Stroke} {z : Strand β} (h : Follows (x.graft (.line (.ask r next))) l z)
    (hr : ¬ r.IsOfHost) : doneOn [] l = [] ∨ ∃ y l' a, y.ended? ≠ none ∧
      doneOn [] l = .answer r a :: doneOn [] l' ∧
        Follows ((y : Strand α).graft (.line (next a))) l' z := by
  rcases doneOn_graft hx h with hnil | ⟨y, ⟨time, control, deed⟩, l', c', w, hy, hl, t, hw⟩
  · exact .inl hnil
  · cases t with
    | crash hhost => exact absurd hhost hr
    | answer => exact .inr ⟨y, l', _, hy, hl, hw⟩

/-- Behind the end of a strand, a flow that is done asks for nothing on its line. -/
theorem doneOn_done {x : Strand α} (hx : x.ended? ≠ none) {b : β} {l : List Stroke} {z : Strand β}
    (h : Follows (x.graft (.line (.done b))) l z) : doneOn [] l = [] := by
  rcases doneOn_graft hx h with hnil | ⟨_, _, _, _, _, -, -, t, -⟩
  · exact hnil
  · exact nomatch t

end Workflow

import Workflow.Proofs.Strand.Basic

/-!
# Strands at rest

A strand is at rest when it has ended and so has all that could go on beside it. Nothing follows it
any more, and a flow in the place of its end takes its turns as if it stood alone.

## Main definitions

* `Workflow.Strand.AtRest` — nothing goes on any more in a strand or beside it.

## Main results

* `Workflow.follows_of_atRest` — nothing follows a strand at rest.
* `Workflow.follows_ask` — behind a strand at rest, a flow takes the turns of its first request
  before all others.
-/

namespace Workflow

variable {α β : Type} {c c' : Control} {d : Deed} {x y : Strand α}

/-- The strand has ended, and so has all that could go on beside it. -/
def Strand.AtRest : {α : Type} → Strand α → Prop
  | _, line (.done _) => True
  | _, line _ => False
  | _, crashed _ => True
  | _, joining .. => False
  | _, beside _ branch rest => (∀ b, (branch b).AtRest) ∧ rest.AtRest

/-- A strand at rest takes no turn. -/
theorem not_turn_of_atRest (hx : x.AtRest) : ¬ Turn c x d c' y := by
  intro h
  induction h with
  | drift _ ih => exact ih (hx.1 _)
  | rest _ ih => exact ih hx.2
  | _ => exact hx

/-! ### Turns behind a strand at rest -/

theorem eq_of_follows_nil {x z : Strand α} (h : Follows x [] z) : z = x :=
  follows_unique h (.refl x)

/-- Behind a strand at rest, the first turn is that of the first request of the flow. -/
theorem follows_cons_ask {y : Strand α} (hy : y.AtRest) {r : Request} {next : r.Answer → Flow β}
    {s : Stroke} {l : List Stroke} {z : Strand β}
    (h : Follows (y.graft (.line (.ask r next))) (s :: l) z) (hr : ¬ r.IsOfHost) :
    ∃ a, s.deed = .answer r a ∧ Follows (y.graft (.line (next a))) l z := by
  obtain ⟨c', w, u, hw⟩ := follows_cons h
  rcases turn_graft y u with ⟨y', v, -⟩ | ⟨w', v, rfl⟩
  · exact absurd v (not_turn_of_atRest hy)
  · obtain ⟨time, control, deed⟩ := s
    cases v with
    | crash hhost => exact absurd hhost hr
    | answer => exact ⟨_, rfl, hw⟩

/-- Behind a strand at rest, a flow takes the turns of its first request before all others. -/
theorem follows_ask {y : Strand α} (hy : y.AtRest) {r : Request} {next : r.Answer → Flow β}
    {l : List Stroke} {z : Strand β} (h : Follows (y.graft (.line (.ask r next))) l z)
    (hr : ¬ r.IsOfHost) (hz : z.ended? ≠ none) :
    ∃ s l' a, l = s :: l' ∧ s.deed = .answer r a ∧ Follows (y.graft (.line (next a))) l' z := by
  cases l with
  | nil =>
    rw [eq_of_follows_nil h, ended?_graft] at hz
    exact absurd rfl hz
  | cons s l' =>
    obtain ⟨a, hs, hl⟩ := follows_cons_ask hy h hr
    exact ⟨s, l', a, rfl, hs, hl⟩

/-- Nothing follows a strand at rest. -/
theorem follows_of_atRest {x z : Strand α} {l : List Stroke} (hx : x.AtRest) (h : Follows x l z) :
    l = [] ∧ z = x := by
  cases l with
  | nil => exact ⟨rfl, eq_of_follows_nil h⟩
  | cons s l =>
    obtain ⟨_, _, u, -⟩ := follows_cons h
    exact absurd u (not_turn_of_atRest hx)

/-- A flow takes the turns of its first request before all others. -/
theorem follows_line_cons_ask {r : Request} {next : r.Answer → Flow β} {s : Stroke}
    {l : List Stroke} {z : Strand β} (h : Follows (.line (.ask r next)) (s :: l) z)
    (hr : ¬ r.IsOfHost) : ∃ a, s.deed = .answer r a ∧ Follows (.line (next a)) l z := by
  have hrest : (Strand.line (.done ()) : Strand Unit).AtRest := trivial
  exact follows_cons_ask hrest h hr

theorem follows_line_ask {r : Request} {next : r.Answer → Flow β} {l : List Stroke} {z : Strand β}
    (h : Follows (.line (.ask r next)) l z) (hr : ¬ r.IsOfHost) (hz : z.ended? ≠ none) :
    ∃ s l' a, l = s :: l' ∧ s.deed = .answer r a ∧ Follows (.line (next a)) l' z := by
  have hrest : (Strand.line (.done ()) : Strand Unit).AtRest := trivial
  exact follows_ask hrest h hr hz

theorem follows_done {b : β} {l : List Stroke} {z : Strand β}
    (h : Follows (.line (.done b)) l z) : l = [] := by
  have hrest : (Strand.line (.done b)).AtRest := trivial
  exact (follows_of_atRest hrest h).1

theorem atRest_graft_done {b : β} : (y : Strand α) → y.AtRest → (y.graft (.line (.done b))).AtRest
  | .line _, _ => trivial
  | .crashed _, _ => trivial
  | .beside _ _ rest, hy => ⟨hy.1, atRest_graft_done rest hy.2⟩

end Workflow

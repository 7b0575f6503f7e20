import Workflow.Proofs.Contract.Step
import Workflow.Proofs.Strand.Basic

/-!
# Strands that honour a pact or keep a contract

A strand honours the pact of the flow that it carries on, turn by turn, as long as it is answered as
the pact expects; this goes for the branches that nothing waits for any more as well. So it keeps
a contract as long as the contract reckons with every cancellation that the control may tell of.

## Main definitions

* `Workflow.Strand.Honours` — strands that honour a pact.
* `Workflow.Pact.Faces` — what is done in a turn is as the pact expects.
* `Workflow.Strand.Keeps` — strands that keep a contract.
* `Workflow.Contract.Reckons` — the control tells of a cancellation only if the contract reckons
  with one.

## Main results

* `Workflow.honours_turn` — in a turn only what the pact allows is asked for.
* `Workflow.honours_follows` — so it is in all turns of a strand.
* `Workflow.keeps_turn` — a turn keeps the contract.
* `Workflow.answers_turn` — a turn changes the control as the request that it answers does.
-/

namespace Workflow

variable {α : Type} {c c' : Control} {d : Deed} {x y : Strand α} {post : α → Prop}

/-! ### Pacts -/

section Pacts

variable {k : Pact}

/-- The strand honours a pact and comes to results of a kind only. -/
def Strand.Honours (k : Pact) : {α : Type} → (post : α → Prop) → Strand α → Prop
  | _, post, line flow => flow.Honours k post
  | _, _, crashed _ => True
  | _, post, joining token _ branch next =>
    k.joins token ∧ (∀ b, Honours k (fun _ => True) (branch b)) ∧
      ∀ ends, (ends = none → k.cancels) → (next ends).Honours k post
  | _, post, beside _ branch rest =>
    (∀ b, Honours k (fun _ => True) (branch b)) ∧ Honours k post rest

/-- What is answered is expected if it may be asked for, and branches are abandoned only if the pact
reckons with that. -/
structure Pact.Faces (k : Pact) (c : Control) (d : Deed) : Prop where
  expected : ∀ (r : Request) (a : r.Answer) (c' : Control), d.answered? = some ⟨r, a⟩ →
    k.asks r → c.Answers r a c' → k.expects r a
  abandons : ∀ token, k.joins token → c.isCancelled token = true → k.cancels

private theorem honours_update {n : Nat} {branch : Fin n → Strand BranchResult} {b : Fin n}
    {z : Strand BranchResult} (h : ∀ b, (branch b).Honours k fun _ => True)
    (hz : z.Honours k fun _ => True) (i : Fin n) :
    (Function.update branch b z i).Honours k fun _ => True := by
  rcases eq_or_ne i b with rfl | hi
  · rwa [Function.update_self]
  · rw [Function.update_of_ne hi]
    exact h i

/-- A turn honours the pact: what is answered in it may be asked, and what follows honours it. -/
theorem honours_turn (h : Turn c x d c' y) (hk : k.Faces c d) (hx : x.Honours k post) :
    y.Honours k post ∧ ∀ r a, d.answered? = some ⟨r, a⟩ → k.asks r := by
  induction h with
  | answer h =>
    refine ⟨hx.2 _ (hk.expected _ _ _ rfl hx.1 h), ?_⟩
    rintro r a ⟨⟩
    exact hx.1
  | crash => exact ⟨trivial, fun _ _ h => nomatch h⟩
  | fork => exact ⟨hx, fun _ _ h => nomatch h⟩
  | branch _ ih =>
    obtain ⟨ht, hb, hn⟩ := hx
    obtain ⟨hz, hd⟩ := ih ⟨hk.expected, hk.abandons⟩ (hb _)
    exact ⟨⟨ht, honours_update hb hz, hn⟩, hd⟩
  | join =>
    obtain ⟨-, hb, hn⟩ := hx
    exact ⟨⟨hb, hn _ fun h => nomatch h⟩, fun _ _ h => nomatch h⟩
  | abandon h =>
    obtain ⟨ht, hb, hn⟩ := hx
    exact ⟨⟨hb, hn none fun _ => hk.abandons _ ht h⟩, fun _ _ h => nomatch h⟩
  | drift _ ih =>
    obtain ⟨hb, hr⟩ := hx
    obtain ⟨hz, hd⟩ := ih ⟨hk.expected, hk.abandons⟩ (hb _)
    exact ⟨⟨honours_update hb hz, hr⟩, hd⟩
  | rest _ ih =>
    obtain ⟨hb, hr⟩ := hx
    rw [Deed.answered?_shift]
    obtain ⟨hz, hd⟩ := ih ⟨fun r a c' h => hk.expected r a c' (by rwa [Deed.answered?_shift]),
      hk.abandons⟩ hr
    exact ⟨⟨hb, hz⟩, hd⟩

/-- However far a strand is carried on, it honours the pact, if it is answered as expected. -/
theorem honours_follows {l : List Stroke} (h : Follows x l y)
    (hk : ∀ s ∈ l, k.Faces s.control s.deed) (hx : x.Honours k post) :
    y.Honours k post ∧ ∀ s ∈ l, ∀ r a, s.deed.answered? = some ⟨r, a⟩ → k.asks r := by
  obtain ⟨hy, hasks⟩ := h.run (I := fun _ y => y.Honours k post)
    (Q := fun _ s => ∀ r a, s.deed.answered? = some ⟨r, a⟩ → k.asks r) hx
    fun _ s _ hsplit _ _ _ t => honours_turn t (hk s (by simp [hsplit]))
  refine ⟨hy, fun s hs => ?_⟩
  obtain ⟨l₁, l₂, hsplit⟩ := List.append_of_mem hs
  exact hasks l₁ s l₂ hsplit

end Pacts

/-! ### Contracts -/

variable {k : Contract}

/-- The strand keeps a contract and comes to results of a kind only. -/
def Strand.Keeps (k : Contract) : {α : Type} → (post : α → Prop) → Strand α → Prop
  | _, post, line flow => flow.Keeps k post
  | _, _, crashed _ => True
  | _, post, joining token _ branch next =>
    k.joins token ∧ (∀ b, Keeps k (fun _ => True) (branch b)) ∧
      ∀ ends, (ends = none → k.cancels) → (next ends).Keeps k post
  | _, post, beside _ branch rest => (∀ b, Keeps k (fun _ => True) (branch b)) ∧ Keeps k post rest

/-- If the control tells of a cancellation then the contract reckons with it. -/
structure Contract.Reckons (k : Contract) (c : Control) : Prop where
  told : ∀ (r : Request) (a : r.Answer) (c' : Control), k.asks r → c.Answers r a c' →
    r.TellsCancelled a → k.cancels
  abandons : ∀ token, k.joins token → c.isCancelled token = true → k.cancels

theorem Contract.reckons_of_cancels (h : k.cancels) (c : Control) : k.Reckons c :=
  ⟨fun _ _ _ _ _ _ => h, fun _ _ _ => h⟩

theorem Contract.reckons_frame {token : Token} {limit : Nat} {cancels : Prop}
    (hs : c.state = .cancelled → cancels) (ht : c.isCancelled token = true → cancels) :
    (Contract.frame token limit cancels).Reckons c where
  told r a c' hr ha h := by
    cases r with
    | boundary =>
      obtain ⟨hb, -⟩ := ha
      rw [show a = false from h] at hb
      refine hs ?_
      unfold Control.boundary at hb
      split at hb <;> first | assumption | exact nomatch hb
    | sleep => exact ht (hr ▸ ha.1 h)
    | isCancelled => exact ht (hr ▸ ha.1.symm.trans h)
    | _ => exact nomatch h
  abandons token' hj h := ht (hj ▸ h)

theorem Contract.Reckons.faces (h : k.Reckons c) (d : Deed) : k.pact.Faces c d :=
  ⟨fun r a c' _ hr ha => h.told r a c' hr ha, h.abandons⟩

/-- To keep a contract is to honour its pact. -/
theorem Strand.keeps_iff_honours : {α : Type} → {post : α → Prop} → (x : Strand α) →
    (x.Keeps k post ↔ x.Honours k.pact post)
  | _, _, .line flow => flow.keeps_iff_honours
  | _, _, .crashed _ => Iff.rfl
  | _, _, .joining token n branch next => by
    refine and_congr_right fun _ => and_congr (forall_congr' fun b => ?_)
      (forall_congr' fun ends => imp_congr_right fun _ => (next ends).keeps_iff_honours)
    exact keeps_iff_honours (branch b)
  | _, _, .beside n branch rest =>
    and_congr (forall_congr' fun b => keeps_iff_honours (branch b)) (keeps_iff_honours rest)

/-- A turn keeps the contract: what is answered in it may be asked, and what follows is kept. -/
theorem keeps_turn (h : Turn c x d c' y) (hk : k.Reckons c) (hx : x.Keeps k post) :
    y.Keeps k post ∧ ∀ r a, d.answered? = some ⟨r, a⟩ → k.asks r := by
  rw [Strand.keeps_iff_honours] at hx ⊢
  exact honours_turn h (hk.faces d) hx

theorem keeps_ended {a : α} :
    (x : Strand α) → x.Keeps k post → x.ended? = some (.ok a) → post a
  | .line (.done _), hx, h => Except.ok.inj (Option.some.inj h) ▸ hx
  | .beside _ _ rest, hx, h => keeps_ended rest hx.2 h

/-- However far a strand is carried on, it keeps the contract, if the contract reckons with every
control that it meets. -/
theorem keeps_follows {l : List Stroke} (h : Follows x l y) (hk : ∀ s ∈ l, k.Reckons s.control)
    (hx : x.Keeps k post) :
    y.Keeps k post ∧ ∀ s ∈ l, ∀ r a, s.deed.answered? = some ⟨r, a⟩ → k.asks r := by
  rw [Strand.keeps_iff_honours] at hx ⊢
  exact honours_follows h (fun s hs => (hk s hs).faces s.deed) hx

/-- A turn changes the control as the request that it answers does, and only by that. -/
theorem answers_turn (h : Turn c x d c' y) :
    (∀ r a, d.answered? = some ⟨r, a⟩ → c.Answers r a c') ∧ (d.answered? = none → c' = c) := by
  induction h with
  | answer h =>
    refine ⟨?_, fun h => nomatch h⟩
    rintro r a ⟨⟩
    exact h
  | branch _ ih => exact ih
  | drift _ ih => exact ih
  | rest _ ih => rwa [Deed.answered?_shift]
  | _ => exact ⟨fun _ _ h => (nomatch h), fun _ => rfl⟩

end Workflow

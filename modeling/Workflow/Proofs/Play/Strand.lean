import Workflow.Proofs.Contract.Step
import Workflow.Proofs.Play.Flow
import Workflow.Proofs.Strand.Contract

/-!
# Turns play a flow

A flow that is carried on turn by turn, among whatever else happens on an engine, and comes to an
end has come to what it comes to in some world: in the one that recalls what was exchanged on its
line. No cancellation is told of in that world if none could be told of in the turns. So what a flow
comes to in all worlds it comes to on every engine.

## Main definitions

* `Workflow.Flow.Passes`, `Workflow.Strand.Passes` — exchanges lead to a result.
* `Workflow.World.recalling` — the world that recalls some exchanges.

## Main results

* `Workflow.exists_world_of_follows` — a flow that is carried on to its end is played in some world.
* `Workflow.exists_world_of_runStep`, `Workflow.exists_world_of_dispatch` — so are steps and
  attempts at them, without cancellation if there was none.
-/

namespace Workflow

/-- The exchange tells of no cancellation. -/
def Exchange.IsCalm : Exchange → Prop
  | answered r a => ¬ r.TellsCancelled a
  | joined _ _ ends => ends ≠ none

/-! ### Worlds that recall -/

section

variable {past added : List Exchange} {beyond : World}

/-- The world that, after some exchanges, answers as in those that were added then, and otherwise as
another world. -/
noncomputable def World.recalling (past added : List Exchange) (beyond : World) : World where
  answer now r := by
    classical
    exact if h : ∃ a, added[now.length - past.length]? = some (.answered r a) then h.choose else
      beyond.answer now r
  join now token n := by
    classical
    exact if h : ∃ ends, added[now.length - past.length]? = some (.joined token n ends) then
      h.choose else beyond.join now token n

theorem World.answer_recalling {now : List Exchange} {r : Request} {a : r.Answer}
    (h : added[now.length - past.length]? = some (.answered r a)) :
    (recalling past added beyond).answer now r = a := by
  have hex : ∃ a, added[now.length - past.length]? = some (.answered r a) := ⟨a, h⟩
  have heq := hex.choose_spec.symm.trans h
  unfold recalling
  dsimp only
  rw [dif_pos hex]
  exact eq_of_heq (Exchange.answered.inj (Option.some.inj heq)).2

theorem World.join_recalling {now : List Exchange} {token : Token} {n : Nat}
    {ends : Option (List BranchEnd)}
    (h : added[now.length - past.length]? = some (.joined token n ends)) :
    (recalling past added beyond).join now token n = ends := by
  have hex : ∃ ends, added[now.length - past.length]? = some (.joined token n ends) := ⟨ends, h⟩
  have heq := hex.choose_spec.symm.trans h
  unfold recalling
  dsimp only
  rw [dif_pos hex]
  exact (Exchange.joined.inj (Option.some.inj heq)).2.2

/-- A world that recalls exchanges without cancellation is one. -/
theorem World.Uncancelled.recalling (hb : beyond.Uncancelled) (h : ∀ e ∈ added, e.IsCalm) :
    (World.recalling past added beyond).Uncancelled where
  answer now r := by
    unfold World.recalling
    dsimp only
    split
    · next hex => exact h _ (List.mem_of_getElem? hex.choose_spec)
    · exact hb.answer now r
  join now token n := by
    unfold World.recalling
    dsimp only
    split
    · next hex => exact h _ (List.mem_of_getElem? hex.choose_spec)
    · exact hb.join now token n

end

/-! ### Exchanges that lead to a result -/

/-- The exchanges lead a flow to a result. -/
def Flow.Passes : {α : Type} → Flow α → List Exchange → α → Prop
  | _, done b, added, a => added = [] ∧ b = a
  | _, ask r next, added, a =>
    ∃ answer rest, added = .answered r answer :: rest ∧ Passes (next answer) rest a
  | _, fork token n _ next, added, a =>
    ∃ ends rest, added = .joined token n ends :: rest ∧ Passes (next ends) rest a

/-- What exchanges lead to is come to in the world that recalls them. -/
theorem Flow.Passes.play {beyond : World} {past all : List Exchange} {α : Type} {a : α} :
    (x : Flow α) → (earlier added : List Exchange) → x.Passes added a → earlier ++ added = all →
      x.play (.recalling past all beyond) (past ++ earlier) = (a, past ++ all)
  | .done _, earlier, added, h, hall => by
    obtain ⟨rfl, rfl⟩ := h
    rw [List.append_nil] at hall
    rw [Flow.play, hall]
  | .ask r next, earlier, added, h, hall => by
    obtain ⟨answer, rest, rfl, h⟩ := h
    have hanswer : (World.recalling past all beyond).answer (past ++ earlier) r = answer :=
      World.answer_recalling (by simp [← hall])
    rw [Flow.play, hanswer, List.append_assoc]
    exact play (next answer) _ rest h ((List.append_cons ..).symm.trans hall)
  | .fork token n branch next, earlier, added, h, hall => by
    obtain ⟨ends, rest, rfl, h⟩ := h
    have hjoin : (World.recalling past all beyond).join (past ++ earlier) token n = ends :=
      World.join_recalling (by simp [← hall])
    rw [Flow.play, hjoin, List.append_assoc]
    exact play (next ends) _ rest h ((List.append_cons ..).symm.trans hall)

namespace Strand

/-- The exchanges of its line lead a strand to a result. -/
def Passes : {α : Type} → Strand α → List Exchange → α → Prop
  | _, line flow, added, a => flow.Passes added a
  | _, crashed _, _, _ => False
  | _, joining token n _ next, added, a =>
    ∃ ends rest, added = .joined token n ends :: rest ∧ (next ends).Passes rest a
  | _, beside _ _ rest, added, a => Passes rest added a

theorem passes_of_ended {α : Type} {a : α} :
    (x : Strand α) → x.ended? = some (.ok a) → x.Passes [] a
  | line (.done _), h => ⟨rfl, Except.ok.inj (Option.some.inj h)⟩
  | beside _ _ rest, h => passes_of_ended rest h

end Strand

section

variable {α : Type} {k : Contract} {c c' : Control} {d : Deed} {x y : Strand α} {post : α → Prop}
  {added : List Exchange} {a : α}

/-- What a strand is led to after a turn it is led to before the turn, by at most one exchange more,
which tells of no cancellation if none is reckoned with. -/
theorem passes_of_turn (t : Turn c x d c' y) (hk : k.Reckons c) (hx : x.Keeps k post)
    (hy : y.Passes added a) :
    ∃ first : List Exchange, x.Passes (first ++ added) a ∧
      (¬ k.cancels → ∀ e ∈ first, e.IsCalm) := by
  induction t with
  | @answer _ _ _ r answer next h =>
    refine ⟨[.answered r answer], ⟨answer, added, rfl, hy⟩, fun hn e he => ?_⟩
    rw [List.mem_singleton.mp he]
    exact fun htells => hn (hk.told r answer _ hx.1 h htells)
  | crash => exact hy.elim
  | fork => exact ⟨[], hy, fun _ _ h => nomatch h⟩
  | branch => exact ⟨[], hy, fun _ _ h => nomatch h⟩
  | @join _ _ token n _ _ ends _ =>
    refine ⟨[.joined token n _], ⟨_, added, rfl, hy⟩, fun _ e he => ?_⟩
    rw [List.mem_singleton.mp he]
    exact nofun
  | @abandon _ _ token n _ _ h =>
    refine ⟨[.joined token n none], ⟨none, added, rfl, hy⟩, fun hn => ?_⟩
    exact absurd (hk.abandons token hx.1 h) hn
  | drift => exact ⟨[], hy, fun _ _ h => nomatch h⟩
  | rest _ ih => exact ih hk hx.2 hy

/-- The same for any number of turns. -/
theorem passes_of_follows {l : List Stroke} (h : Follows x l y)
    (hk : ∀ s ∈ l, k.Reckons s.control) (hx : x.Keeps k post) (hy : y.Passes added a) :
    ∃ first : List Exchange, x.Passes (first ++ added) a ∧
      (¬ k.cancels → ∀ e ∈ first, e.IsCalm) := by
  induction h generalizing added with
  | refl => exact ⟨[], hy, fun _ _ h => nomatch h⟩
  | @turn y z l s _ h t ih =>
    have hbefore : ∀ s ∈ l, k.Reckons s.control := fun s hs => hk s (List.mem_append_left _ hs)
    obtain ⟨last, hlast, hcalm⟩ :=
      passes_of_turn t (hk s (by simp)) (keeps_follows h hbefore hx).1 hy
    obtain ⟨first, hfirst, hcalm'⟩ := ih hbefore hlast
    refine ⟨first ++ last, List.append_assoc .. ▸ hfirst, fun hn e he => ?_⟩
    exact (List.mem_append.mp he).elim (hcalm' hn e) (hcalm hn e)

end

/-! ### Flows that are carried on to their ends -/

/-- A flow that is carried on to its end comes to what it comes to in some world, without
cancellation if none is reckoned with. -/
theorem exists_world_of_follows {α : Type} {k : Contract} {post : α → Prop} {flow : Flow α}
    (hflow : flow.Keeps k post) {l : List Stroke} {y : Strand α} {a : α}
    (h : Follows (.line flow) l y) (hk : ∀ s ∈ l, k.Reckons s.control)
    (hy : y.ended? = some (.ok a)) (past : List Exchange) :
    ∃ w added, flow.play w past = (a, past ++ added) ∧ (¬ k.cancels → w.Uncancelled) := by
  obtain ⟨added, hadded, hcalm⟩ := passes_of_follows h hk hflow (y.passes_of_ended hy)
  rw [List.append_nil] at hadded
  let beyond : World := .granting fun _ _ => .ok .null
  have hplay : flow.play (.recalling past added beyond) (past ++ []) = (a, past ++ added) :=
    Flow.Passes.play flow [] added hadded (List.nil_append added)
  rw [List.append_nil] at hplay
  exact ⟨_, added, hplay, fun hn => (World.uncancelled_granting _).recalling (hcalm hn)⟩

/-- A flow with variables that keeps the contract of a frame and is carried on to its end comes to
what it comes to in some world without cancellation, if its run is not cancelled meanwhile. -/
theorem Exec.Abides.exists_world {β : Type} {x : Exec β} {token : Token} {limit : Nat}
    (hx : x.Abides (.frame token limit False)) (m : Juncture) {l : List Stroke}
    {y : Strand (Except StepError β × Environment)} {p : Except StepError β × Environment}
    (h : Follows (.line (x.run.run m.env)) l y)
    (hl : ∀ s ∈ l, s.control.state ≠ .cancelled ∧ s.control.isCancelled token = false)
    (hy : y.ended? = some (.ok p)) :
    ∃ w : World, w.Uncancelled ∧ ∃ past, x.play w m = (p.1, ⟨p.2, past⟩) := by
  have hreckons : ∀ s ∈ l, (Contract.frame token limit False).Reckons s.control := fun s hs =>
    Contract.reckons_frame (fun hc => (hl s hs).1 hc) fun hc => by simp [(hl s hs).2] at hc
  obtain ⟨w, added, hplay, hw⟩ := exists_world_of_follows (hx m.env) h hreckons hy m.past
  refine ⟨w, hw id, m.past ++ added, ?_⟩
  unfold Exec.play
  rw [hplay]

section

variable (config : Config) (depths : Nat) (step : Step) (scope : Scope) (location : Location)
  (m : Juncture) {l : List Stroke} {y : Strand (Except StepError Value × Environment)}
  {p : Except StepError Value × Environment}
  (hl : ∀ s ∈ l, s.control.state ≠ .cancelled ∧ s.control.isCancelled scope.token = false)
  (hy : y.ended? = some (.ok p))

include hl hy

/-- A step that is carried on to its end, while its run is not cancelled, comes to what it comes to
in some world without cancellation. -/
theorem exists_world_of_runStep
    (h : Follows (.line ((runStep config (runnerWithin config depths) step scope location).run.run
      m.env)) l y) :
    ∃ w : World, w.Uncancelled ∧ ∃ past,
      (runStep config (runnerWithin config depths) step scope location).play w m =
        (p.1, ⟨p.2, past⟩) :=
  (abides_runStep (Nat.le_add_right ..) (runnerAbides_within (Nat.le_refl _)) step).exists_world m h
    hl hy

/-- So does a single attempt at a step. -/
theorem exists_world_of_dispatch
    (h : Follows (.line ((dispatch config (runnerWithin config depths) scope location step).run.run
      m.env)) l y) :
    ∃ w : World, w.Uncancelled ∧ ∃ past,
      (dispatch config (runnerWithin config depths) scope location step).play w m =
        (p.1, ⟨p.2, past⟩) :=
  (abides_dispatch (Nat.le_add_right ..) (runnerAbides_within (Nat.le_refl _)) location
    step).exists_world m h hl hy

end

end Workflow

import Workflow.Proofs.Strand.Call
import Workflow.Proofs.Story.Frame

/-!
# A call tells of its own runs

Every event that a call publishes carries an identifier that was given to the call: that of its run,
or of the run of a sub-workflow. This is so whether the call is cancelled or not, and also of the
branches that nothing waits for any more.

## Main definitions

* `Workflow.Flow.Owns`, `Workflow.Strand.Owns` — flows and strands that tell of given runs only.

## Main results

* `Workflow.owns_errand` — every call tells of its own runs only.
* `Workflow.owns_follows` — so do the turns that carry it on.
-/

namespace Workflow

variable {α β : Type} {given : RunId → Prop}

/-- What is told by the request is told of a given run. -/
def Request.TellsOf (given : RunId → Prop) : Request → Prop
  | publish e => given e.run
  | _ => True

/-- The identifier that is given by the answer is one of the given ones. -/
def Request.Gives (given : RunId → Prop) : (r : Request) → r.Answer → Prop
  | freshId, run => given run
  | _, _ => True

/-- The flow tells of given runs only, if all that it is given are. -/
def Flow.Owns (given : RunId → Prop) : {α : Type} → Flow α → Prop
  | _, done _ => True
  | _, ask r next => r.TellsOf given ∧ ∀ a, r.Gives given a → (next a).Owns given
  | _, fork _ _ branch next => (∀ b, (branch b).Owns given) ∧ ∀ ends, (next ends).Owns given

namespace Flow

theorem Owns.bind {f : α → Flow β} (hf : ∀ a, (f a).Owns given) :
    (x : Flow α) → x.Owns given → (x.bind f).Owns given
  | done a, _ => hf a
  | ask _ next, hx => ⟨hx.1, fun a ha => bind hf (next a) (hx.2 a ha)⟩
  | fork _ _ _ next, hx => ⟨hx.1, fun ends => bind hf (next ends) (hx.2 ends)⟩

/-- A flow that obeys where it may be cancelled tells of known runs only. -/
theorem owns_of_obeys : {α : Type} → {post : α → Standing → Prop} → {g : Standing} →
    (x : Flow α) → x.Obeys ⟨fun run _ => given run, True⟩ post g → x.Owns given
  | _, _, _, done _, _ => trivial
  | _, _, _, ask r next, hx => by
    obtain ⟨g', hm, hx⟩ := hx
    refine ⟨?_, fun a ha => owns_of_obeys (next a) (hx a ?_)⟩
    · cases r with
      | publish e =>
        obtain ⟨⟨_, he⟩, -⟩ := hm
        exact he
      | _ => trivial
    · cases r with
      | freshId => exact ha
      | _ => exact fun _ => trivial
  | _, _, _, fork _ _ branch next, hx =>
    ⟨fun b => owns_of_obeys (branch b) (hx.1 b []),
      fun ends => owns_of_obeys (next ends) (hx.2 ends fun _ => trivial)⟩

end Flow

/-! ### Calls -/

section

variable (config : Config)

theorem owns_settle {run : RunId} (h : given run) (ended : FrameEnd) :
    (settle run ended).Owns given := by
  rw [settle_eq]
  refine ⟨trivial, fun _ _ => ⟨trivial, fun p _ => ⟨?_, fun _ _ => trivial⟩⟩⟩
  change given _
  rwa [FrameEnd.verdict_run]

theorem owns_toBegin (job : Job) (h : given job.run) : (job.toBegin config).Owns given := by
  refine ⟨trivial, fun a _ => ?_⟩
  cases a with
  | error e => exact trivial
  | ok token =>
    refine ⟨h, fun _ _ => Flow.Owns.bind (fun ended => owns_settle h ended) _ ?_⟩
    have hosts : Terms.Hosts ⟨fun run _ => given run, True⟩
        ⟨job.identity, job.definition.onError, token, 0⟩ ⟨[], [], []⟩ :=
      fun _ => ⟨[], h, fun hn => absurd trivial hn⟩
    exact Flow.owns_of_obeys _ (obeys_frameWithin config.maxDepth job.definition _ job.env _ hosts)

theorem owns_executeDefinition (definition : Definition) (options : RunOptions) :
    (executeDefinition config definition options).Owns given := by
  rw [executeDefinition_eq]
  exact ⟨trivial, fun run h => owns_toBegin config ⟨definition, options, run⟩ h⟩

/-- Whatever an engine is called for, the call tells of the runs only that it is given. -/
theorem owns_errand (k : Errand) : (k.flow config).Owns given := by
  cases k with
  | executeDefinition definition options => exact owns_executeDefinition config definition options
  | execute id options =>
    rw [Errand.flow, execute_eq]
    refine ⟨trivial, fun found _ => ?_⟩
    cases found with
    | none => exact trivial
    | some definition => exact owns_executeDefinition config definition options

end

/-! ### Strands -/

/-- The strand tells of given runs only, if all that it is given are. -/
def Strand.Owns (given : RunId → Prop) : {α : Type} → Strand α → Prop
  | _, line flow => flow.Owns given
  | _, crashed _ => True
  | _, joining _ _ branch next => (∀ b, (branch b).Owns given) ∧ ∀ ends, (next ends).Owns given
  | _, beside _ branch rest => (∀ b, (branch b).Owns given) ∧ rest.Owns given

private theorem owns_update {n : Nat} {branch : Fin n → Strand BranchResult} {b : Fin n}
    {z : Strand BranchResult} (h : ∀ b, (branch b).Owns given) (hz : z.Owns given) (i : Fin n) :
    (Function.update branch b z i).Owns given := by
  rcases eq_or_ne i b with rfl | hi
  · rwa [Function.update_self]
  · rw [Function.update_of_ne hi]
    exact h i

/-- In a turn it is told of given runs only. -/
theorem owns_turn {c c' : Control} {x y : Strand α} {d : Deed} (h : Turn c x d c' y)
    (hd : ∀ r a, d.answered? = some ⟨r, a⟩ → r.Gives given a) (hx : x.Owns given) :
    y.Owns given ∧ ∀ r a, d.answered? = some ⟨r, a⟩ → r.TellsOf given := by
  induction h with
  | @answer _ _ _ r a next _ =>
    refine ⟨hx.2 a (hd r a rfl), ?_⟩
    rintro r' a' ⟨⟩
    exact hx.1
  | crash => exact ⟨trivial, fun _ _ h => nomatch h⟩
  | fork => exact ⟨hx, fun _ _ h => nomatch h⟩
  | branch _ ih =>
    obtain ⟨hb, hn⟩ := hx
    obtain ⟨hz, hd⟩ := ih hd (hb _)
    exact ⟨⟨owns_update hb hz, hn⟩, hd⟩
  | join => exact ⟨⟨hx.1, hx.2 _⟩, fun _ _ h => nomatch h⟩
  | abandon => exact ⟨⟨hx.1, hx.2 _⟩, fun _ _ h => nomatch h⟩
  | drift _ ih =>
    obtain ⟨hb, hr⟩ := hx
    obtain ⟨hz, hd⟩ := ih hd (hb _)
    exact ⟨⟨owns_update hb hz, hr⟩, hd⟩
  | rest _ ih =>
    simp only [Deed.answered?_shift] at hd ⊢
    obtain ⟨hz, hd⟩ := ih hd hx.2
    exact ⟨⟨hx.1, hz⟩, hd⟩

/-- However far a strand is carried on, it tells of given runs only. -/
theorem owns_follows {l : List Stroke} {x y : Strand α} (h : Follows x l y)
    (hl : ∀ s ∈ l, ∀ r a, s.deed.answered? = some ⟨r, a⟩ → r.Gives given a) (hx : x.Owns given) :
    y.Owns given ∧ ∀ s ∈ l, ∀ r a, s.deed.answered? = some ⟨r, a⟩ → r.TellsOf given := by
  obtain ⟨hy, htold⟩ := h.run (I := fun _ y => y.Owns given)
    (Q := fun _ s => ∀ r a, s.deed.answered? = some ⟨r, a⟩ → r.TellsOf given) hx
    fun _ s _ hsplit _ _ _ t => owns_turn t (hl s (by simp [hsplit]))
  refine ⟨hy, fun s hs => ?_⟩
  obtain ⟨l₁, l₂, hsplit⟩ := List.append_of_mem hs
  exact htold l₁ s l₂ hsplit

end Workflow

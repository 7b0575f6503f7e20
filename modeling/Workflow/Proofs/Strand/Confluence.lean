import Workflow.Proofs.Strand.Contract
import Workflow.Proofs.Strand.Line
import Workflow.Proofs.Strand.Termination

/-!
# What a strand comes to does not depend on the order of turns

Let the collaborators of a run answer as functions of what they are asked, let identifiers be given
by the line and by how many were given on it before, and let nothing be cancelled. Then there is one
outcome that every flow comes to: it is computed branch by branch, without any turns. A turn of
whichever line changes neither the outcome of the strand nor that of any other line, so all orders
of turns lead to the same end, and a branch comes to what it would come to alone.

## Main definitions

* `Workflow.Names` — the identifiers to be given on the lines of a strand.
* `Workflow.Collaborators` — how everything outside of the engine answers.
* `Workflow.Collaborators.Attend` — turns in which the collaborators answer and nothing is
  cancelled.
* `Workflow.Flow.outcome`, `Workflow.Strand.outcome` — what a flow or a strand comes to.
* `Workflow.Flow.ComesTo` — a flow ends with one result in every order of turns.

## Main results

* `Workflow.outcome_turn` — a turn does not change what a strand comes to.
* `Workflow.comesTo_outcome` — a flow comes to its outcome in every order of turns.
-/

namespace Workflow

variable {α β : Type}

/-! ### Identifiers -/

/-- The identifiers that are still to be given, by the line and by how many are given on it
before. -/
abbrev Names := Lined (Nat → RunId)

namespace Names

/-- The identifiers after a turn. -/
def after (names : Names) (d : Deed) : Names :=
  if d.named?.isSome then names.alter d.line fun given n => given (n + 1) else names

/-- The identifiers after turns. -/
def past (names : Names) (l : List Stroke) : Names :=
  l.foldl (fun names s => names.after s.deed) names

variable {names : Names} {d : Deed} {k b : Nat}

theorem past_append (l l' : List Stroke) : names.past (l ++ l') = (names.past l).past l' :=
  List.foldl_append ..

theorem past_concat (l : List Stroke) (s : Stroke) :
    names.past (l ++ [s]) = (names.past l).after s.deed := past_append l [s]

/-- Which identifiers are still to be given depends on what was done alone. -/
theorem past_congr {l l' : List Stroke} (h : l.map Stroke.deed = l'.map Stroke.deed) :
    names.past l = names.past l' := by
  have hdeeds (l : List Stroke) : names.past l = (l.map Stroke.deed).foldl after names :=
    List.foldl_map.symm
  rw [hdeeds l, hdeeds l', h]

theorem after_of_not_named (h : d.named? = none) : names.after d = names := by
  rw [after, h]
  rfl

theorem branch_after_self :
    (names.after (.aside k b d)).branch k b = after (names.branch k b) d := by
  rw [after, after, Deed.named?_aside, Deed.line_aside]
  split
  · exact names.branch_alter_self _ k b d.line
  · rfl

theorem branch_after_of_ne {b' : Nat} (h : b' ≠ b) :
    (names.after (.aside k b d)).branch k b' = names.branch k b' := by
  rw [after, Deed.line_aside]
  split
  · exact names.branch_alter_of_ne _ k b d.line fun hb => h (Prod.mk.inj hb).2
  · rfl

/-- What is done in a branch of the first fork gives nothing to what follows the fork. -/
theorem shift_after_aside : (names.after (.aside 0 b d)).shift = names.shift := by
  rw [after, Deed.line_aside]
  split
  · exact names.shift_alter_zero _ b d.line
  · rfl

/-- What is done behind the first fork is done on the lines counted from there. -/
theorem shift_after_shift : (names.after d.shift).shift = after names.shift d := by
  rw [after, after, Deed.named?_shift, Deed.line_shift]
  split
  · exact names.shift_alter_shift _ d.line
  · rfl

theorem branch_after_shift : (names.after d.shift).branch 0 b = names.branch 0 b := by
  rw [after, Deed.named?_shift, Deed.line_shift]
  split
  · exact names.branch_zero_alter_shift _ b d.line
  · rfl

end Names

/-! ### Collaborators -/

/-- The control does not settle how the request is answered. -/
def Request.IsLeftOpen : Request → Prop
  | perform _ => True
  | evaluate _ => True
  | lookup _ => True
  | freshId => True
  | _ => False

/-- How everything outside of the engine answers: the host, the evaluator of scripts, and the
registry, which no run writes to. -/
structure Collaborators where
  perform : ActionCall → Except ActionError Value
  evaluate : ScriptRequest → Except ScriptError ScriptOutcome
  lookup : String → Option Definition

namespace Collaborators

/-- The answer to a request of a frame when nothing is cancelled, with the identifier that is given
when one is asked for. Frames ask for nothing else. -/
def answer (w : Collaborators) (name : RunId) : (r : Request) → r.Answer
  | .boundary => true
  | .attempt _ => ()
  | .publish _ => ()
  | .perform call => w.perform call
  | .evaluate script => w.evaluate script
  | .sleep _ _ => true
  | .isCancelled _ => false
  | .recordProgress _ _ => ()
  | .recordEnvironment _ => ()
  | .lookup id => w.lookup id
  | .freshId => name
  | .begin _ _ _ => .error .alreadyRunning
  | .finish _ => (.completed, 0)

/-- What is answered in the turn by the collaborators is what they answer, and they do answer. -/
def Serve (w : Collaborators) : Names → Deed → Prop
  | names, .answer r a => r.IsLeftOpen → a = w.answer (names [] 0) r
  | _, .crash _ => False
  | names, .aside k b d => w.Serve (names.branch k b) d
  | _, _ => True

/-- In all turns the collaborators answer what they answer. -/
def ServeAll (w : Collaborators) (names : Names) (l : List Stroke) : Prop :=
  ∀ l₁ s l₂, l = l₁ ++ s :: l₂ → w.Serve (names.past l₁) s.deed

/-- In all turns the collaborators answer what they answer, and neither the engine nor a token is
cancelled. -/
def Attend (w : Collaborators) (token : Token) : Names → List Stroke → Prop
  | _, [] => True
  | names, s :: rest => s.control.state ≠ .cancelled ∧ s.control.isCancelled token = false ∧
      w.Serve names s.deed ∧ w.Attend token (names.after s.deed) rest

/-- Everything that is answered in the turn is so, and nothing is abandoned. -/
def Settle (w : Collaborators) : Names → Deed → Prop
  | names, .answer r a => a = w.answer (names [] 0) r
  | _, .crash _ => False
  | _, .abandon => False
  | names, .aside k b d => w.Settle (names.branch k b) d
  | _, _ => True

variable {w : Collaborators} {token : Token} {names : Names} {d : Deed}

theorem attend_append {l l' : List Stroke} :
    w.Attend token names (l ++ l') ↔ w.Attend token names l ∧ w.Attend token (names.past l) l' := by
  induction l generalizing names with
  | nil => simp [Attend, Names.past]
  | cons s rest ih =>
    have hpast : names.past (s :: rest) = (names.after s.deed).past rest := rfl
    simp only [List.cons_append, Attend, ih, hpast, and_assoc]

theorem ServeAll.of_append {l l' : List Stroke} (h : w.ServeAll names (l ++ l')) :
    w.ServeAll names l ∧ w.ServeAll (names.past l) l' := by
  refine ⟨fun l₁ s l₂ hl => h l₁ s (l₂ ++ l') (by simp [hl]), fun l₁ s l₂ hl => ?_⟩
  rw [← Names.past_append]
  exact h (l ++ l₁) s l₂ (by simp [hl])

/-- Collaborators that answer all turns attend to those in which nothing is cancelled. -/
theorem ServeAll.attend {l : List Stroke} (h : w.ServeAll names l) (hl : ∀ s ∈ l,
    s.control.state ≠ .cancelled ∧ s.control.isCancelled token = false) :
      w.Attend token names l := by
  induction l generalizing names with
  | nil => trivial
  | cons s l ih =>
    obtain ⟨hfirst, hrest⟩ := ServeAll.of_append (l := [s]) h
    obtain ⟨hs, ht⟩ := hl s List.mem_cons_self
    exact ⟨hs, ht, hfirst [] s [] rfl, ih hrest fun s' hs' => hl s' (List.mem_cons_of_mem s hs')⟩

theorem serve_shift : w.Serve names d.shift ↔ w.Serve names.shift d := by
  cases d <;> rfl

theorem settle_shift : w.Settle names d.shift ↔ w.Settle names.shift d := by
  cases d <;> rfl

end Collaborators

/-! ### Outcomes -/

/-- What a flow comes to, and the identifiers of what follows it. -/
def Flow.outcome (w : Collaborators) : {α : Type} → Flow α → Names → α × Names
  | _, done a, names => (a, names)
  | _, ask r next, names =>
    let a := w.answer (names [] 0) r
    (next a).outcome w (names.after (.answer r a))
  | _, fork _ _ branch next, names =>
    let ends := List.ofFn fun b => .finished ((branch b).outcome w (names.branch 0 b)).1
    (next (some ends)).outcome w names.shift

/-- What a strand comes to; a branch that the host has crashed in stays so. -/
def Strand.outcome (w : Collaborators) : {α : Type} → Strand α → Names → Except String α
  | _, line flow, names => .ok (flow.outcome w names).1
  | _, crashed report, _ => .error report
  | _, joining _ _ branch next, names =>
    let ends := List.ofFn fun b => .ofEnd ((branch b).outcome w (names.branch 0 b))
    .ok ((next (some ends)).outcome w names.shift).1
  | _, beside _ _ rest, names => rest.outcome w names.shift

variable {w : Collaborators} {token : Token} {limit : Nat} {names : Names}

/-- A flow followed by another comes to what the other comes to from there. -/
theorem Flow.outcome_bind (f : α → Flow β) : (x : Flow α) → (names : Names) →
    (x.bind f).outcome w names = (f (x.outcome w names).1).outcome w (x.outcome w names).2
  | done _, _ => rfl
  | ask _ next, _ => outcome_bind f (next _) _
  | fork _ _ _ next, _ => outcome_bind f (next _) _

/-- What has ended has come to its outcome. -/
theorem outcome_of_ended {e : Except String α} : (x : Strand α) → (names : Names) →
    x.ended? = some e → x.outcome w names = e
  | .line (.done _), _, h => Option.some.inj h
  | .crashed _, _, h => Option.some.inj h
  | .beside _ _ rest, names, h => outcome_of_ended rest names.shift h

/-- A branch whose outcome has not changed in a turn, among the others. -/
theorem outcome_update {n : Nat} {branch : Fin n → Strand BranchResult} {b : Fin n} {d : Deed}
    {z : Strand BranchResult} (h : z.outcome w (Names.after (names.branch 0 b) d) =
      (branch b).outcome w (names.branch 0 b)) (i : Fin n) :
    (Function.update branch b z i).outcome w ((names.after (.aside 0 b d)).branch 0 i) =
      (branch i).outcome w (names.branch 0 i) := by
  rcases eq_or_ne i b with rfl | hi
  · rw [Function.update_self, Names.branch_after_self, h]
  · rw [Function.update_of_ne hi, Names.branch_after_of_ne (fun hv => hi (Fin.ext hv))]

/-- A turn of whichever line changes the outcome of no line. -/
theorem outcome_turn {c c' : Control} {x y : Strand α} {d : Deed} (h : Turn c x d c' y)
    (names : Names) (hd : w.Settle names d) : y.outcome w (names.after d) = x.outcome w names := by
  induction h generalizing names with
  | answer =>
    obtain rfl := hd
    rfl
  | crash => exact hd.elim
  | fork =>
    rw [Names.after_of_not_named rfl]
    rfl
  | branch _ ih =>
    simp only [Strand.outcome, Names.shift_after_aside, outcome_update (ih _ hd)]
  | join h =>
    rw [Names.after_of_not_named rfl]
    simp only [Strand.outcome, outcome_of_ended _ _ (h _)]
  | abandon => exact hd.elim
  | drift _ _ => simp only [Strand.outcome, Names.shift_after_aside]
  | rest _ ih =>
    simp only [Strand.outcome, Names.shift_after_shift]
    exact ih _ (Collaborators.settle_shift.mp hd)

/-! ### Every order of turns -/

/-- While nothing is cancelled, the requests of a frame that the collaborators do not answer are
answered in one way. -/
private theorem eq_answer {c c' : Control} {r : Request} {a : r.Answer} {name : RunId}
    (hr : r.IsOfFrame token limit) (ha : c.Answers r a c')
    (hopen : r.IsLeftOpen → a = w.answer name r) (htell : ¬ r.TellsCancelled a) :
    a = w.answer name r := by
  cases r with
  | boundary => exact Bool.eq_true_of_not_eq_false htell
  | sleep => exact Bool.eq_true_of_not_eq_false htell
  | isCancelled => exact Bool.eq_false_of_not_eq_true htell
  | attempt => rfl
  | publish => rfl
  | recordProgress => rfl
  | perform => exact hopen trivial
  | evaluate => exact hopen trivial
  | lookup => exact hopen trivial
  | freshId => exact hopen trivial
  | recordEnvironment => exact hr.elim
  | begin => exact hr.elim
  | finish => exact hr.elim

/-- A turn of a frame in which nothing is cancelled is settled by the collaborators. -/
theorem settle_turn {c c' : Control} {x y : Strand α} {d : Deed} {post : α → Prop}
    (h : Turn c x d c' y) (names : Names) (hs : c.state ≠ .cancelled)
    (ht : c.isCancelled token = false) (hx : x.Keeps (.frame token limit False) post)
    (hd : w.Serve names d) : w.Settle names d := by
  have hreckons : (Contract.frame token limit False).Reckons c :=
    Contract.reckons_frame hs fun h => by rw [ht] at h; exact nomatch h
  induction h generalizing names with
  | answer ha => exact eq_answer hx.1 ha hd fun htell => hreckons.told _ _ _ hx.1 ha htell
  | crash => exact hd
  | fork => trivial
  | branch _ ih => exact ih _ hs ht (hx.2.1 _) hd hreckons
  | join => trivial
  | abandon h => exact hreckons.abandons _ hx.1 h
  | drift _ ih => exact ih _ hs ht (hx.1 _) hd hreckons
  | rest _ ih =>
    exact Collaborators.settle_shift.mpr
      (ih _ hs ht hx.2 (Collaborators.serve_shift.mp hd) hreckons)

/-- No order of turns changes what a strand comes to. -/
theorem outcome_follows {x y : Strand α} {l : List Stroke} {post : α → Prop} (h : Follows x l y)
    (hx : x.Keeps (.frame token limit False) post) (ha : w.Attend token names l) :
    y.outcome w (names.past l) = x.outcome w names ∧ y.Keeps (.frame token limit False) post := by
  induction h with
  | refl => exact ⟨rfl, hx⟩
  | @turn y z l s c' h t ih =>
    obtain ⟨hl, hs, ht, hd, -⟩ := Collaborators.attend_append.mp ha
    obtain ⟨hy, hkeeps⟩ := ih hl
    have hreckons : (Contract.frame token limit False).Reckons s.control :=
      Contract.reckons_frame hs fun h => by rw [ht] at h; exact nomatch h
    refine ⟨?_, (keeps_turn t hreckons hkeeps).1⟩
    rw [Names.past_concat, outcome_turn t _ (settle_turn t _ hs ht hkeeps hd), hy]

/-- Until it has ended, a strand can take a turn in which the collaborators answer. -/
theorem serve_turn_of_not_ended {c : Control} (hc : c.state ≠ .paused) : {α : Type} →
    (x : Strand α) → (names : Names) → x.ended? = none →
      ∃ d c' y, Turn c x d c' y ∧ w.Serve names d
  | _, .line (.ask r _), names, _ => by
    by_cases hr : r.IsLeftOpen
    · have ha : c.Answers r (w.answer (names [] 0) r) c := by
        cases r <;> first | rfl | exact hr.elim
      exact ⟨_, c, _, .answer ha, fun _ => rfl⟩
    · obtain ⟨a, c', ha⟩ := answers_of_not_paused hc r
      exact ⟨_, c', _, .answer ha, fun h => absurd h hr⟩
  | _, .line (.fork ..), _, _ => ⟨_, c, _, .fork, trivial⟩
  | _, .joining token n branch next, names, _ => by
    by_cases h : ∀ b, (branch b).ended? ≠ none
    · choose ends hends using fun b => Option.ne_none_iff_exists'.mp (h b)
      exact ⟨_, c, _, .join hends, trivial⟩
    · obtain ⟨b, hb⟩ := not_forall.mp h
      obtain ⟨d, c', y, t, hd⟩ :=
        serve_turn_of_not_ended hc (branch b) (names.branch 0 b) (not_not.mp hb)
      exact ⟨_, c', _, .branch t, hd⟩
  | _, .beside _ _ rest, names, h => by
    obtain ⟨d, c', y, t, hd⟩ := serve_turn_of_not_ended hc rest names.shift h
    exact ⟨d.shift, c', _, .rest t, Collaborators.serve_shift.mpr hd⟩

/-- While the collaborators attend to it and nothing is cancelled, the flow ends with one result,
whatever the order of turns: its turns are finite in number, as long as it has not ended there is a
turn to take unless the engine is paused, and it ends in no other way. -/
structure Flow.ComesTo (w : Collaborators) (token : Token) (names : Names) (flow : Flow α)
    (a : α) : Prop where
  finite : Acc Strand.Next (.line flow)
  goesOn : ∀ l y, Follows (.line flow) l y → w.Attend token names l → y.ended? = none →
    ∀ c : Control, c.state ≠ .paused → ∃ d c' z, Turn c y d c' z ∧ w.Serve (names.past l) d
  ends : ∀ l y e, Follows (.line flow) l y → w.Attend token names l → y.ended? = some e →
    e = .ok a

/-- A flow of a frame comes to its outcome in every order of turns. -/
theorem comesTo_outcome (w : Collaborators) (names : Names) {flow : Flow α} {post : α → Prop}
    (h : flow.Keeps (.frame token limit False) post) :
    flow.ComesTo w token names (flow.outcome w names).1 where
  finite := Strand.wellFounded_next.apply _
  goesOn l y _ _ hy _ hc := serve_turn_of_not_ended hc y (names.past l) hy
  ends l y e hl ha he := by
    have hsame := (outcome_follows hl h ha).1
    rw [outcome_of_ended y (names.past l) he] at hsame
    exact hsame

variable {flow : Flow α} {a b : α}

/-- What a flow comes to in every order of turns it comes to in one, under a control that neither
pauses nor cancels it. -/
theorem Flow.ComesTo.exists_follows (h : flow.ComesTo w token names a) {c : Control}
    (hpaused : c.state ≠ .paused) (hcancelled : c.state ≠ .cancelled)
    (htoken : c.isCancelled token = false) :
    ∃ l z, Follows (.line flow) l z ∧ w.Attend token names l ∧ (∀ s ∈ l, s.control = c) ∧
      z.ended? = some (.ok a) := by
  suffices hfrom : ∀ y : Strand α, Acc Strand.Next y → ∀ l, Follows (.line flow) l y →
      w.Attend token names l → (∀ s ∈ l, s.control = c) → ∃ l z, Follows (.line flow) l z ∧
        w.Attend token names l ∧ (∀ s ∈ l, s.control = c) ∧ z.ended? = some (.ok a) by
    exact hfrom _ h.finite [] (.refl _) trivial (List.forall_mem_nil _)
  intro y hy
  induction hy with
  | intro y _ ih =>
    intro l hl ha hc
    rcases he : y.ended? with _ | e
    · obtain ⟨d, c', z, t, hd⟩ := h.goesOn l y hl ha he c hpaused
      refine ih z ⟨c, d, c', t⟩ (l ++ [⟨0, c, d⟩]) (.turn hl t) ?_ ?_
      · exact Collaborators.attend_append.mpr ⟨ha, hcancelled, htoken, hd, trivial⟩
      · exact List.forall_mem_append.mpr ⟨hc, List.forall_mem_singleton.mpr rfl⟩
    · exact ⟨l, y, hl, ha, hc, h.ends l y e hl ha he ▸ he⟩

/-- A flow comes to one result. -/
theorem Flow.ComesTo.unique (h : flow.ComesTo w token names a) (h' : flow.ComesTo w token names b) :
    a = b := by
  obtain ⟨l, z, hl, ha, -, hz⟩ := h.exists_follows (c := .initial) nofun nofun rfl
  exact Except.ok.inj (h'.ends l z _ hl ha hz)

end Workflow

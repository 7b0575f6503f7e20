import Workflow.Engine.Host
import Workflow.Run.Flow
import Mathlib.Logic.Function.Basic

/-!
# Strands

A strand is a flow as it is carried on while others go on beside it. It takes one turn at a time:
the request that it has come to is answered, or the host crashes in it, or it forks and waits for
its branches, or one of these takes a turn, or they are joined, or abandoned because their token is
cancelled. Branches that are no longer waited for stay beside what follows and go on taking turns.

Which answers a request may get depends on the control of the engine alone where the control
decides, and is left open where the host, the clock or the registry does.

## Main definitions

* `Workflow.Control.Answers` — the answers to a request, and the control after them.
* `Workflow.Strand`, `Workflow.Deed`, `Workflow.Turn` — strands, what they do, and their turns.
* `Workflow.Strand.ended?` — how a strand has ended.
* `Workflow.Strand.bind`, `Workflow.Strand.graft` — a strand followed by a flow, or by a strand in
  the place of its end.
* `Workflow.Stroke`, `Workflow.Follows` — the turns of a strand one after another, whatever happens
  between them.

## Main results

* `Workflow.turn_bind`, `Workflow.turn_graft` — a strand that is followed by a flow takes its own
  turns, and the turns of the flow once it has ended.
* `Workflow.Follows.run` — what each turn of a strand preserves holds however far it is carried on.
-/

namespace Workflow

/-! ### Answers -/

namespace Control

/-- The control after the engine was asked for something; what is refused changes nothing. -/
def asked (c : Control) : ControlRequest → Control
  | .pause => match c.pause with
    | .ok (c', _) => c'
    | .error _ => c
  | .resume => match c.resume with
    | .ok (c', _) => c'
    | .error _ => c
  | .cancel => c.cancel

/-- The event that the engine publishes when it is asked for something. -/
def told? (c : Control) : ControlRequest → Option Event
  | .pause => match c.pause with
    | .ok (_, e) => some e
    | .error _ => none
  | .resume => match c.resume with
    | .ok (_, e) => some e
    | .error _ => none
  | .cancel => none

/-- A request may be answered so, and this is the control then. -/
def Answers (c : Control) : (r : Request) → r.Answer → Control → Prop
  | .boundary, goesOn, c' => c.boundary = (if goesOn then .passes else .ends) ∧ c' = c
  | .sleep token _, slept, c' => (slept = false → c.isCancelled token = true) ∧ c' = c
  | .isCancelled token, cancelled, c' => cancelled = c.isCancelled token ∧ c' = c
  | .recordProgress index env, _, c' => c' = c.recordProgress index env
  | .recordEnvironment env, _, c' => c' = c.recordEnvironment env
  | .begin identity totalSteps env, a, c' =>
    match c.begin identity totalSteps env with
    | .ok (token, begun) => a = .ok token ∧ c' = begun
    | .error e => a = .error e ∧ c' = c
  | .finish outcome, a, c' =>
    a = ((c.finish outcome).1, (c.finish outcome).2.progress.currentStep) ∧
      c' = (c.finish outcome).2
  | _, _, c' => c' = c

end Control

/-- The request begins or ends a run. -/
def Request.ChangesState : Request → Prop
  | begin .. => True
  | finish _ => True
  | _ => False

/-- All other requests leave the state of the engine and its tokens as they are. -/
theorem Control.Answers.still {c c' : Control} : {r : Request} → {a : r.Answer} →
    c.Answers r a c' → ¬ r.ChangesState → c'.state = c.state ∧ c'.tokens = c.tokens
  | .begin .., _, _, hr => absurd trivial hr
  | .finish _, _, _, hr => absurd trivial hr
  | .boundary, _, h, _ => h.2 ▸ ⟨rfl, rfl⟩
  | .sleep .., _, h, _ => h.2 ▸ ⟨rfl, rfl⟩
  | .isCancelled _, _, h, _ => h.2 ▸ ⟨rfl, rfl⟩
  | .recordProgress .., _, h, _ => by cases h; exact ⟨rfl, rfl⟩
  | .recordEnvironment _, _, h, _ => by cases h; exact ⟨rfl, rfl⟩
  | .attempt _, _, h, _ => by cases h; exact ⟨rfl, rfl⟩
  | .publish _, _, h, _ => by cases h; exact ⟨rfl, rfl⟩
  | .perform _, _, h, _ => by cases h; exact ⟨rfl, rfl⟩
  | .evaluate _, _, h, _ => by cases h; exact ⟨rfl, rfl⟩
  | .lookup _, _, h, _ => by cases h; exact ⟨rfl, rfl⟩
  | .freshId, _, h, _ => by cases h; exact ⟨rfl, rfl⟩

/-- The request is met by the host, which may crash over it. -/
def Request.IsOfHost : Request → Prop
  | perform _ => True
  | evaluate _ => True
  | _ => False

/-! ### Strands and their turns -/

/-- A flow that is carried on turn by turn. -/
inductive Strand : Type → Type 1 where
  /-- It has come to a request, to a fork, or to its end. -/
  | line {α : Type} (flow : Flow α) : Strand α
  /-- The host has crashed in it. -/
  | crashed {α : Type} (report : String) : Strand α
  /-- It waits for its branches. -/
  | joining {α : Type} (token : Token) (n : Nat) (branch : Fin n → Strand BranchResult)
      (next : Option (List BranchEnd) → Flow α) : Strand α
  /-- It goes on beside branches that it does not wait for any more. -/
  | beside {α : Type} (n : Nat) (branch : Fin n → Strand BranchResult) (rest : Strand α) : Strand α

/-- What a strand does in a turn. -/
inductive Deed where
  /-- A request is answered. -/
  | answer (r : Request) (a : r.Answer)
  | crash (report : String)
  | fork
  | join
  | abandon
  /-- A branch does something; the fork that it belongs to is counted from the first that is still
  there. -/
  | aside (fork branch : Nat) (deed : Deed)

namespace Deed

/-- The request that is answered in a turn, of a branch or not, with its answer. -/
def answered? : Deed → Option ((r : Request) × r.Answer)
  | answer r a => some ⟨r, a⟩
  | aside _ _ d => d.answered?
  | _ => none

/-- What is done in a turn by a strand that goes on beside the branches of another fork. -/
def shift : Deed → Deed
  | aside k b d => aside (k + 1) b d
  | d => d

@[simp]
theorem answered?_shift (d : Deed) : d.shift.answered? = d.answered? := by
  cases d <;> rfl

end Deed

namespace Strand

variable {α β : Type}

/-- How a strand has ended: it has come to its end, or the host has crashed in it. -/
def ended? : Strand α → Option (Except String α)
  | line (.done a) => some (.ok a)
  | line _ => none
  | crashed report => some (.error report)
  | joining .. => none
  | beside _ _ rest => rest.ended?

/-- A strand followed by a flow. -/
def bind : Strand α → (α → Flow β) → Strand β
  | line flow, f => line (flow.bind f)
  | crashed report, _ => crashed report
  | joining token n branch next, f => joining token n branch fun ends => (next ends).bind f
  | beside n branch rest, f => beside n branch (rest.bind f)

/-- A strand in the place of the end of another; what goes on beside the other stays. -/
def graft : Strand α → Strand β → Strand β
  | line _, s => s
  | crashed _, s => s
  | joining .., s => s
  | beside n branch rest, s => beside n branch (rest.graft s)

end Strand

/-- How a branch has ended that has ended so as a strand. -/
def BranchEnd.ofEnd : Except String BranchResult → BranchEnd
  | .ok r => .finished r
  | .error report => .crashed report

open Strand in
/-- The turns of a strand under a control, with what is done and the control after it. -/
inductive Turn : {α : Type} → Control → Strand α → Deed → Control → Strand α → Prop
  | answer {α : Type} {c c' : Control} {r : Request} {a : r.Answer} {next : r.Answer → Flow α}
      (h : c.Answers r a c') : Turn c (line (.ask r next)) (.answer r a) c' (line (next a))
  | crash {α : Type} {c : Control} {r : Request} {next : r.Answer → Flow α} (h : r.IsOfHost)
      (report : String) : Turn c (line (.ask r next)) (.crash report) c (crashed report)
  | fork {α : Type} {c : Control} {token : Token} {n : Nat} {branch : Fin n → Flow BranchResult}
      {next : Option (List BranchEnd) → Flow α} :
      Turn c (line (.fork token n branch next)) .fork c
        (joining token n (fun b => line (branch b)) next)
  | branch {α : Type} {c c' : Control} {token : Token} {n : Nat}
      {branch : Fin n → Strand BranchResult} {next : Option (List BranchEnd) → Flow α} {b : Fin n}
      {d : Deed} {y : Strand BranchResult} (h : Turn c (branch b) d c' y) :
      Turn c (joining token n branch next) (.aside 0 b d) c'
        (joining token n (Function.update branch b y) next)
  | join {α : Type} {c : Control} {token : Token} {n : Nat} {branch : Fin n → Strand BranchResult}
      {next : Option (List BranchEnd) → Flow α} {ends : Fin n → Except String BranchResult}
      (h : ∀ b, (branch b).ended? = some (ends b)) :
      Turn c (joining token n branch next) .join c
        (beside n branch (line (next (some (List.ofFn fun b => .ofEnd (ends b))))))
  | abandon {α : Type} {c : Control} {token : Token} {n : Nat}
      {branch : Fin n → Strand BranchResult} {next : Option (List BranchEnd) → Flow α}
      (h : c.isCancelled token = true) :
      Turn c (joining token n branch next) .abandon c (beside n branch (line (next none)))
  | drift {α : Type} {c c' : Control} {n : Nat} {branch : Fin n → Strand BranchResult}
      {rest : Strand α} {b : Fin n} {d : Deed} {y : Strand BranchResult}
      (h : Turn c (branch b) d c' y) :
      Turn c (beside n branch rest) (.aside 0 b d) c' (beside n (Function.update branch b y) rest)
  | rest {α : Type} {c c' : Control} {n : Nat} {branch : Fin n → Strand BranchResult}
      {rest y : Strand α} {d : Deed} (h : Turn c rest d c' y) :
      Turn c (beside n branch rest) d.shift c' (beside n branch y)

/-- A turn that was taken: when, under which control, and what was done. -/
structure Stroke where
  time : Nat
  control : Control
  deed : Deed

/-- The turns of a strand one after another; the control may change between them. -/
inductive Follows {α : Type} : Strand α → List Stroke → Strand α → Prop
  | refl (x : Strand α) : Follows x [] x
  | turn {x y z : Strand α} {l : List Stroke} {s : Stroke} {c' : Control} (h : Follows x l y)
      (t : Turn s.control y s.deed c' z) : Follows x (l ++ [s]) z

/-! ### Strands one after another -/

section

variable {α β : Type} {c c' : Control} {d : Deed}

@[simp]
theorem ended?_graft (s : Strand β) : (x : Strand α) → (x.graft s).ended? = s.ended?
  | .line _ => rfl
  | .crashed _ => rfl
  | .joining .. => rfl
  | .beside _ _ rest => ended?_graft s rest

theorem bind_eq_graft {a : α} (f : α → Flow β) :
    (x : Strand α) → x.ended? = some (.ok a) → x.bind f = x.graft (.line (f a))
  | .line (.done _), h => by
    cases h
    rfl
  | .beside n branch rest, h => congrArg (Strand.beside n branch) (bind_eq_graft f rest h)

/-- A strand that is followed by a flow ends where it crashes, or where the flow ends. -/
theorem ended?_bind {f : α → Flow β} {e : Except String β} :
    (x : Strand α) → (x.bind f).ended? = some e →
      (∃ report, x.ended? = some (.error report) ∧ e = .error report) ∨
        ∃ a, x.ended? = some (.ok a) ∧ (Strand.line (f a)).ended? = some e
  | .line (.done a), h => .inr ⟨a, rfl, h⟩
  | .crashed report, h => .inl ⟨report, rfl, (Option.some.inj h).symm⟩
  | .beside _ _ rest, h => ended?_bind rest h

theorem ended?_bind_done (f : α → β) :
    (x : Strand α) → (x.bind fun a => .done (f a)).ended? = x.ended?.map (Except.map f)
  | .line (.done _) => rfl
  | .line (.ask ..) => rfl
  | .line (.fork ..) => rfl
  | .crashed _ => rfl
  | .joining .. => rfl
  | .beside _ _ rest => ended?_bind_done f rest

/-- What has ended is not taken up again; only branches beside it go on. -/
theorem ended?_turn {x y : Strand α} {e : Except String α} (h : Turn c x d c' y)
    (hx : x.ended? = some e) : y.ended? = some e := by
  induction h with
  | drift _ => exact hx
  | rest _ ih => exact ih hx
  | _ => exact nomatch hx

/-- A strand in which the host crashes on its own line has ended. -/
theorem ended?_of_crash {report : String} {x y : Strand α} (h : Turn c x (.crash report) c' y) :
    y.ended? = some (.error report) := by
  generalize hd : Deed.crash report = d at h
  induction h with
  | crash =>
    cases hd
    rfl
  | @rest _ _ _ _ _ _ _ d _ ih =>
    cases d with
    | crash => exact ih hd
    | _ => exact nomatch hd
  | _ => exact nomatch hd

theorem line_ended?_ne_error (flow : Flow α) (report : String) :
    (Strand.line flow).ended? ≠ some (.error report) := by
  cases flow <;> exact nofun

/-- A strand has ended in a crash only if the host has crashed in a turn of its own line. -/
theorem crash_of_turn {report : String} {x y : Strand α} (t : Turn c x d c' y)
    (hy : y.ended? = some (.error report)) :
    x.ended? = some (.error report) ∨ d = .crash report := by
  induction t with
  | answer => exact absurd hy (line_ended?_ne_error _ _)
  | crash => exact .inr (congrArg Deed.crash (Except.error.inj (Option.some.inj hy)))
  | fork => exact nomatch hy
  | branch => exact nomatch hy
  | join => exact absurd hy (line_ended?_ne_error _ _)
  | abandon => exact absurd hy (line_ended?_ne_error _ _)
  | drift => exact .inl hy
  | rest _ ih => exact (ih hy).imp_right fun hd => congrArg Deed.shift hd

private theorem shift_of_line {flow : Flow α} {y : Strand α} (h : Turn c (.line flow) d c' y) :
    d.shift = d := by
  cases h <;> rfl

/-- A strand that is followed by a flow takes its own turns, and those of the flow once it has
ended. -/
theorem turn_bind {f : α → Flow β} {z : Strand β} : {d : Deed} → (x : Strand α) →
    Turn c (x.bind f) d c' z → (∃ y, Turn c x d c' y ∧ z = y.bind f) ∨
      ∃ a s, x.ended? = some (.ok a) ∧ Turn c (.line (f a)) d c' s ∧ z = x.graft s
  | _, .line (.done a), h => .inr ⟨a, z, rfl, h, rfl⟩
  | _, .line (.ask r next), h => by
    cases h with
    | answer h => exact .inl ⟨_, .answer h, rfl⟩
    | crash h report => exact .inl ⟨_, .crash h report, rfl⟩
  | _, .line (.fork token n branch next), h => by
    cases h
    exact .inl ⟨_, .fork, rfl⟩
  | _, .joining token n branch next, h => by
    cases h with
    | branch h => exact .inl ⟨_, .branch h, rfl⟩
    | join h => exact .inl ⟨_, .join h, rfl⟩
    | abandon h => exact .inl ⟨_, .abandon h, rfl⟩
  | _, .beside n branch rest, h => by
    cases h with
    | drift h => exact .inl ⟨_, .drift h, rfl⟩
    | rest h =>
      rcases turn_bind rest h with ⟨y, hy, rfl⟩ | ⟨a, s, ha, hs, rfl⟩
      · exact .inl ⟨_, .rest hy, rfl⟩
      · exact .inr ⟨a, s, ha, (shift_of_line hs).symm ▸ hs, rfl⟩

/-- A strand takes its turns whatever follows it. -/
theorem Turn.bind {x y : Strand α} (h : Turn c x d c' y) (f : α → Flow β) :
    Turn c (x.bind f) d c' (y.bind f) := by
  induction h with
  | answer h => exact .answer h
  | crash h report => exact .crash h report
  | fork => exact .fork
  | branch h => exact .branch h
  | join h => exact .join h
  | abandon h => exact .abandon h
  | drift h => exact .drift h
  | rest _ ih => exact .rest (ih f)

/-- A flow in the place of the end of a strand takes its own turns, and branches beside the strand
go on. -/
theorem turn_graft {flow : Flow β} {z : Strand β} : {d : Deed} → (x : Strand α) →
    Turn c (x.graft (.line flow)) d c' z → (∃ y, Turn c x d c' y ∧ z = y.graft (.line flow)) ∨
      ∃ s, Turn c (.line flow) d c' s ∧ z = x.graft s
  | _, .line _, h => .inr ⟨z, h, rfl⟩
  | _, .crashed _, h => .inr ⟨z, h, rfl⟩
  | _, .joining .., h => .inr ⟨z, h, rfl⟩
  | _, .beside n branch rest, h => by
    cases h with
    | drift h => exact .inl ⟨_, .drift h, rfl⟩
    | rest h =>
      rcases turn_graft rest h with ⟨y, hy, rfl⟩ | ⟨s, hs, rfl⟩
      · exact .inl ⟨_, .rest hy, rfl⟩
      · exact .inr ⟨s, (shift_of_line hs).symm ▸ hs, rfl⟩

/-! ### Strands are followed in one way -/

theorem Deed.shift_injective {d d' : Deed} (h : d.shift = d'.shift) : d = d' := by
  cases d <;> cases d' <;> cases h <;> rfl

theorem Deed.shift_ne_aside (d : Deed) (b : Nat) (d' : Deed) : d.shift ≠ .aside 0 b d' := by
  cases d <;> exact fun h => nomatch h

/-- What is done in a turn settles what comes of it. -/
theorem turn_unique {c₁ c₂ : Control} {x y z : Strand α} (h : Turn c x d c₁ y)
    (h' : Turn c x d c₂ z) : y = z := by
  induction h generalizing c₂ with
  | answer => cases h'; rfl
  | crash => cases h'; rfl
  | fork => cases h'; rfl
  | abandon => cases h'; rfl
  | join h =>
    cases h' with
    | join h' => rw [funext fun b => Option.some.inj ((h b).symm.trans (h' b))]
  | @branch _ _ _ _ _ _ _ b d _ _ ih =>
    generalize hd : Deed.aside 0 b d = e at h'
    cases h' with
    | branch t =>
      simp only [Deed.aside.injEq, true_and] at hd
      obtain ⟨hb, rfl⟩ := hd
      obtain rfl := Fin.ext hb
      rw [ih t]
    | _ => exact nomatch hd
  | @drift _ _ _ _ _ _ b d _ _ ih =>
    generalize hd : Deed.aside 0 b d = e at h'
    cases h' with
    | drift t =>
      simp only [Deed.aside.injEq, true_and] at hd
      obtain ⟨hb, rfl⟩ := hd
      obtain rfl := Fin.ext hb
      rw [ih t]
    | rest => exact absurd hd.symm (Deed.shift_ne_aside _ _ _)
  | @rest _ _ _ _ _ _ _ d _ ih =>
    generalize hd : d.shift = e at h'
    cases h' with
    | drift => exact absurd hd (Deed.shift_ne_aside _ _ _)
    | rest t =>
      obtain rfl := Deed.shift_injective hd
      rw [ih t]

theorem follows_unique {l : List Stroke} {x y z : Strand α} (h : Follows x l y)
    (h' : Follows x l z) : y = z := by
  induction h generalizing z with
  | refl =>
    generalize hl : ([] : List Stroke) = l at h'
    cases h' with
    | refl => rfl
    | turn => exact absurd hl (by simp)
  | @turn y _ l s _ _ t ih =>
    generalize hl : l ++ [s] = l' at h'
    cases h' with
    | refl => exact absurd hl (by simp)
    | turn h' t' =>
      obtain ⟨rfl, hs⟩ := List.append_inj' hl rfl
      obtain rfl := List.singleton_inj.mp hs
      obtain rfl := ih h'
      exact turn_unique t t'

theorem Follows.trans {l l' : List Stroke} {x y z : Strand α} (h : Follows x l y)
    (h' : Follows y l' z) : Follows x (l ++ l') z := by
  induction h' with
  | refl => rwa [List.append_nil]
  | turn _ t ih => exact List.append_assoc .. ▸ .turn ih t

/-- What takes a turn wherever a strand takes one follows the turns of that strand. -/
theorem Follows.place {l : List Stroke} {x y : Strand α} (h : Follows x l y)
    (plug : Strand α → Strand β) (deed : Deed → Deed)
    (hplug : ∀ {c x d c' y}, Turn c x d c' y → Turn c (plug x) (deed d) c' (plug y)) :
    Follows (plug x) (l.map fun s => { s with deed := deed s.deed }) (plug y) := by
  induction h with
  | refl => exact .refl _
  | turn _ t ih =>
    rw [List.map_append]
    exact .turn ih (hplug t)

theorem Follows.bind {l : List Stroke} {x y : Strand α} (h : Follows x l y) (f : α → Flow β) :
    Follows (x.bind f) l (y.bind f) := by
  induction h with
  | refl => exact .refl _
  | turn _ t ih => exact .turn ih (t.bind f)

theorem Follows.head {l : List Stroke} {s : Stroke} {x y z : Strand α}
    (t : Turn s.control x s.deed c' y) (h : Follows y l z) : Follows x (s :: l) z :=
  (Follows.turn (.refl x) t).trans h

/-- One of some turns and a last one is the last one, or one of the others. -/
theorem split_concat {l l₁ l₂ : List Stroke} {x y : Stroke} (h : l ++ [x] = l₁ ++ y :: l₂) :
    (l₁ = l ∧ y = x) ∨ ∃ r, l = l₁ ++ y :: r := by
  rcases List.eq_nil_or_concat l₂ with rfl | ⟨r, z, rfl⟩
  · obtain ⟨rfl, hy⟩ := List.append_inj' h rfl
    exact .inl ⟨rfl, (List.singleton_inj.mp hy).symm⟩
  · rw [List.concat_eq_append, ← List.cons_append, ← List.append_assoc] at h
    exact .inr ⟨r, (List.append_inj' h rfl).1⟩

/-- What each turn of a strand preserves, by what was done before it, holds however far the strand is
carried on, and what each turn shows is shown by all of them. -/
theorem Follows.run {I : List Stroke → Strand α → Prop} {Q : List Stroke → Stroke → Prop}
    {l : List Stroke} {x y : Strand α} (h : Follows x l y) (hx : I [] x)
    (hturn : ∀ l₁ s l₂, l = l₁ ++ s :: l₂ → ∀ {c' y z}, Turn s.control y s.deed c' z → I l₁ y →
      I (l₁ ++ [s]) z ∧ Q l₁ s) :
    I l y ∧ ∀ l₁ s l₂, l = l₁ ++ s :: l₂ → Q l₁ s := by
  induction h with
  | refl => exact ⟨hx, fun l₁ s l₂ hl => absurd hl (by simp)⟩
  | @turn y z l s _ _ t ih =>
    obtain ⟨hy, hl⟩ := ih fun l₁ s' l₂ hsplit =>
      hturn l₁ s' (l₂ ++ [s]) (by rw [hsplit, List.append_assoc, List.cons_append])
    obtain ⟨hz, hs⟩ := hturn l s [] rfl t hy
    refine ⟨hz, fun l₁ s' l₂ hsplit => ?_⟩
    rcases split_concat hsplit with ⟨rfl, rfl⟩ | ⟨r, hr⟩
    · exact hs
    · exact hl l₁ s' r hr

/-- Turns that follow a strand follow it up to any point, and then on from there. -/
theorem follows_append {l l' : List Stroke} {x z : Strand α} (h : Follows x (l ++ l') z) :
    ∃ y, Follows x l y ∧ Follows y l' z := by
  generalize hl : l ++ l' = l'' at h
  induction h generalizing l' with
  | refl =>
    obtain ⟨rfl, rfl⟩ := List.append_eq_nil_iff.mp hl
    exact ⟨x, .refl x, .refl x⟩
  | @turn _ z l₀ s _ h t ih =>
    rcases eq_or_ne l' [] with rfl | hne
    · rw [List.append_nil] at hl
      exact ⟨z, hl ▸ .turn h t, .refl z⟩
    · obtain ⟨r, s', rfl⟩ : ∃ r s', l' = r ++ [s'] :=
        ⟨_, _, (List.dropLast_concat_getLast hne).symm⟩
      rw [← List.append_assoc] at hl
      obtain ⟨hl₀, hs⟩ := List.append_inj' hl rfl
      obtain rfl := List.singleton_inj.mp hs
      obtain ⟨y, hy, hr⟩ := ih hl₀
      exact ⟨y, hy, .turn hr t⟩

theorem follows_cons {l : List Stroke} {s : Stroke} {x z : Strand α} (h : Follows x (s :: l) z) :
    ∃ c' y, Turn s.control x s.deed c' y ∧ Follows y l z := by
  obtain ⟨y, hy, hz⟩ := follows_append (show Follows x ([s] ++ l) z from h)
  generalize hs : [s] = l' at hy
  cases hy with
  | refl => exact absurd hs (List.cons_ne_nil _ _)
  | turn hx t =>
    obtain ⟨rfl, hs⟩ := List.append_inj' (show [] ++ [s] = _ from hs) rfl
    obtain rfl := List.singleton_inj.mp hs
    obtain rfl := follows_unique hx (.refl _)
    exact ⟨_, y, t, hz⟩

/-- A strand whose result is only read in another way takes the same turns. -/
theorem follows_bind_done {f : α → β} {l : List Stroke} {x : Strand α} {z : Strand β} :
    Follows (x.bind fun a => .done (f a)) l z ↔
      ∃ y, Follows x l y ∧ z = y.bind fun a => .done (f a) := by
  constructor
  · intro h
    induction h with
    | refl => exact ⟨x, .refl x, rfl⟩
    | turn _ t ih =>
      obtain ⟨y, hy, rfl⟩ := ih
      rcases turn_bind y t with ⟨y', u, rfl⟩ | ⟨a, s, -, u, -⟩
      · exact ⟨y', .turn hy u, rfl⟩
      · exact nomatch u
  · rintro ⟨y, h, rfl⟩
    exact h.bind _

theorem ended?_follows {l : List Stroke} {x y : Strand α} {e : Except String α}
    (h : Follows x l y) (hx : x.ended? = some e) : y.ended? = some e := by
  induction h with
  | refl => exact hx
  | turn _ t ih => exact ended?_turn t ih

/-- How a strand has ended is settled by its turns, also if it is followed further. -/
theorem ended?_unique {l l' r r' : List Stroke} {x y y' : Strand α} {e e' : Except String α}
    (hl : l ++ r = l' ++ r') (h : Follows x l y) (h' : Follows x l' y') (he : y.ended? = some e)
    (he' : y'.ended? = some e') : e = e' := by
  rcases List.append_eq_append_iff.mp hl with ⟨m, rfl, -⟩ | ⟨m, rfl, -⟩
  · obtain ⟨z, hz, hm⟩ := follows_append h'
    obtain rfl := follows_unique h hz
    exact Option.some.inj ((ended?_follows hm he).symm.trans he')
  · obtain ⟨z, hz, hm⟩ := follows_append h
    obtain rfl := follows_unique h' hz
    exact Option.some.inj (he.symm.trans (ended?_follows hm he'))

end

end Workflow

import Workflow.Proofs.Strand.Doings

/-!
# Flows that ask for the same

Two flows are alike if they ask for the same, one request after the other, wherever the steps stand
that ask; either may note its progress in between. However the one is answered, the other can be
answered so too, and they come to results that are related. So whatever turns the one takes, the
other takes turns in which the same is done, and where nothing is cancelled and those who answer do
not look at places, alike flows come to related results and do the same on every line.

## Main definitions

* `Workflow.Request.Alike`, `Workflow.Deed.Alike`, `Workflow.Stroke.Alike` — the same, wherever the
  step stands.
* `Workflow.Flow.Alike`, `Workflow.Strand.Alike` — flows and strands that do the same.
* `Workflow.SameTurns`, `Workflow.SameDeeds` — in both is done the same but for progress.
* `Workflow.Collaborators.IgnoresPlaces` — how all is answered does not depend on places.

## Main results

* `Workflow.Strand.Alike.follows` — alike strands can take the same turns.
* `Workflow.Flow.Alike.outcome`, `Workflow.Flow.Alike.doings` — alike flows come to related results
  and do the same on every line.
-/

namespace Workflow

variable {α β γ δ : Type}

/-! ### Requests -/

/-- An event that tells of a step, as it would tell of one at another place. -/
def Event.placed (place : EventPlace) : Event → Event
  | stepStarted run _ name kind => stepStarted run place name kind
  | stepCompleted run _ name v duration => stepCompleted run place name v duration
  | stepFailed run _ name error => stepFailed run place name error
  | retrying run _ attempt retries delay error => retrying run place attempt retries delay error
  | scriptLog run _ level message => scriptLog run place level message
  | e => e

/-- Two requests are the same but for where the step stands that they are made for. -/
inductive Request.Alike : Request → Request → Prop
  | refl (r : Request) : Alike r r
  | attempt (a : Attempt) (p p' : Location) :
      Alike (.attempt { a with location := p }) (.attempt { a with location := p' })
  | publish (e : Event) (p p' : EventPlace) :
      Alike (.publish (e.placed p)) (.publish (e.placed p'))
  | perform (call : ActionCall) (p p' : Location) :
      Alike (.perform { call with location := p }) (.perform { call with location := p' })
  | evaluate (script : ScriptRequest) (p p' : Location) :
      Alike (.evaluate { script with location := p }) (.evaluate { script with location := p' })

namespace Request.Alike

variable {r r' : Request}

theorem answer_eq (h : r.Alike r') : r.Answer = r'.Answer := by
  cases h <;> rfl

/-- An answer to the one request as an answer to the other. -/
def answer (h : r.Alike r') (a : r.Answer) : r'.Answer := cast h.answer_eq a

theorem symm (h : r.Alike r') : r'.Alike r := by
  cases h with
  | refl => exact .refl r
  | attempt a p p' => exact .attempt a p' p
  | publish e p p' => exact .publish e p' p
  | perform call p p' => exact .perform call p' p
  | evaluate script p p' => exact .evaluate script p' p

theorem answer_symm (h : r.Alike r') (a : r'.Answer) : h.answer (h.symm.answer a) = a := by
  cases h <;> rfl

/-- Requests that are alike may be answered alike, with the same effect on the control. -/
theorem answers (h : r.Alike r') {c c' : Control} {a : r.Answer} (ha : c.Answers r a c') :
    c.Answers r' (h.answer a) c' := by
  cases h <;> exact ha

theorem isLeftOpen (h : r.Alike r') (hr : r.IsLeftOpen) : r'.IsLeftOpen := by
  cases h <;> exact hr

theorem isOfHost (h : r.Alike r') (hr : r.IsOfHost) : r'.IsOfHost := by
  cases h <;> exact hr

end Request.Alike

/-! ### Deeds -/

/-- Two deeds are the same but for where the step stands that they are done for. -/
inductive Deed.Alike : Deed → Deed → Prop
  | answer {r r' : Request} (h : r.Alike r') (a : r.Answer) :
      Alike (.answer r a) (.answer r' (h.answer a))
  | crash (report : String) : Alike (.crash report) (.crash report)
  | fork : Alike .fork .fork
  | join : Alike .join .join
  | abandon : Alike .abandon .abandon
  | aside (k b : Nat) {d d' : Deed} (h : Alike d d') : Alike (.aside k b d) (.aside k b d')

/-- Progress is noted. -/
def Deed.isProgress : Deed → Bool
  | answer (.recordProgress ..) _ => true
  | aside _ _ d => d.isProgress
  | _ => false

namespace Deed

variable {d d' : Deed}

@[simp]
theorem isProgress_shift (d : Deed) : d.shift.isProgress = d.isProgress := by
  cases d <;> rfl

theorem isProgress_own (d : Deed) : d.own.isProgress = d.isProgress := by
  induction d with
  | aside _ _ _ ih => exact ih
  | _ => rfl

theorem Alike.own (h : d.Alike d') : d.own.Alike d'.own := by
  induction h with
  | answer h a => exact .answer h a
  | crash report => exact .crash report
  | fork => exact .fork
  | join => exact .join
  | abandon => exact .abandon
  | aside _ _ _ ih => exact ih

theorem Alike.symm (h : d.Alike d') : d'.Alike d := by
  induction h with
  | @answer r r' h a =>
    have hback : (Deed.answer r' (h.answer a)).Alike (.answer r (h.symm.answer (h.answer a))) :=
      .answer h.symm _
    rwa [h.symm.answer_symm] at hback
  | crash report => exact .crash report
  | fork => exact .fork
  | join => exact .join
  | abandon => exact .abandon
  | aside k b _ ih => exact .aside k b ih

theorem Alike.shift (h : d.Alike d') : d.shift.Alike d'.shift := by
  cases h with
  | answer h a => exact .answer h a
  | crash report => exact .crash report
  | fork => exact .fork
  | join => exact .join
  | abandon => exact .abandon
  | aside k b h => exact .aside (k + 1) b h

theorem Alike.isProgress_eq (h : d.Alike d') : d.isProgress = d'.isProgress := by
  induction h with
  | answer h a => cases h <;> rfl
  | aside _ _ _ ih => exact ih
  | _ => rfl

theorem Alike.named?_eq (h : d.Alike d') : d.named? = d'.named? := by
  induction h with
  | answer h a => cases h <;> rfl
  | aside _ _ _ ih => exact ih
  | _ => rfl

theorem Alike.line_eq (h : d.Alike d') : d.line = d'.line := by
  induction h with
  | aside k b _ ih => exact congrArg ((k, b) :: ·) ih
  | _ => rfl

end Deed

/-- In both is done the same in the same order, but for progress that is noted. -/
def SameDeeds (l l' : List Deed) : Prop :=
  List.Forall₂ Deed.Alike (l.filter fun d => !d.isProgress) (l'.filter fun d => !d.isProgress)

namespace SameDeeds

variable {l l' : List Deed} {d d' : Deed}

theorem cons (hd : d.Alike d') (h : SameDeeds l l') : SameDeeds (d :: l) (d' :: l') := by
  rw [SameDeeds, List.filter_cons, List.filter_cons, hd.isProgress_eq]
  split
  · exact .cons hd h
  · exact h

theorem cons_left (hd : d.isProgress = true) (h : SameDeeds l l') : SameDeeds (d :: l) l' := by
  rw [SameDeeds, List.filter_cons, hd]
  exact h

theorem symm (h : SameDeeds l l') : SameDeeds l' l :=
  (List.Forall₂.imp (fun _ _ => Deed.Alike.symm) h).flip

end SameDeeds

/-- On every line is done the same, but for progress that is noted. -/
def SameDoings (h h' : Doings) : Prop := ∀ line, SameDeeds (h line) (h' line)

namespace SameDoings

variable {h h' : Doings} {d d' : Deed}

theorem add (hd : d.Alike d') (hh : SameDoings h h') : SameDoings (h.add d) (h'.add d') := by
  intro line
  rcases eq_or_ne line d.line with rfl | hne
  · rw [Doings.add_line, hd.line_eq, Doings.add_line]
    exact .cons hd.own (hh _)
  · rw [Doings.add_of_ne _ hne, Doings.add_of_ne _ (hd.line_eq ▸ hne)]
    exact hh line

/-- Progress that is noted comes to nothing else. -/
theorem add_left (hd : d.isProgress = true) (hh : SameDoings h h') : SameDoings (h.add d) h' := by
  intro line
  rcases eq_or_ne line d.line with rfl | hne
  · rw [Doings.add_line]
    exact .cons_left (d.isProgress_own.trans hd) (hh _)
  · rw [Doings.add_of_ne _ hne]
    exact hh line

theorem symm (hh : SameDoings h h') : SameDoings h' h := fun line => (hh line).symm

theorem fork {n : Nat} {branch branch' : Fin n → Doings}
    (hbranch : ∀ b, SameDoings (branch b) (branch' b)) (hh : SameDoings h h') :
    SameDoings (.fork n branch h) (.fork n branch' h') := by
  rintro (_ | ⟨⟨_ | j, b⟩, line⟩)
  · exact hh []
  · by_cases hb : b < n
    · simpa only [Doings.fork, hb, dif_pos] using hbranch ⟨b, hb⟩ line
    · simp only [Doings.fork, hb, dif_neg, not_false_eq_true]
      exact List.Forall₂.nil
  · exact hh _

end SameDoings

/-- Two turns under the same control in which the same is done. -/
structure Stroke.Alike (s s' : Stroke) : Prop where
  time : s.time = s'.time
  control : s.control = s'.control
  deed : s.deed.Alike s'.deed

/-- In both the same turns are taken in the same order, but for those in which progress is noted. -/
def SameTurns (l l' : List Stroke) : Prop :=
  List.Forall₂ Stroke.Alike (l.filter fun s => !s.deed.isProgress)
    (l'.filter fun s => !s.deed.isProgress)

namespace SameTurns

variable {l l' m m' : List Stroke} {s s' : Stroke}

theorem nil : SameTurns [] [] := List.Forall₂.nil

theorem append (h : SameTurns l l') (h' : SameTurns m m') : SameTurns (l ++ m) (l' ++ m') := by
  rw [SameTurns, List.filter_append, List.filter_append]
  exact List.rel_append h h'

theorem single (h : s.Alike s') : SameTurns [s] [s'] := by
  rw [SameTurns, List.filter_singleton, List.filter_singleton, h.deed.isProgress_eq]
  cases s'.deed.isProgress with
  | true => exact .nil
  | false => exact .cons h .nil

/-- A turn in which progress is noted may be taken on its own. -/
theorem progress (hs : s.deed.isProgress = true) : SameTurns [s] [] := by
  rw [SameTurns, List.filter_singleton, hs]
  exact .nil

theorem symm (h : SameTurns l l') : SameTurns l' l :=
  List.Forall₂.flip (h.imp fun _ _ hs => ⟨hs.time.symm, hs.control.symm, hs.deed.symm⟩)

/-- The same turns are the same in a place that keeps what is done in them. -/
theorem map {f : Deed → Deed} (hf : ∀ d d', d.Alike d' → (f d).Alike (f d'))
    (hp : ∀ d, (f d).isProgress = d.isProgress) (h : SameTurns l l') :
    SameTurns (l.map fun s => { s with deed := f s.deed })
      (l'.map fun s => { s with deed := f s.deed }) := by
  have hfilter (l : List Stroke) : (l.map fun s => { s with deed := f s.deed }).filter
      (fun s => !s.deed.isProgress) =
        (l.filter fun s => !s.deed.isProgress).map fun s => { s with deed := f s.deed } := by
    rw [List.filter_map]
    simp only [Function.comp_def, hp]
  rw [SameTurns, hfilter, hfilter, List.forall₂_map_left_iff, List.forall₂_map_right_iff]
  exact h.imp fun _ _ hs => ⟨hs.time, hs.control, hf _ _ hs.deed⟩

end SameTurns

/-! ### Flows -/

/-- Two flows ask for the same, wherever their steps stand, and come to related results. Either may
note its progress before it asks for something. -/
inductive Flow.Alike : {α β : Type} → (α → β → Prop) → Flow α → Flow β → Prop
  | done {α β : Type} {R : α → β → Prop} {a : α} {b : β} (h : R a b) : Alike R (.done a) (.done b)
  | ask {α β : Type} {R : α → β → Prop} {r r' : Request} {next : r.Answer → Flow α}
      {next' : r'.Answer → Flow β} (h : r.Alike r')
      (hnext : ∀ a, Alike R (next a) (next' (h.answer a))) : Alike R (.ask r next) (.ask r' next')
  | fork {α β : Type} {R : α → β → Prop} {token : Token} {n : Nat}
      {branch branch' : Fin n → Flow BranchResult} {next : Option (List BranchEnd) → Flow α}
      {next' : Option (List BranchEnd) → Flow β} (hbranch : ∀ b, Alike Eq (branch b) (branch' b))
      (hnext : ∀ ends, Alike R (next ends) (next' ends)) :
      Alike R (.fork token n branch next) (.fork token n branch' next')
  | left {α β : Type} {R : α → β → Prop} {index : Nat} {env : Environment} {x : Unit → Flow α}
      {r : Request} {next : r.Answer → Flow β} (h : Alike R (x ()) (.ask r next)) :
      Alike R (.ask (.recordProgress index env) x) (.ask r next)
  | right {α β : Type} {R : α → β → Prop} {r : Request} {next : r.Answer → Flow α} {index : Nat}
      {env : Environment} {y : Unit → Flow β} (h : Alike R (.ask r next) (y ())) :
      Alike R (.ask r next) (.ask (.recordProgress index env) y)

namespace Flow.Alike

variable {R : α → β → Prop} {S : γ → δ → Prop}

theorem refl : {α : Type} → (x : Flow α) → x.Alike Eq x
  | _, .done _ => .done rfl
  | _, .ask r next => .ask (.refl r) fun a => refl (next a)
  | _, .fork _ _ branch next => .fork (fun b => refl (branch b)) fun ends => refl (next ends)

theorem symm {R' : β → α → Prop} (hR : ∀ a b, R a b → R' b a) {x : Flow α} {y : Flow β}
    (h : x.Alike R y) : y.Alike R' x := by
  induction h with
  | done h => exact .done (hR _ _ h)
  | @ask _ _ _ r r' next next' h _ ih =>
    refine .ask h.symm fun a => ?_
    have hnext := ih (h.symm.answer a) hR
    rwa [h.answer_symm] at hnext
  | fork _ _ ihbranch ihnext =>
    exact .fork (fun b => ihbranch b fun _ _ => Eq.symm) fun ends => ihnext ends hR
  | left _ ih => exact .right (ih hR)
  | right _ ih => exact .left (ih hR)

/-- Alike flows followed by alike flows are alike. -/
theorem bind {x : Flow α} {y : Flow β} {f : α → Flow γ} {g : β → Flow δ} (h : x.Alike R y)
    (hf : ∀ a b, R a b → (f a).Alike S (g b)) : (x.bind f).Alike S (y.bind g) := by
  induction h with
  | done h => exact hf _ _ h
  | ask h _ ih => exact .ask h fun a => ih a hf
  | fork hbranch _ _ ih => exact .fork hbranch fun ends => ih ends hf
  | left _ ih => exact .left (ih hf)
  | right _ ih => exact .right (ih hf)

end Flow.Alike

/-! ### Turns -/

/-- Two strands do the same, wherever their steps stand, and come to related results. -/
inductive Strand.Alike : {α β : Type} → (α → β → Prop) → Strand α → Strand β → Prop
  | line {α β : Type} {R : α → β → Prop} {x : Flow α} {y : Flow β} (h : x.Alike R y) :
      Alike R (.line x) (.line y)
  | crashed {α β : Type} {R : α → β → Prop} (report : String) :
      Alike R (.crashed report) (.crashed report)
  | joining {α β : Type} {R : α → β → Prop} {token : Token} {n : Nat}
      {branch branch' : Fin n → Strand BranchResult} {next : Option (List BranchEnd) → Flow α}
      {next' : Option (List BranchEnd) → Flow β} (hbranch : ∀ b, Alike Eq (branch b) (branch' b))
      (hnext : ∀ ends, (next ends).Alike R (next' ends)) :
      Alike R (.joining token n branch next) (.joining token n branch' next')
  | beside {α β : Type} {R : α → β → Prop} {n : Nat} {branch branch' : Fin n → Strand BranchResult}
      {rest : Strand α} {rest' : Strand β} (hbranch : ∀ b, Alike Eq (branch b) (branch' b))
      (hrest : Alike R rest rest') : Alike R (.beside n branch rest) (.beside n branch' rest')

/-- Two strands have ended in the same way, or neither has ended. -/
inductive EndsAlike (R : α → β → Prop) :
    Option (Except String α) → Option (Except String β) → Prop
  | goesOn : EndsAlike R none none
  | crashed (report : String) : EndsAlike R (some (.error report)) (some (.error report))
  | done {a : α} {b : β} (h : R a b) : EndsAlike R (some (.ok a)) (some (.ok b))

section Follows

variable {n : Nat} {x y : Strand BranchResult} {l : List Stroke}

/-- What a branch does in turns of its own it does while it is waited for. -/
theorem Follows.joining (h : Follows x l y) (token : Token) (branch : Fin n → Strand BranchResult)
    (next : Option (List BranchEnd) → Flow α) (b : Fin n) :
    Follows (.joining token n (Function.update branch b x) next)
      (l.map fun s => { s with deed := .aside 0 b s.deed })
      (.joining token n (Function.update branch b y) next) := by
  refine h.place (fun x => .joining token n (Function.update branch b x) next) (.aside 0 b) ?_
  intro c x d c' y t
  have hb : Turn c (Function.update branch b x b) d c' y := by rwa [Function.update_self]
  have hturn : Turn c (.joining token n (Function.update branch b x) next) _ c' _ := .branch hb
  rwa [Function.update_idem] at hturn

/-- What a branch does in turns of its own it does beside what goes on without it. -/
theorem Follows.drifts (h : Follows x l y) (branch : Fin n → Strand BranchResult) (rest : Strand α)
    (b : Fin n) :
    Follows (.beside n (Function.update branch b x) rest)
      (l.map fun s => { s with deed := .aside 0 b s.deed })
      (.beside n (Function.update branch b y) rest) := by
  refine h.place (fun x => .beside n (Function.update branch b x) rest) (.aside 0 b) ?_
  intro c x d c' y t
  have hb : Turn c (Function.update branch b x b) d c' y := by rwa [Function.update_self]
  have hturn : Turn c (.beside n (Function.update branch b x) rest) _ c' _ := .drift hb
  rwa [Function.update_idem] at hturn

/-- What a strand does in turns of its own it does beside branches. -/
theorem Follows.beside {rest rest' : Strand α} (h : Follows rest l rest')
    (branch : Fin n → Strand BranchResult) :
    Follows (.beside n branch rest) (l.map fun s => { s with deed := s.deed.shift })
      (.beside n branch rest') :=
  h.place (.beside n branch) Deed.shift .rest

end Follows

namespace Strand.Alike

variable {R : α → β → Prop} {x : Strand α} {y : Strand β} {c c' : Control} {d : Deed}

theorem symm {R' : β → α → Prop} (hR : ∀ a b, R a b → R' b a) (h : x.Alike R y) :
    y.Alike R' x := by
  induction h with
  | line h => exact .line (h.symm hR)
  | crashed report => exact .crashed report
  | joining _ hnext ih =>
    exact .joining (fun b => ih b fun _ _ => Eq.symm) fun ends => (hnext ends).symm hR
  | beside _ _ ihbranch ihrest =>
    exact .beside (fun b => ihbranch b fun _ _ => Eq.symm) (ihrest hR)

theorem ended (h : x.Alike R y) : EndsAlike R x.ended? y.ended? := by
  induction h with
  | line h =>
    cases h with
    | done h => exact .done h
    | _ => exact .goesOn
  | crashed report => exact .crashed report
  | joining => exact .goesOn
  | beside _ _ _ ih => exact ih

theorem ended_eq {x y : Strand α} (h : x.Alike Eq y) : x.ended? = y.ended? := by
  have hends := h.ended
  generalize x.ended? = e at hends
  generalize y.ended? = e' at hends
  cases hends with
  | goesOn => rfl
  | crashed report => rfl
  | done h => rw [h]

/-- A branch among the others, after it has taken turns that are the same. -/
theorem update {n : Nat} {branch branch' : Fin n → Strand BranchResult} {b : Fin n}
    {x y : Strand BranchResult} (hbranch : ∀ b, (branch b).Alike Eq (branch' b))
    (h : x.Alike Eq y) (i : Fin n) :
    (Function.update branch b x i).Alike Eq (Function.update branch' b y i) := by
  rcases eq_or_ne i b with rfl | hi
  · rwa [Function.update_self, Function.update_self]
  · rw [Function.update_of_ne hi, Function.update_of_ne hi]
    exact hbranch i

/-- What the one flow does in a turn the other does in turns in which else it only notes its
progress. -/
theorem turn_line {x : Flow α} {y : Flow β} {x' : Strand α} (h : x.Alike R y)
    (t : Turn c (.line x) d c' x') (time : Nat) :
    ∃ l y', Follows (.line y) l y' ∧ SameTurns [⟨time, c, d⟩] l ∧ x'.Alike R y' := by
  induction h generalizing c' with
  | done => exact nomatch t
  | ask h hnext =>
    cases t with
    | @answer _ _ _ _ a _ ha =>
      refine ⟨[⟨time, c, .answer _ (h.answer a)⟩], _, .head (.answer (h.answers ha)) (.refl _),
        .single ⟨rfl, rfl, .answer h a⟩, .line (hnext a)⟩
    | crash hhost report =>
      exact ⟨[⟨time, c, .crash report⟩], _, .head (.crash (h.isOfHost hhost) report) (.refl _),
        .single ⟨rfl, rfl, .crash report⟩, .crashed report⟩
  | fork hbranch hnext =>
    cases t with
    | fork =>
      exact ⟨[⟨time, c, .fork⟩], _, .head .fork (.refl _), .single ⟨rfl, rfl, .fork⟩,
        .joining (fun b => .line (hbranch b)) hnext⟩
  | left h =>
    cases t with
    | answer => exact ⟨[], _, .refl _, .progress rfl, .line h⟩
    | crash hhost => exact hhost.elim
  | @right _ _ _ r next index env y h ih =>
    obtain ⟨l, y', hl, hsame, hy⟩ := ih t
    have hnote : Turn c (.line (.ask (.recordProgress index env) y))
        (.answer (.recordProgress index env) ()) (c.recordProgress index env) (.line (y ())) :=
      .answer rfl
    refine ⟨⟨time, c, .answer (.recordProgress index env) ()⟩ :: l, y', .head hnote hl, ?_, hy⟩
    exact SameTurns.append (SameTurns.progress rfl).symm hsame

/-- What the one strand does in a turn the other does in turns in which else it only notes its
progress. -/
theorem turn {x' : Strand α} (t : Turn c x d c' x') (h : x.Alike R y) (time : Nat) :
    ∃ l y', Follows y l y' ∧ SameTurns [⟨time, c, d⟩] l ∧ x'.Alike R y' := by
  induction t generalizing β with
  | answer ha =>
    cases h with
    | line h => exact turn_line h (.answer ha) time
  | crash hhost report =>
    cases h with
    | line h => exact turn_line h (.crash hhost report) time
  | fork =>
    cases h with
    | line h => exact turn_line h .fork time
  | @branch _ _ _ token n branch next b d z _ ih =>
    cases h with
    | @joining _ _ _ _ _ _ branch' _ next' hbranch hnext =>
      obtain ⟨l, z', hl, hsame, hz⟩ := ih (hbranch b)
      have hturns := hl.joining token branch' next' b
      rw [Function.update_eq_self] at hturns
      exact ⟨_, _, hturns, hsame.map (fun _ _ hd => .aside 0 b hd) fun _ => rfl,
        .joining (update hbranch hz) hnext⟩
  | @join _ _ token n branch next ends he =>
    cases h with
    | joining hbranch hnext =>
      have he' : ∀ b, _ = some (ends b) := fun b => (hbranch b).ended_eq.symm.trans (he b)
      exact ⟨[⟨time, _, .join⟩], _, .head (.join he') (.refl _), .single ⟨rfl, rfl, .join⟩,
        .beside hbranch (.line (hnext _))⟩
  | abandon hcancel =>
    cases h with
    | joining hbranch hnext =>
      exact ⟨[⟨time, _, .abandon⟩], _, .head (.abandon hcancel) (.refl _),
        .single ⟨rfl, rfl, .abandon⟩, .beside hbranch (.line (hnext none))⟩
  | @drift _ _ _ n branch rest b d z _ ih =>
    cases h with
    | @beside _ _ _ _ _ branch' _ rest' hbranch hrest =>
      obtain ⟨l, z', hl, hsame, hz⟩ := ih (hbranch b)
      have hturns := hl.drifts branch' rest' b
      rw [Function.update_eq_self] at hturns
      exact ⟨_, _, hturns, hsame.map (fun _ _ hd => .aside 0 b hd) fun _ => rfl,
        .beside (update hbranch hz) hrest⟩
  | rest _ ih =>
    cases h with
    | beside hbranch hrest =>
      obtain ⟨l, rest', hl, hsame, hz⟩ := ih hrest
      exact ⟨_, _, hl.beside _, hsame.map (fun _ _ hd => hd.shift) Deed.isProgress_shift,
        .beside hbranch hz⟩

/-- Whatever turns the one strand takes, the other can take the same ones, but for those in which
progress is noted; they stay alike. -/
theorem follows {l : List Stroke} {x' : Strand α} (hl : Follows x l x') (h : x.Alike R y) :
    ∃ l' y', Follows y l' y' ∧ SameTurns l l' ∧ x'.Alike R y' := by
  induction hl with
  | refl => exact ⟨[], y, .refl y, .nil, h⟩
  | @turn _ _ _ s _ _ t ih =>
    obtain ⟨l', y', hl', hsame, hy⟩ := ih
    obtain ⟨m, z, hm, hsame', hz⟩ := turn t hy s.time
    exact ⟨l' ++ m, z, hl'.trans hm, hsame.append hsame', hz⟩

end Strand.Alike

/-! ### Collaborators that do not look at places -/

theorem Deed.Alike.names_after {d d' : Deed} (h : d.Alike d') (names : Names) :
    names.after d = names.after d' := by
  rw [Names.after, Names.after, h.named?_eq, h.line_eq]

/-- How the host performs an action and the evaluator runs a script does not depend on where the
step stands. -/
structure Collaborators.IgnoresPlaces (w : Collaborators) : Prop where
  perform : ∀ (call : ActionCall) (p : Location),
    w.perform { call with location := p } = w.perform call
  evaluate : ∀ (script : ScriptRequest) (p : Location),
    w.evaluate { script with location := p } = w.evaluate script

section Outcomes

variable {w : Collaborators} (hw : w.IgnoresPlaces) {R : α → β → Prop}

include hw

theorem Request.Alike.answer_answer {r r' : Request} (h : r.Alike r') (name : RunId) :
    w.answer name r' = h.answer (w.answer name r) := by
  cases h with
  | perform call p p' => exact (hw.perform call p').trans (hw.perform call p).symm
  | evaluate script p p' => exact (hw.evaluate script p').trans (hw.evaluate script p).symm
  | _ => rfl

/-- Who answers one deed answers one that is the same for a step at another place. -/
theorem Deed.Alike.serve {d d' : Deed} (h : d.Alike d') {names : Names} (hd : w.Serve names d) :
    w.Serve names d' := by
  induction h generalizing names with
  | answer h a =>
    intro hopen
    rw [h.answer_answer hw, ← hd (h.symm.isLeftOpen hopen)]
  | aside _ _ _ ih => exact ih hd
  | crash => exact hd
  | _ => trivial

/-- Flows that are alike come to related results, and leave the same identifiers to be given. -/
theorem Flow.Alike.outcome {x : Flow α} {y : Flow β} (h : x.Alike R y) (names : Names) :
    R (x.outcome w names).1 (y.outcome w names).1 ∧
      (x.outcome w names).2 = (y.outcome w names).2 := by
  induction h generalizing names with
  | done h => exact ⟨h, rfl⟩
  | @ask _ _ _ r r' next next' h _ ih =>
    have hnames : names.after (.answer r (w.answer (names [] 0) r)) = _ :=
      Deed.Alike.names_after (.answer h _) names
    rw [Flow.outcome, Flow.outcome, h.answer_answer hw, hnames]
    exact ih _ _
  | fork _ _ ihbranch ihnext =>
    simp only [Flow.outcome, (ihbranch _ _).1]
    exact ihnext _ _
  | left _ ih => exact ih names
  | right _ ih => exact ih names

/-- Flows that are alike do the same on every line. -/
theorem Flow.Alike.doings {x : Flow α} {y : Flow β} (h : x.Alike R y) (names : Names) :
    SameDoings (x.doings w names) (y.doings w names) := by
  induction h generalizing names with
  | done => exact fun _ => List.Forall₂.nil
  | @ask _ _ _ r r' next next' h _ ih =>
    have hnames : names.after (.answer r (w.answer (names [] 0) r)) = _ :=
      Deed.Alike.names_after (.answer h _) names
    rw [Flow.doings, Flow.doings, h.answer_answer hw, hnames]
    exact (ih _ _).add (.answer h _)
  | fork hbranch _ ihbranch ihnext =>
    simp only [Flow.doings, ((hbranch _).outcome hw _).1]
    exact (SameDoings.fork (fun b => ihbranch b _) ((ihnext _ _).add .join)).add .fork
  | left _ ih => exact (ih names).add_left rfl
  | right _ ih => exact ((ih names).symm.add_left rfl).symm

end Outcomes

/-! ### Who answers turns answers the same ones -/

section Serve

variable {w : Collaborators} {names : Names} {l l' : List Stroke}

theorem Deed.named?_of_isProgress : {d : Deed} → d.isProgress = true → d.named? = none
  | .answer (.recordProgress ..) _, _ => rfl
  | .aside _ _ d, h => named?_of_isProgress (d := d) h

theorem Collaborators.serve_of_isProgress : {d : Deed} → {names : Names} → d.isProgress = true →
    w.Serve names d
  | .answer (.recordProgress ..) _, _, _ => fun hopen => hopen.elim
  | .aside _ _ d, _, h => serve_of_isProgress (d := d) h

theorem Collaborators.serveAll_cons {s : Stroke} :
    w.ServeAll names (s :: l) ↔ w.Serve names s.deed ∧ w.ServeAll (names.after s.deed) l := by
  constructor
  · intro h
    obtain ⟨hfirst, hrest⟩ := ServeAll.of_append (l := [s]) h
    exact ⟨hfirst [] s [] rfl, hrest⟩
  · rintro ⟨hs, h⟩ (_ | ⟨s', l₁⟩) s'' l₂ heq
    · obtain ⟨rfl, -⟩ := List.cons.inj heq
      exact hs
    · obtain ⟨rfl, hl⟩ := List.cons.inj heq
      exact h l₁ s'' l₂ hl

/-- Whether turns are answered does not depend on those in which progress is noted. -/
theorem Collaborators.serveAll_filter (l : List Stroke) :
    w.ServeAll names (l.filter fun s => !s.deed.isProgress) ↔ w.ServeAll names l := by
  induction l generalizing names with
  | nil => rfl
  | cons s l ih =>
    rw [List.filter_cons, serveAll_cons]
    cases hs : s.deed.isProgress with
    | true =>
      rw [Names.after_of_not_named (Deed.named?_of_isProgress hs)]
      simpa [serve_of_isProgress hs] using ih
    | false => simpa [serveAll_cons] using fun _ => ih

/-- Who answers all turns answers those that are the same, if places are not looked at. -/
theorem SameTurns.serveAll (hw : w.IgnoresPlaces) (h : SameTurns l l')
    (hl : w.ServeAll names l) : w.ServeAll names l' := by
  rw [← Collaborators.serveAll_filter] at hl ⊢
  rw [SameTurns] at h
  generalize l.filter _ = m at h hl
  generalize l'.filter _ = m' at h ⊢
  induction h generalizing names with
  | nil => exact hl
  | @cons s s' m m' hs _ ih =>
    obtain ⟨hfirst, hrest⟩ := Collaborators.serveAll_cons.mp hl
    refine Collaborators.serveAll_cons.mpr ⟨hs.deed.serve hw hfirst, ?_⟩
    rw [← hs.deed.names_after]
    exact ih hrest

end Serve

end Workflow

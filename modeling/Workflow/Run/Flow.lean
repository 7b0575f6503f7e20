import Workflow.Run.Request

/-!
# Flows

A flow is a run as a tree: it is done, or it asks for something and goes on with the answer, or it
forks into branches and goes on when all of them have ended or the run was cancelled. Every path
through the tree is finite, so a run that is answered always comes to an end.

## Main definitions

* `Workflow.Flow` — the trees, a monad.
* `Workflow.BranchEnd` — how a branch has ended.
-/

namespace Workflow

/-- What a branch comes to: the results of its steps, or the failure that ended it. -/
abbrev BranchResult := Except StepError (List Value)

/-- How a branch has ended. -/
inductive BranchEnd where
  | finished (r : BranchResult)
  /-- The host has crashed in the branch. -/
  | crashed (report : String)

/-- A run with a result of a type. -/
inductive Flow : Type → Type 1 where
  | done {α : Type} (a : α) : Flow α
  | ask {α : Type} (r : Request) (next : r.Answer → Flow α) : Flow α
  /-- Branches side by side; what follows is given how they ended, in their order, or nothing when
  the token was cancelled first. -/
  | fork {α : Type} (token : Token) (n : Nat) (branch : Fin n → Flow BranchResult)
      (next : Option (List BranchEnd) → Flow α) : Flow α

namespace Flow

variable {α β γ : Type}

/-- A flow followed by another. -/
def bind : Flow α → (α → Flow β) → Flow β
  | done a, f => f a
  | ask r next, f => ask r fun a => (next a).bind f
  | fork t n branch next, f => fork t n branch fun ends => (next ends).bind f

instance : Monad Flow where
  pure := done
  bind := bind

/-- A single request. -/
def request (r : Request) : Flow r.Answer := ask r done

@[simp] theorem pure_eq (a : α) : (pure a : Flow α) = done a := rfl

@[simp] theorem bind_eq (x : Flow α) (f : α → Flow β) : x >>= f = x.bind f := rfl

@[simp] theorem done_bind (a : α) (f : α → Flow β) : (done a).bind f = f a := rfl

/-- A flow followed by nothing is itself. -/
@[simp] theorem bind_done (x : Flow α) : x.bind done = x := by
  induction x with
  | done a => rfl
  | ask r next ih => simp only [bind, ih]
  | fork t n branch next _ ih => simp only [bind, ih]

/-- Flows one after another may be grouped either way. -/
theorem bind_assoc (x : Flow α) (f : α → Flow β) (g : β → Flow γ) :
    (x.bind f).bind g = x.bind fun a => (f a).bind g := by
  induction x with
  | done a => rfl
  | ask r next ih => simp only [bind, ih]
  | fork t n branch next _ ih => simp only [bind, ih]

instance : LawfulMonad Flow :=
  LawfulMonad.mk' Flow (fun x => bind_done x) (fun a f => done_bind a f)
    (fun x f g => bind_assoc x f g)

end Flow

end Workflow

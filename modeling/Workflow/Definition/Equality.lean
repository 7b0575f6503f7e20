import Workflow.Definition.Basic
import Workflow.Expression.Evaluation

/-!
# Equality of definitions

Two definitions are the same when all their fields are. Integers and floating-point numbers are
apart, floating-point numbers are compared as numbers, and records ignore the order of their keys.

## Main definitions

* `Workflow.Value.same`, `Workflow.Step.same`, `Workflow.Definition.same`.
-/

namespace Workflow

namespace Value

mutual

/-- Values are the same. -/
def same : Value → Value → Bool
  | null, null => true
  | bool a, bool b => a == b
  | int a, int b => a == b
  | float a, float b => a == b
  | text a, text b => a == b
  | handle a, handle b => a == b
  | list a, list b => sameItems a b
  | record a, record b => a.length == b.length && sameFields a b
  | _, _ => false

/-- Lists are the same item by item. -/
def sameItems : List Value → List Value → Bool
  | [], [] => true
  | a :: as, b :: bs => same a b && sameItems as bs
  | _, _ => false

/-- Every field of the first record is in the second with the same value. -/
def sameFields : List (String × Value) → List (String × Value) → Bool
  | [], _ => true
  | (k, a) :: rest, b =>
    (match Bindings.get? b k with
      | some v => same a v
      | none => false) && sameFields rest b

end

end Value

/-- Values that may be missing are the same. -/
def sameOption {α : Type} (f : α → α → Bool) : Option α → Option α → Bool
  | some a, some b => f a b
  | none, none => true
  | _, _ => false

/-- Conditions are the same. -/
def Condition.same : Condition → Condition → Bool
  | literal a, literal b => a == b
  | text a, text b => a == b
  | comparison l o r, comparison l' o' r' => l.same l' && o == o' && r.same r'
  | _, _ => false

/-- Loops repeat in the same way. -/
def LoopSpec.same (a b : LoopSpec) : Bool :=
  a.kind == b.kind && sameOption Value.same a.items b.items &&
    sameOption Condition.same a.condition b.condition && sameOption Value.same a.times b.times &&
    a.itemVariable == b.itemVariable && a.maxIterations == b.maxIterations

/-- Maps are the same. -/
def sameVariables (a b : Bindings Value) : Bool := a.length == b.length && Value.sameFields a b

namespace Step

mutual

/-- Steps are the same. -/
def same : Step → Step → Bool
  | action i p, action i' p' => i == i' && p.same p'
  | condition i t a b, condition i' t' a' b' =>
    i == i' && t.same t' && sameItems a a' && sameItems b b'
  | loop i s b, loop i' s' b' => i == i' && s.same s' && sameItems b b'
  | wait i d, wait i' d' => i == i' && d.same d'
  | parallel i bs, parallel i' bs' => i == i' && sameBranches bs bs'
  | subWorkflow i w v, subWorkflow i' w' v' => i == i' && w.same w' && sameVariables v v'
  | script i s t, script i' s' t' => i == i' && s == s' && t == t'
  | _, _ => false

/-- Lists of steps are the same step by step. -/
def sameItems : List Step → List Step → Bool
  | [], [] => true
  | a :: as, b :: bs => same a b && sameItems as bs
  | _, _ => false

/-- Branches are the same list by list. -/
def sameBranches : List (List Step) → List (List Step) → Bool
  | [], [] => true
  | a :: as, b :: bs => sameItems a b && sameBranches as bs
  | _, _ => false

end

end Step

/-- Definitions are the same. -/
def Definition.same (a b : Definition) : Bool :=
  a.id == b.id && a.name == b.name && a.description == b.description && a.version == b.version &&
    sameVariables a.vars b.vars && Step.sameItems a.steps b.steps &&
    a.onError == b.onError && Json.sameItems a.triggers b.triggers &&
    a.createdAt == b.createdAt && a.updatedAt == b.updatedAt

end Workflow

import Workflow.Comparison
import Workflow.Expression.Evaluation
import Workflow.Template

/-!
# Conditions

What a condition step and a *while* loop test: a literal, a text, or a comparison of two values. A
text that names a variable or a dotted path tests its value, and so does a text that is one
placeholder; any other text is an expression, whose placeholders are passed as variables of the
context under generated names.

## Main definitions

* `Workflow.Condition` — the conditions of a document.
* `Workflow.Condition.evaluate` — the outcome of a condition in an environment.
-/

namespace Workflow

/-- A condition of a document. -/
inductive Condition where
  | literal (b : Bool)
  | text (s : String)
  | comparison (left : Value) (operator : String) (right : Value)
deriving Inhabited

/-- Why a condition has no outcome. -/
inductive ConditionError where
  | comparison (e : ComparisonError)
  | expression (s : String) (e : ExpressionError)

/-- The text of a condition error, without the words that introduce it. -/
def ConditionError.detail : ConditionError → String
  | comparison e => e.message
  | expression s e => s ++ ": " ++ e.message

/-- The text of a condition error. -/
def ConditionError.message (e : ConditionError) : String := "invalid expression: " ++ e.detail

namespace Condition

/-- A character that may begin the name of a variable. -/
def isHead (c : Char) : Bool := c.isAlpha || c = '_' || c = '$'

/-- A character that may continue a name. -/
def isTail (c : Char) : Bool := c.isAlphanum || c = '_' || c = '$'

/-- The text is a name, or names between dots of which only the first must begin as a name does. -/
def isPath (s : String) : Bool :=
  match (Text.pieces s ".").map String.toList with
  | [] => false
  | head :: rest =>
    head.head?.any isHead && head.all isTail && rest.all fun p => !p.isEmpty && p.all isTail

/-- The variables of an environment with the generated names of an expression written over them. -/
def boundContext (env : Environment) (bindings : Bindings Value) : Json :=
  .object (Bindings.setAll (Value.toFields env.vars) (Value.toFields bindings))

/-- The outcome of a text. -/
def evaluateText (s : String) (env : Environment) : Except ConditionError Bool :=
  let s := Text.trim s
  if s = "" ∨ s = "false" ∨ s = "null" then .ok false
  else if s = "true" then .ok true
  else
    match Template.sole? s with
    | some name => .ok ((env.lookup? name).any Value.truthy)
    | none =>
      if isPath s then .ok ((env.lookup? s).any Value.truthy)
      else
        let (expression, bindings) := Template.bind s env
        match Expression.holdsIn (boundContext env bindings) expression with
        | .ok b => .ok b
        | .error e => .error (.expression s e)

/-- The outcome of a condition in an environment. -/
def evaluate (env : Environment) : Condition → Except ConditionError Bool
  | literal b => .ok b
  | text s => evaluateText s env
  | comparison left operator right =>
    match compare (Template.resolve left env) operator (Template.resolve right env) with
    | .ok b => .ok b
    | .error e => .error (.comparison e)

end Condition

end Workflow

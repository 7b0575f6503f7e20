import Workflow.Script.Fault
import Workflow.Script.Tree

/-!
# Variables from outside

The variables that a part of a script uses without defining them, each where it is used. They are
what a closure takes along from the place where it stands. A name that is only called is no variable
here, and what a function is called on belongs to its call.

## Main definitions

* `Workflow.Script.Expr.outside`, `Workflow.Script.Stmt.outside` — the variables from outside.
* `Workflow.Script.takenAlong` — the variables that a closure takes along.
-/

namespace Workflow.Script

/-- The names that a statement defines for the statements behind it. -/
def Stmt.defined : Stmt → List String
  | .define name _ _ _ => [name]
  | _ => []

/-- The variables among used names that are not known. -/
def unknownOf (known : List String) (used : List (String × Spot)) : List (String × Spot) :=
  used.filter fun (name, _) => !known.contains name

mutual

/-- The variables that an expression uses, without those that are known. -/
def Expr.outside (known : List String) : Expr → List (String × Spot)
  | .constant _ _ => []
  | .variable name spot => unknownOf known [(name, spot)]
  | .this _ => []
  | .foreign _ _ args _ =>
    match args with
    | some args => exprsOutside known args
    | none => []
  | .template parts _ => exprsOutside known parts
  | .arrayOf items _ => exprsOutside known items
  | .mapOf fields _ => fieldsOutside known fields
  | .both operands _ => exprsOutside known operands
  | .either operands _ => exprsOutside known operands
  | .coalesce operands _ => exprsOutside known operands
  | .binary _ a b _ => a.outside known ++ b.outside known
  | .unary _ a _ => a.outside known
  | .call _ _ args _ => exprsOutside known args
  | .chain root links => root.outside known ++ linksOutside known links
  | .closure _ captured _ => unknownOf known captured
  | .perform body _ => stmtsOutside known body

/-- The variables that expressions use. -/
def exprsOutside (known : List String) : List Expr → List (String × Spot)
  | [] => []
  | e :: rest => e.outside known ++ exprsOutside known rest

/-- The variables that the values of fields use. -/
def fieldsOutside (known : List String) : List (String × Expr) → List (String × Spot)
  | [] => []
  | (_, e) :: rest => e.outside known ++ fieldsOutside known rest

/-- The variables that links use. -/
def linksOutside (known : List String) : List Link → List (String × Spot)
  | [] => []
  | .property _ _ :: rest => linksOutside known rest
  | .item index _ :: rest => index.outside known ++ linksOutside known rest
  | .method _ args _ :: rest => exprsOutside known args ++ linksOutside known rest

/-- The variables that an expression uses, if there is one. -/
def optionOutside (known : List String) : Option Expr → List (String × Spot)
  | none => []
  | some e => e.outside known

/-- The variables that a statement uses, without those that are known. -/
def Stmt.outside (known : List String) : Stmt → List (String × Spot)
  | .nothing _ => []
  | .expression e => e.outside known
  | .action e => e.outside known
  | .define _ _ value _ => value.outside known
  | .assign t _ value _ => t.outside known ++ value.outside known
  | .block body _ => stmtsOutside known body
  | .branch test yes no _ =>
    test.outside known ++ stmtsOutside known yes ++ stmtsOutside known no
  | .choose subject cases otherwise _ =>
    subject.outside known ++ casesOutside known cases ++ optionOutside known otherwise
  | .whileLoop test body _ => test.outside known ++ stmtsOutside known body
  | .endless body _ => stmtsOutside known body
  | .doLoop body test _ _ => stmtsOutside known body ++ test.outside known
  | .forLoop name counter source body _ =>
    source.outside known ++ stmtsOutside (name :: counter.toList ++ known) body
  | .breakOut value _ => optionOutside known value
  | .continueOn _ => []
  | .returnWith value _ => optionOutside known value
  | .throwWith value _ => optionOutside known value
  | .tryCatch body name handler _ =>
    stmtsOutside known body ++ stmtsOutside (name.toList ++ known) handler
  | .importModule path _ => path.outside known
  | .exportName _ _ => []

/-- The variables that statements use; a statement knows what those before it define. -/
def stmtsOutside (known : List String) : List Stmt → List (String × Spot)
  | [] => []
  | s :: rest => s.outside known ++ stmtsOutside (s.defined ++ known) rest

/-- The variables that the cases of a choice use. -/
def casesOutside (known : List String) : List Case → List (String × Spot)
  | [] => []
  | .mk _ _ guard body :: rest =>
    optionOutside known guard ++ body.outside known ++ casesOutside known rest

end

/-- The entries of a list of which none before has the same name. -/
def firstOfName : List (String × Spot) → List (String × Spot)
  | [] => []
  | e :: rest => e :: (firstOfName rest).filter fun f => f.1 != e.1

/-- The variables that a closure with parameters takes along, each once. -/
def takenAlong (parameters : List String) (body : List Stmt) : List (String × Spot) :=
  firstOfName (stmtsOutside parameters body)

end Workflow.Script

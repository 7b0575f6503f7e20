import Workflow.Script.Datum
import Workflow.Script.Token

/-!
# Trees of scripts

The expressions, statements and functions that a script consists of, each with its place in the
script. What stands behind an operand is a chain of links: properties, items and methods.

An expression that stands as a statement is either evaluated, or performed: a call or an operator is
performed when its operation counts as that of its statement.

## Main definitions

* `Workflow.Script.BinaryOp`, `Workflow.Script.UnaryOp` — the operators.
* `Workflow.Script.Expr`, `Workflow.Script.Link`, `Workflow.Script.Stmt` — expressions, links and
  statements.
* `Workflow.Script.FunctionDef`, `Workflow.Script.Code` — functions and whole scripts.
-/

namespace Workflow.Script

/-- An operator with two operands. -/
inductive BinaryOp where
  | add
  | subtract
  | multiply
  | divide
  | remainder
  | power
  | shiftLeft
  | shiftRight
  | bitAnd
  | bitOr
  | bitXor
  | equal
  | notEqual
  | less
  | lessEqual
  | greater
  | greaterEqual
  | range
  | rangeInclusive
deriving DecidableEq, Repr

/-- The symbol of an operator. -/
def BinaryOp.symbol : BinaryOp → String
  | add => "+"
  | subtract => "-"
  | multiply => "*"
  | divide => "/"
  | remainder => "%"
  | power => "**"
  | shiftLeft => "<<"
  | shiftRight => ">>"
  | bitAnd => "&"
  | bitOr => "|"
  | bitXor => "^"
  | equal => "=="
  | notEqual => "!="
  | less => "<"
  | lessEqual => "<="
  | greater => ">"
  | greaterEqual => ">="
  | range => ".."
  | rangeInclusive => "..="

/-- All operators with two operands. -/
def BinaryOp.all : List BinaryOp :=
  [add, subtract, multiply, divide, remainder, power, shiftLeft, shiftRight, bitAnd, bitOr, bitXor,
   equal, notEqual, less, lessEqual, greater, greaterEqual, range, rangeInclusive]

/-- The operator of a symbol. -/
def BinaryOp.ofSymbol? (s : String) : Option BinaryOp := all.find? (·.symbol == s)

/-- The operator has an assignment of its own. -/
def BinaryOp.isAssignable : BinaryOp → Bool
  | equal => false
  | notEqual => false
  | less => false
  | lessEqual => false
  | greater => false
  | greaterEqual => false
  | range => false
  | rangeInclusive => false
  | _ => true

/-- An operator with one operand. -/
inductive UnaryOp where
  | minus
  | plus
  | not
deriving DecidableEq, Repr

/-- The symbol of an operator. -/
def UnaryOp.symbol : UnaryOp → String
  | minus => "-"
  | plus => "+"
  | not => "!"

/-- How a function is called by its name. -/
inductive CallStyle where
  | ordinary
  /-- The function sees the variables of the place where it is called. -/
  | withScope
  /-- Only a function that is there from the beginning will do. -/
  | builtin
deriving DecidableEq, Repr

/-- Where a link stands: the place of the point or the bracket, and that of what is behind it. -/
structure Joint where
  /-- Nothing comes of what stands behind nothing. -/
  lenient : Bool
  mark : Spot
  spot : Spot
deriving Inhabited

mutual

/-- An expression. -/
inductive Expr where
  | constant (d : Datum) (spot : Spot)
  | variable (name : String) (spot : Spot)
  /-- What a function is called on. -/
  | this (spot : Spot)
  /-- A variable of a module, or a function of it with its arguments. -/
  | foreign (path : List String) (name : String) (arguments : Option (List Expr)) (spot : Spot)
  /-- A text put together from the texts of its parts. -/
  | template (parts : List Expr) (spot : Spot)
  | arrayOf (items : List Expr) (spot : Spot)
  | mapOf (fields : List (String × Expr)) (spot : Spot)
  | both (operands : List Expr) (spot : Spot)
  | either (operands : List Expr) (spot : Spot)
  /-- The first operand that is not nothing. -/
  | coalesce (operands : List Expr) (spot : Spot)
  | binary (op : BinaryOp) (left right : Expr) (spot : Spot)
  | unary (op : UnaryOp) (operand : Expr) (spot : Spot)
  | call (name : String) (style : CallStyle) (arguments : List Expr) (spot : Spot)
  | chain (root : Expr) (links : List Link)
  /-- A function that takes variables along. -/
  | closure (name : String) (captured : List (String × Spot)) (spot : Spot)
  | perform (body : List Stmt) (spot : Spot)

/-- A link of a chain. -/
inductive Link where
  | property (name : String) (joint : Joint)
  | item (index : Expr) (joint : Joint)
  | method (name : String) (arguments : List Expr) (joint : Joint)

/-- A case of a choice: it fits data that are the same as one of its own, and numbers in one of its
ranges, under a condition. -/
inductive Case where
  | mk (data : List Datum) (ranges : List (Int64 × Int64 × Bool)) (guard : Option Expr)
      (body : Expr)

/-- A statement. -/
inductive Stmt where
  | nothing (spot : Spot)
  | expression (e : Expr)
  /-- A call or an operator that stands for itself. -/
  | action (e : Expr)
  | define (name : String) (isConstant : Bool) (value : Expr) (spot : Spot)
  /-- Assigns a value, or the outcome of an operator on the value before and a value. -/
  | assign (target : Expr) (operator : Option BinaryOp) (value : Expr) (spot : Spot)
  | block (body : List Stmt) (spot : Spot)
  | branch (test : Expr) (whenTrue whenFalse : List Stmt) (spot : Spot)
  | choose (subject : Expr) (cases : List Case) (otherwise : Option Expr) (spot : Spot)
  | whileLoop (test : Expr) (body : List Stmt) (spot : Spot)
  /-- Repeats without end. -/
  | endless (body : List Stmt) (spot : Spot)
  /-- Repeats as long as a test has an outcome, tested behind the body. -/
  | doLoop (body : List Stmt) (test : Expr) (outcome : Bool) (spot : Spot)
  | forLoop (name : String) (counter : Option String) (source : Expr) (body : List Stmt)
      (spot : Spot)
  | breakOut (value : Option Expr) (spot : Spot)
  | continueOn (spot : Spot)
  | returnWith (value : Option Expr) (spot : Spot)
  | throwWith (value : Option Expr) (spot : Spot)
  | tryCatch (body : List Stmt) (name : Option String) (handler : List Stmt) (spot : Spot)
  | importModule (path : Expr) (spot : Spot)
  | exportName (name : String) (spot : Spot)

end

instance : Inhabited Expr := ⟨.constant .unit default⟩

instance : Inhabited Stmt := ⟨.nothing default⟩

instance : Inhabited Case := ⟨.mk [] [] none default⟩

/-- The place of a link. -/
def Link.joint : Link → Joint
  | property _ j => j
  | item _ j => j
  | method _ _ j => j

/-- Where an expression stands: an operator at its symbol, a chain at its first link. -/
def Expr.spot : Expr → Spot
  | .constant _ s => s
  | .variable _ s => s
  | .this s => s
  | .foreign _ _ _ s => s
  | .template _ s => s
  | .arrayOf _ s => s
  | .mapOf _ s => s
  | .both _ s => s
  | .either _ s => s
  | .coalesce _ s => s
  | .binary _ _ _ s => s
  | .unary _ _ s => s
  | .call _ _ _ s => s
  | .chain root links =>
    match links with
    | link :: _ => link.joint.mark
    | [] => root.spot
  | .closure _ _ s => s
  | .perform _ s => s

mutual

/-- Where an expression begins. -/
def Expr.start : Expr → Spot
  | .both operands s => startOf operands s
  | .either operands s => startOf operands s
  | .coalesce operands s => startOf operands s
  | .binary _ left _ _ => left.start
  | .unary _ operand _ => operand.start
  | .chain root _ => root.start
  | e => e.spot

/-- Where the first one of expressions begins. -/
def startOf (es : List Expr) (otherwise : Spot) : Spot :=
  match es with
  | e :: _ => e.start
  | [] => otherwise

end

/-- Where a statement stands. -/
def Stmt.spot : Stmt → Spot
  | nothing s => s
  | expression e => e.spot
  | action e => e.spot
  | define _ _ _ s => s
  | assign _ _ _ s => s
  | block _ s => s
  | branch _ _ _ s => s
  | choose _ _ _ s => s
  | whileLoop _ _ s => s
  | endless _ s => s
  | doLoop _ _ _ s => s
  | forLoop _ _ _ _ s => s
  | breakOut _ s => s
  | continueOn s => s
  | returnWith _ s => s
  | throwWith _ s => s
  | tryCatch _ _ _ s => s
  | importModule _ s => s
  | exportName _ s => s

/-- A function of a script. -/
structure FunctionDef where
  name : String
  /-- The type of what it is called on, if it is made for one. -/
  receiver : Option String
  parameters : List String
  body : List Stmt
deriving Inhabited

/-- A script. -/
structure Code where
  functions : List FunctionDef
  body : List Stmt
deriving Inhabited

end Workflow.Script

import Workflow.Script.Operator

/-!
# Pure parts of scripts

An expression is constant when its value can be read off it, and pure when it has no effect, so
that it need not be evaluated where its value is not used. Calls, operators and whatever reaches
into data are not pure, for a function may stand behind them. A statement is pure when all in it is
pure and it ends for certain. Within a block the definition of a variable by a pure value has no
effect either.

## Main definitions

* `Workflow.Script.Expr.value?` — the value of a constant expression.
* `Workflow.Script.Expr.isPure`, `Workflow.Script.Stmt.isPure` — expressions and statements without
  effect.
* `Workflow.Script.Stmt.isPureInside` — statements without effect outside their block.
-/

namespace Workflow.Script

mutual

/-- The value of a constant expression. -/
def Expr.value? : Expr → Option Datum
  | .constant d _ => some d
  | .template parts _ => (valuesOf? parts).map fun ds => .text (String.join (ds.map Datum.reported))
  | .arrayOf items _ => (valuesOf? items).map .array
  | .mapOf fields _ => (fieldValues? fields).map .ofBindings
  | _ => none

/-- The values of constant expressions. -/
def valuesOf? : List Expr → Option (List Datum)
  | [] => some []
  | e :: rest =>
    match e.value?, valuesOf? rest with
    | some d, some ds => some (d :: ds)
    | _, _ => none

/-- The values of constant fields. -/
def fieldValues? : List (String × Expr) → Option (List (String × Datum))
  | [] => some []
  | (k, e) :: rest =>
    match e.value?, fieldValues? rest with
    | some d, some ds => some ((k, d) :: ds)
    | _, _ => none

end

/-- The value of the expression can be read off it. -/
def Expr.isConstant (e : Expr) : Bool := e.value?.isSome

/-- A constant truth value. -/
def Expr.truth? : Expr → Option Bool
  | .constant (.bool b) _ => some b
  | _ => none

mutual

/-- The expression has no effect. -/
def Expr.isPure : Expr → Bool
  | .variable _ _ => true
  | .perform body _ => arePure body
  | .both operands _ => areConstant operands
  | .either operands _ => areConstant operands
  | .coalesce operands _ => areConstant operands
  | e => e.isConstant

/-- All expressions are constant. -/
def areConstant : List Expr → Bool
  | [] => true
  | e :: rest => e.isConstant && areConstant rest

/-- The statement has no effect. -/
def Stmt.isPure : Stmt → Bool
  | .nothing _ => true
  | .expression e => e.isPure
  | .block body _ => arePure body
  | .branch test yes no _ => test.isPure && arePure yes && arePure no
  | .choose subject cases otherwise _ =>
    subject.isPure && arePureCases cases &&
      match otherwise with
      | some e => e.isPure
      | none => false
  | .whileLoop test _ _ => test.truth? == some false
  | .doLoop body test outcome _ => test.truth? == some (!outcome) && arePure body
  | .forLoop _ _ source body _ => source.isPure && arePure body
  | .tryCatch body _ handler _ => arePure body && arePure handler
  | _ => false

/-- All statements are without effect. -/
def arePure : List Stmt → Bool
  | [] => true
  | s :: rest => s.isPure && arePure rest

/-- All cases are without effect. -/
def arePureCases : List Case → Bool
  | [] => true
  | .mk _ _ guard body :: rest =>
    (match guard with
      | some e => e.isPure
      | none => true) && body.isPure && arePureCases rest

end

mutual

/-- The statement has no effect outside the block in which it stands. -/
def Stmt.isPureInside : Stmt → Bool
  | .define _ _ value _ => value.isPure
  | .importModule path _ => path.isPure
  | .exportName _ _ => true
  | .expression (.perform body _) => arePureInside body
  | s => s.isPure

/-- All statements are without effect outside their block. -/
def arePureInside : List Stmt → Bool
  | [] => true
  | s :: rest => s.isPureInside && arePureInside rest

end

/-- A name that is called to run a text as code. -/
def evalName : String := "eval"

/-- The expression runs a text as code. -/
def Expr.runsText : Expr → Bool
  | .call name _ _ _ => name == evalName
  | _ => false

mutual

/-- The statement may define something for the statements behind it. -/
def Stmt.isBound : Stmt → Bool
  | .define _ _ _ _ => true
  | .importModule _ _ => true
  | .exportName _ _ => true
  | .expression (.perform body _) => areBound body
  | .expression e => e.runsText
  | .action e => e.runsText
  | _ => false

/-- All statements may define something. -/
def areBound : List Stmt → Bool
  | [] => true
  | s :: rest => s.isBound && areBound rest

end

/-- Nothing behind the statement is reached. -/
def Stmt.isExit : Stmt → Bool
  | .breakOut _ _ => true
  | .continueOn _ => true
  | .returnWith _ _ => true
  | .throwWith _ _ => true
  | _ => false

/-- The statement may have a value other than nothing. -/
def Stmt.hasValue : Stmt → Bool
  | .branch _ _ _ _ => true
  | .choose _ _ _ _ => true
  | .block _ _ => true
  | .expression _ => true
  | .action _ => true
  | _ => false

end Workflow.Script

import Workflow.Expression.Basic
import Workflow.Decimal.Shortest
import Workflow.Json.Printer
import Workflow.Text.Search

/-!
# Evaluating expressions

The value of an expression among the fields of a context object. Arithmetic is floating-point, and a
result that is no finite number becomes null. An error on the left of *or* and in the condition of a
choice counts as false; any other error ends the evaluation.

## Main definitions

* `Workflow.ExpressionError` — why an expression has no value.
* `Workflow.Expression.evaluate` — the value of an expression.
* `Workflow.Expression.valueIn`, `Workflow.Expression.holdsIn` — the value and the truth of a text
  in a context.
-/

namespace Workflow

/-- Why an expression has no value. -/
inductive ExpressionError where
  | badContext
  | malformed
  | undefined (name : String)
  | badIndex
  | badFilter
  | badOperands (o : BinaryOperator) (left right : Json)
  | unknownTransform (name : String)
  | duplicateKey (key : String)

/-- The name of an operator in messages. -/
def BinaryOperator.title : BinaryOperator → String
  | and => "And"
  | or => "Or"
  | equal => "Equal"
  | notEqual => "Not equal"
  | greaterOrEqual => "Greater than or equal to"
  | lessOrEqual => "Less than or equal to"
  | greater => "Greater than"
  | less => "Less than"
  | «in» => "In"
  | add => "Add"
  | subtract => "Subtract"
  | multiply => "Multiply"
  | floorDivide => "Floor division"
  | divide => "Divide"
  | modulus => "Modulus"
  | exponent => "Exponent"

/-- The text of an error. -/
def ExpressionError.message : ExpressionError → String
  | badContext => "invalid context: context must be a JSON object"
  | malformed => failed "Parsing error: unrecognized token"
  | undefined name => failed ("Identifier '" ++ name ++ "' is undefined")
  | badIndex => failed "Invalid index type"
  | badFilter => failed "Invalid filter"
  | badOperands o a b =>
    failed ("Invalid binary operation, left: " ++ a.compact ++ ", right: " ++ b.compact ++
      ", operation: " ++ o.title)
  | unknownTransform name => failed ("Unknown transform: " ++ name)
  | duplicateKey key => failed ("Duplicate object key: " ++ key)
where
  /-- A failure of the evaluation itself. -/
  failed (detail : String) : String := "expression evaluation failed: " ++ detail

namespace Json

/-- The number of a tree. -/
def number? : Json → Option Float
  | integer n => some (if n < 0 then -(Float.ofNat n.natAbs) else Float.ofNat n.natAbs)
  | float x => some x
  | _ => none

/-- The tree of a number; what is not finite becomes null. -/
def ofFloat (x : Float) : Json := if x.isFinite then float x else null

/-- The tree counts as true. -/
def truthy : Json → Bool
  | null => false
  | bool b => b
  | integer n => n != 0
  | float x => x != 0.0 && !x.isNaN
  | text s => s != ""
  | array _ => true
  | object _ => true

mutual

/-- Trees are equal: the two kinds of number are apart, and objects ignore the order of fields. -/
def same : Json → Json → Bool
  | null, null => true
  | bool a, bool b => a == b
  | integer a, integer b => a == b
  | float a, float b => a == b
  | text a, text b => a == b
  | array a, array b => sameItems a b
  | object a, object b => a.length == b.length && sameFields a b
  | _, _ => false

/-- Arrays are equal item by item. -/
def sameItems : List Json → List Json → Bool
  | [], [] => true
  | a :: as, b :: bs => same a b && sameItems as bs
  | _, _ => false

/-- Every field of the first object is in the second with an equal tree. -/
def sameFields : List (String × Json) → List (String × Json) → Bool
  | [], _ => true
  | (k, a) :: rest, b =>
    (match Bindings.get? b k with
      | some j => same a j
      | none => false) && sameFields rest b

end

end Json

namespace Expression

/-- An evaluation that may fail. -/
abbrev Outcome (α : Type) := Except ExpressionError α

/-- Two numbers are taken as equal when they differ by less than this. -/
def tolerance : Float := 0.000001

/-- The outcome of an operator on two numbers. -/
def onNumbers (o : BinaryOperator) (a b : Float) : Json :=
  match o with
  | .add => .ofFloat (a + b)
  | .subtract => .ofFloat (a - b)
  | .multiply => .ofFloat (a * b)
  | .divide => .ofFloat (a / b)
  | .floorDivide => .ofFloat (a / b).floor
  | .modulus => .ofFloat (Decimal.remainder a b)
  | .exponent => .ofFloat (Float.pow a b)
  | .less => .bool (a < b)
  | .greater => .bool (a > b)
  | .lessOrEqual => .bool (a ≤ b)
  | .greaterOrEqual => .bool (a ≥ b)
  | .equal => .bool ((a - b).abs < tolerance)
  | .notEqual => .bool !((a - b).abs < tolerance)
  | .in => .bool false
  | .and => .bool false
  | .or => .bool false

/-- The outcome of an operator on two texts, if it has one. -/
def onTexts? (o : BinaryOperator) (a b : String) : Option Json :=
  match o with
  | .add => some (.text (a ++ b))
  | .in => some (.bool (Text.contains b a))
  | .less => some (.bool (a < b))
  | .greater => some (.bool (b < a))
  | .lessOrEqual => some (.bool (a ≤ b))
  | .greaterOrEqual => some (.bool (b ≤ a))
  | .equal => some (.bool (a == b))
  | _ => none

/-- The outcome of an operator that is not the negation of another. -/
def applyPositive (o : BinaryOperator) (a b : Json) : Outcome Json :=
  match a.number?, b.number?, a, b with
  | some x, some y, _, _ => .ok (onNumbers o x y)
  | _, _, .text s, .text t =>
    match onTexts? o s t with
    | some j => .ok j
    | none => .error (.badOperands o a b)
  | _, _, a, b =>
    match o, b with
    | .in, .array items => .ok (.bool (items.any (Json.same a)))
    | .in, .object fields =>
      match a with
      | .text key => .ok (.bool (Bindings.contains fields key))
      | a => .error (.badOperands o a b)
    | .equal, b => .ok (.bool (Json.same a b))
    | o, b => .error (.badOperands o a b)

/-- The outcome of an operator on two values. -/
def apply (o : BinaryOperator) (a b : Json) : Outcome Json :=
  match o with
  | .notEqual => (applyPositive .equal a b).map fun j => .bool !j.truthy
  | o => applyPositive o a b

/-- The item at a position that is counted from zero; a negative one counts as zero. -/
def itemAt (subject position : Json) : Outcome Json :=
  match position with
  | .text key => .ok ((subject.field? key).getD .null)
  | position =>
    match position.number? with
    | some x => .ok ((subject.items?.bind fun items => items[x.floor.toUInt64.toNat]?).getD .null)
    | none => .error .badIndex

/-- The elements of a list whose field compares with a value as true. -/
def select (items : List Json) (name : String) (o : BinaryOperator) (right : Json) : Json :=
  .array (items.filter fun item =>
    match apply o ((item.field? name).getD .null) right with
    | .ok j => j.truthy
    | .error _ => false)

/-! ### Transforms -/

/-- The first argument of a transform as a text; what is no text counts as empty. -/
def firstText (arguments : List Json) : String := (arguments.head?.bind Json.text?).getD ""

/-- The second argument of a transform as a text. -/
def secondText (arguments : List Json) (default : String) : String :=
  ((arguments[1]?).bind Json.text?).getD default

/-- The number of characters, items or fields. -/
def lengthOf : Json → Nat
  | .text s => s.length
  | .array items => items.length
  | .object fields => fields.length
  | _ => 0

/-- The transforms; the subject is the first argument. -/
def applyTransform? (name : String) (arguments : List Json) : Option Json :=
  match name with
  | "lower" => some (.text (Text.lower (firstText arguments)))
  | "upper" => some (.text (Text.upper (firstText arguments)))
  | "trim" => some (.text (Text.trim (firstText arguments)))
  | "split" =>
    some (.array ((Text.pieces (firstText arguments) (secondText arguments ",")).map .text))
  | "not" => some (.bool !(arguments.headD .null).truthy)
  | "contains" => some (.bool (Text.contains (firstText arguments) (secondText arguments "")))
  | "startsWith" => some (.bool (Text.startsWith (firstText arguments) (secondText arguments "")))
  | "endsWith" => some (.bool (Text.endsWith (firstText arguments) (secondText arguments "")))
  | "length" => some (.float (Float.ofNat (lengthOf (arguments.headD .null))))
  | _ => none

/-- An error counts as false. -/
def outcomeTruthy : Outcome Json → Bool
  | .ok j => j.truthy
  | .error _ => false

mutual

/-- The value of an expression among the fields of a context. -/
def evaluate (context : List (String × Json)) : Expression → Outcome Json
  | .number x => .ok (.ofFloat x)
  | .text s => .ok (.text s)
  | .bool b => .ok (.bool b)
  | .null => .ok .null
  | .name s =>
    match Bindings.get? context s with
    | some j => .ok j
    | none => .error (.undefined s)
  | .list items => (evaluateItems context items).map .array
  | .object fields => (evaluateFields context [] fields).map .object
  | .field subject key => (evaluate context subject).map fun j => (j.field? key).getD .null
  | .index subject position =>
    (evaluate context subject).bind fun s => (evaluate context position).bind fun p => itemAt s p
  | .filter subject key o right =>
    (evaluate context subject).bind fun s =>
      match s with
      | .array items => (evaluate context right).map fun r => select items key o r
      | _ => .error .badFilter
  | .binary o left right =>
    let a := evaluate context left
    match o with
    | .or => if outcomeTruthy a then a else evaluate context right
    | .and => if outcomeTruthy a then evaluate context right else a
    | o => a.bind fun a => (evaluate context right).bind fun b => apply o a b
  | .choose condition yes no =>
    if outcomeTruthy (evaluate context condition) then evaluate context yes
    else evaluate context no
  | .transform title subject arguments =>
    (evaluate context subject).bind fun s => (evaluateItems context arguments).bind fun rest =>
      match applyTransform? title (s :: rest) with
      | some j => .ok j
      | none => .error (.unknownTransform title)

/-- The values of expressions in order. -/
def evaluateItems (context : List (String × Json)) : List Expression → Outcome (List Json)
  | [] => .ok []
  | e :: rest =>
    (evaluate context e).bind fun j => (evaluateItems context rest).map fun js => j :: js

/-- The values of the fields of an object, which may not repeat a key. -/
def evaluateFields (context : List (String × Json)) (seen : List String) :
    List (String × Expression) → Outcome (List (String × Json))
  | [] => .ok []
  | (key, e) :: rest =>
    if seen.contains key then .error (.duplicateKey key)
    else
      (evaluate context e).bind fun j =>
        (evaluateFields context (key :: seen) rest).map fun js => (key, j) :: js

end

/-- The value of the expression that a text writes, in a context that must be an object. -/
def valueIn (context : Json) (s : String) : Outcome Json :=
  match context with
  | .object fields =>
    match ofText? s with
    | some e => evaluate fields e
    | none => .error .malformed
  | _ => .error .badContext

/-- The truth of the expression that a text writes. -/
def holdsIn (context : Json) (s : String) : Outcome Bool := (valueIn context s).map Json.truthy

end Expression

end Workflow

import Workflow.Value.Basic
import Workflow.Text.Search
import Workflow.Pattern.Reader

/-!
# Comparing values

The operators of structured conditions. Loose equality coerces: numbers compare with numeric texts
and with booleans, null equals null only, and a collection equals its own text form. Strict equality
does not coerce, and the two kinds of number count as one. Values are ordered when both have a
number, or both are texts.

## Main definitions

* `Workflow.Value.looseEq`, `Workflow.Value.strictEq` — the two equalities.
* `Workflow.Value.order?` — the order of two values, if they have one.
* `Workflow.Operator`, `Workflow.compare` — the operators and their outcome.
-/

namespace Workflow

namespace Value

mutual

/-- Equality without coercion. Records are equal whatever the order of their keys. -/
def strictEq : Value → Value → Bool
  | int a, int b => a == b
  | int a, float b => Decimal.nearest a == b
  | float a, int b => a == Decimal.nearest b
  | float a, float b => a == b
  | null, null => true
  | bool a, bool b => a == b
  | text a, text b => a == b
  | handle a, handle b => a == b
  | list a, list b => strictEqItems a b
  | record a, record b => a.length == b.length && strictEqFields a b
  | _, _ => false

/-- Lists are equal item by item. -/
def strictEqItems : List Value → List Value → Bool
  | [], [] => true
  | a :: as, b :: bs => strictEq a b && strictEqItems as bs
  | _, _ => false

/-- Every field of the first record is in the second with an equal value. -/
def strictEqFields : List (String × Value) → List (String × Value) → Bool
  | [], _ => true
  | (k, a) :: rest, b =>
    (match Bindings.get? b k with
      | some v => strictEq a v
      | none => false) && strictEqFields rest b

end

/-- Both values have a number, and the numbers are equal. -/
def numericEq (a b : Value) : Bool :=
  match a.toFloat?, b.toFloat? with
  | some x, some y => x == y
  | _, _ => false

/-- Equality with coercion. -/
def looseEq : Value → Value → Bool
  | null, null => true
  | null, _ => false
  | _, null => false
  | text a, text b => a == b
  | bool a, bool b => a == b
  | list a, text s => (list a).toText == s
  | record a, text s => (record a).toText == s
  | handle a, text s => (handle a).toText == s
  | text s, list b => (list b).toText == s
  | text s, record b => (record b).toText == s
  | text s, handle b => (handle b).toText == s
  | list a, b => strictEq (list a) b
  | record a, b => strictEq (record a) b
  | handle a, b => strictEq (handle a) b
  | a, list b => strictEq a (list b)
  | a, record b => strictEq a (record b)
  | a, handle b => strictEq a (handle b)
  | a, b => numericEq a b

/-- The order of two floating-point numbers; what is no number has none. -/
def floatOrder? (x y : Float) : Option Ordering :=
  if x < y then some .lt else if y < x then some .gt else if x == y then some .eq else none

/-- The order of two values: by their numbers when both have one, of two texts by their characters.
-/
def order? (a b : Value) : Option Ordering :=
  match a.toFloat?, b.toFloat? with
  | some x, some y => floatOrder? x y
  | _, _ =>
    match a, b with
    | text s, text t => some (Ord.compare s t)
    | _, _ => none

/-- A list holds a loosely equal item, or the text of the first value holds that of the second. -/
def containsValue (haystack needle : Value) : Bool :=
  ((haystack.items?.getD []).any fun v => looseEq v needle) ||
    Text.contains haystack.toText needle.toText

end Value

/-- An operator of a structured condition. -/
inductive Operator where
  | equal
  | strictlyEqual
  | notEqual
  | strictlyNotEqual
  | greater
  | greaterOrEqual
  | less
  | lessOrEqual
  | contains
  | matching
deriving DecidableEq, Repr

namespace Operator

/-- The operators in the order in which messages list them. -/
def all : List Operator :=
  [equal, strictlyEqual, notEqual, strictlyNotEqual, greater, greaterOrEqual, less, lessOrEqual,
   contains, matching]

/-- The spelling of an operator. -/
def spelling : Operator → String
  | equal => "=="
  | strictlyEqual => "==="
  | notEqual => "!="
  | strictlyNotEqual => "!=="
  | greater => ">"
  | greaterOrEqual => ">="
  | less => "<"
  | lessOrEqual => "<="
  | contains => "contains"
  | matching => "matches"

/-- The operator of a spelling. -/
def ofSpelling? (s : String) : Option Operator := all.find? fun o => o.spelling = s

end Operator

/-- Why a comparison has no outcome. -/
inductive ComparisonError where
  | unknownOperator (spelling : String)
  | badPattern (pattern : String) (reason : Pattern.Fault)

/-- The text of a comparison error. -/
def ComparisonError.message : ComparisonError → String
  | unknownOperator s =>
    "unknown operator '" ++ s ++ "', expected one of: " ++
      ", ".intercalate (Operator.all.map Operator.spelling)
  | badPattern p reason => "bad pattern '" ++ p ++ "': " ++ reason.message

/-- The outcome of an operator on two values. -/
def Operator.apply (o : Operator) (a b : Value) : Except ComparisonError Bool :=
  match o with
  | equal => .ok (a.looseEq b)
  | notEqual => .ok (!a.looseEq b)
  | strictlyEqual => .ok (a.strictEq b)
  | strictlyNotEqual => .ok (!a.strictEq b)
  | greater => .ok ((a.order? b).any (· == .gt))
  | greaterOrEqual => .ok ((a.order? b).any (· != .lt))
  | less => .ok ((a.order? b).any (· == .lt))
  | lessOrEqual => .ok ((a.order? b).any (· != .gt))
  | contains => .ok (a.containsValue b)
  | matching =>
    match Pattern.ofText b.toText with
    | .ok p => .ok (p.occursIn a.toText)
    | .error reason => .error (.badPattern b.toText reason)

/-- The outcome of a comparison whose operator is given by its spelling. -/
def compare (a : Value) (operator : String) (b : Value) : Except ComparisonError Bool :=
  match Operator.ofSpelling? operator with
  | some o => o.apply a b
  | none => .error (.unknownOperator operator)

end Workflow

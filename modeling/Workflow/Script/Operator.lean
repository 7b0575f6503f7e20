import Workflow.Decimal.Shortest
import Workflow.Script.Fault
import Workflow.Script.Tree
import Workflow.Text.Search
import Workflow.Text.Utf8

/-!
# Operators of scripts

What the operators of scripts do with data. Whole numbers are checked for their range; a whole
number beside a floating-point one becomes such a number; a text joins with the plain text of
anything. Floating-point numbers are equal when they differ by no more than a rounding error. Data
of different types are not equal, and none of them comes before the other.

## Main definitions

* `Workflow.Script.Datum.apply` — the outcome of a binary operator.
* `Workflow.Script.Datum.into?` — the outcome of an operator that an assignment has for itself.
* `Workflow.Script.Datum.equal` — two data are equal.
-/

namespace Workflow.Script

namespace Datum

/-- The name of a type in the list of arguments of a function. -/
def parameterType : Datum → String
  | text _ => "&str | ImmutableString | String"
  | d => d.typeName

/-- There is no function of this name for these arguments. -/
def missing (name : String) (args : List Datum) : Cause :=
  .unknownFunction (name ++ " (" ++ listed (args.map parameterType) ++ ")")

/-! ### Whole numbers -/

/-- A whole number in range. -/
def checked (n : Int) (otherwise : String) : Except Cause Datum :=
  if -(Nat.pow 2 63 : Int) ≤ n ∧ n < Nat.pow 2 63 then .ok (.int (Int64.ofInt n))
  else .error (.arithmetic otherwise)

/-- The text of two whole numbers with an operator between. -/
def formula (a : Int64) (op : BinaryOp) (b : Int64) : String :=
  Decimal.intText a.toInt ++ " " ++ op.symbol ++ " " ++ Decimal.intText b.toInt

/-- A whole number moved to the left by a number of bits; bits that leave it are lost. -/
def movedLeft (a : Int) (n : Nat) : Int64 :=
  if 64 ≤ n then 0 else Int64.ofInt (Int.bmod (a * Nat.pow 2 n) (Nat.pow 2 64))

/-- A whole number moved to the right by a number of bits, with its sign. -/
def movedRight (a : Int) (n : Nat) : Int64 := Int64.ofInt (Int.fdiv a (Nat.pow 2 (min n 64)))

/-- The largest exponent of a whole number. -/
def largestExponent : Int := Nat.pow 2 32 - 1

/-- A whole number to the power of another. -/
def power (a b : Int64) : Except Cause Datum :=
  let shown := formula a .power b
  let overflow : Cause := .arithmetic ("Exponential overflow: " ++ shown)
  if largestExponent < b.toInt then
    .error (.arithmetic ("Integer raised to too large an index: " ++ shown))
  else if b < 0 then .error (.arithmetic ("Integer raised to a negative power: " ++ shown))
  else if a = 0 ∨ a = 1 then .ok (.int (if b = 0 then 1 else a))
  else if a = -1 then .ok (.int (if b % 2 = 0 then 1 else -1))
  else if 64 < b then .error overflow
  else
    let n := a.toInt.pow b.toInt.toNat
    if -(Nat.pow 2 63 : Int) ≤ n ∧ n < Nat.pow 2 63 then .ok (.int (Int64.ofInt n))
    else .error overflow

/-- The outcome of an operator that compares, by the order of its operands. -/
def compared? (op : BinaryOp) (o : Ordering) : Option Bool :=
  match op with
  | .equal => some (o == .eq)
  | .notEqual => some (o != .eq)
  | .less => some (o == .lt)
  | .lessEqual => some (o != .gt)
  | .greater => some (o == .gt)
  | .greaterEqual => some (o != .lt)
  | _ => none

/-- The order of two whole numbers. -/
def orderInts (a b : Int64) : Ordering := if a < b then .lt else if a = b then .eq else .gt

/-- The order of two texts by their characters. -/
def orderTexts (a b : String) : Ordering := if a < b then .lt else if a = b then .eq else .gt

/-- The order of two truth values. -/
def orderBools (a b : Bool) : Ordering := if a = b then .eq else if b then .lt else .gt

/-- An operator on whole numbers. -/
def onInts (op : BinaryOp) (a b : Int64) : Except Cause Datum :=
  match op with
  | .add => checked (a.toInt + b.toInt) ("Addition overflow: " ++ formula a op b)
  | .subtract => checked (a.toInt - b.toInt) ("Subtraction overflow: " ++ formula a op b)
  | .multiply => checked (a.toInt * b.toInt) ("Multiplication overflow: " ++ formula a op b)
  | .divide =>
    if b = 0 then .error (.arithmetic ("Division by zero: " ++ formula a op b))
    else checked (a.toInt.tdiv b.toInt) ("Division overflow: " ++ formula a op b)
  | .remainder =>
    if b = 0 ∨ (b = -1 ∧ a = Int64.minValue) then
      .error (.arithmetic ("Modulo division by zero or overflow: " ++ formula a op b))
    else .ok (.int (Int64.ofInt (a.toInt.tmod b.toInt)))
  | .power => power a b
  | .shiftLeft =>
    .ok (.int
      (if b < 0 then movedRight a.toInt b.toInt.natAbs else movedLeft a.toInt b.toInt.natAbs))
  | .shiftRight =>
    .ok (.int
      (if b < 0 then movedLeft a.toInt b.toInt.natAbs else movedRight a.toInt b.toInt.natAbs))
  | .bitAnd => .ok (.int (a &&& b))
  | .bitOr => .ok (.int (a ||| b))
  | .bitXor => .ok (.int (a ^^^ b))
  | .range => .ok (.range a b false)
  | .rangeInclusive => .ok (.range a b true)
  | op =>
    match compared? op (orderInts a b) with
    | some d => .ok (.bool d)
    | none => .error (missing op.symbol [.int a, .int b])

/-! ### Floating-point numbers -/

/-- The distance between one and the next floating-point number. -/
def roundingError : Float := 2.220446049250313e-16

/-- How two floating-point numbers compare: by their difference in relation to the larger one, a
rounding error apart counting as nothing. -/
def floatsCompare? (op : BinaryOp) (x y : Float) : Option Bool :=
  let larger := if y * y < x * x then x else y
  if larger == 0.0 then compared? op .eq
  else
    let d := (x - y) / larger.abs
    match op with
    | .equal => some (d.abs ≤ roundingError)
    | .notEqual => some (roundingError < d.abs)
    | .less => some (d < -roundingError)
    | .lessEqual => some (d < roundingError)
    | .greater => some (roundingError < d)
    | .greaterEqual => some (-roundingError < d)
    | _ => none

/-- An operator on floating-point numbers. -/
def onFloats? (op : BinaryOp) (x y : Float) : Option Datum :=
  match op with
  | .add => some (.float (x + y))
  | .subtract => some (.float (x - y))
  | .multiply => some (.float (x * y))
  | .divide => some (.float (x / y))
  | .remainder => some (.float (Decimal.remainder x y))
  | .power => some (.float (Float.pow x y))
  | op => (floatsCompare? op x y).map .bool

/-! ### Truth values and texts -/

/-- An operator on truth values. -/
def onBools? (op : BinaryOp) (a b : Bool) : Option Datum :=
  match op with
  | .bitAnd => some (.bool (a && b))
  | .bitOr => some (.bool (a || b))
  | .bitXor => some (.bool (a != b))
  | op => (compared? op (orderBools a b)).map .bool

/-- An operator on texts, of which a character may be one. -/
def onTexts? (op : BinaryOp) (a b : String) : Option Datum :=
  match op with
  | .add => some (.text (a ++ b))
  | .subtract => some (.text (if b = "" then a else Text.substitute a b ""))
  | op => (compared? op (orderTexts a b)).map .bool

/-- An operator on texts of which the first one is a character. -/
def onCharFirst? (op : BinaryOp) (a b : String) : Option Datum :=
  if op = .subtract then none else onTexts? op a b

/-- An operator on nothing: nothing equals nothing. -/
def onUnits? (op : BinaryOp) : Option Datum :=
  match op with
  | .equal => some (.bool true)
  | .range => some (.range 0 endless false)
  | .rangeInclusive => some (.range 0 endless true)
  | op => (compared? op .eq).map fun _ => .bool false

/-- An operator on data of different types: they are not equal, and have no order. -/
def onStrangers? (op : BinaryOp) : Option Datum :=
  (compared? op .eq).map fun _ => .bool (op == .notEqual)

/-- Numbers in the faults of moments. -/
def secondsLayout : Decimal.Layout := { positionalLayout with pointZero := false }

/-- More seconds cannot be told apart. -/
def mostSeconds : Float := 9223372036854775807.0

/-- The milliseconds of a number of seconds that is not negative. -/
def wholeMilliseconds (seconds : Float) : Nat := (seconds * 1000.0).toUInt64.toNat

/-- A moment with a number of seconds added. -/
def later (t : Int) (seconds : Float) : Except Cause Datum :=
  if mostSeconds < seconds.abs then
    .error (.arithmetic ("Integer overflow for timestamp " ++
      (if seconds < 0.0 then "subtract" else "add") ++ ": " ++ secondsLayout.render seconds.abs))
  else if seconds < 0.0 then .ok (.moment (t - wholeMilliseconds (-seconds)))
  else .ok (.moment (t + wholeMilliseconds seconds))

/-- A moment with a number of seconds taken away. -/
def earlier (t : Int) (seconds : Float) : Except Cause Datum :=
  if seconds == 0.0 then .ok (.moment t) else later t (-seconds)

/-- The moment that an operator moves by a number of seconds. -/
def moved? (op : BinaryOp) (t : Int) (d : Datum) : Option (Except Cause Datum) :=
  match op, d with
  | .add, int n => some (.ok (.moment (t + n.toInt * 1000)))
  | .add, float x => some (later t x)
  | .subtract, int n => some (.ok (.moment (t - n.toInt * 1000)))
  | .subtract, float x => some (earlier t x)
  | _, _ => none

/-- The fields of a map, with those of another put over them. -/
def merged (fields others : List (String × Datum)) : List (String × Datum) :=
  others.foldl (fun acc e => insert acc e.1 e.2) fields

/-! ### The operators that need no function -/

/-- The outcome of an operator on data for which it needs no function, if it does not. -/
def atOnce? (op : BinaryOp) (a b : Datum) : Option (Except Cause Datum) :=
  match a, b with
  | int m, int n => some (onInts op m n)
  | int m, float y => (onFloats? op (Decimal.nearest m) y).map .ok
  | float x, int n => (onFloats? op x (Decimal.nearest n)).map .ok
  | float x, float y => (onFloats? op x y).map .ok
  | bool p, bool q => (onBools? op p q).map .ok
  | unit, unit => (onUnits? op).map .ok
  | text s, text t => (onTexts? op s t).map .ok
  | text s, char c => (onTexts? op s (String.singleton c)).map .ok
  | char c, text s => (onCharFirst? op (String.singleton c) s).map .ok
  | char c, char d => (onCharFirst? op (String.singleton c) (String.singleton d)).map .ok
  | text s, unit =>
    if op = .add then some (.ok (.text s)) else (onStrangers? op).map .ok
  | unit, text s =>
    if op = .add then some (.ok (.text s)) else (onStrangers? op).map .ok
  | unit, int n =>
    match op with
    | .range => some (.ok (.range 0 n false))
    | .rangeInclusive => some (.ok (.range 0 n true))
    | op => (onStrangers? op).map .ok
  | int n, unit =>
    match op with
    | .range => some (.ok (.range n endless false))
    | .rangeInclusive => some (.ok (.range n endless true))
    | op => (onStrangers? op).map .ok
  | range m n i, range m' n' i' =>
    if i = i' then
      match op with
      | .equal => some (.ok (.bool (m == m' && n == n')))
      | .notEqual => some (.ok (.bool (m != m' || n != n')))
      | _ => none
    else if op = .notEqual then some (.ok (.bool true))
    else none
  | blob x, blob y =>
    match op with
    | .add => some (.ok (.blob (x ++ y)))
    | .equal => some (.ok (.bool (x == y)))
    | .notEqual => some (.ok (.bool (x != y)))
    | _ => none
  | a, b => if a.typeName = b.typeName then none else (onStrangers? op).map .ok

/-! ### Equality -/

mutual

/-- Two data are equal. Data of one type that cannot be compared have no answer. -/
def equal : Datum → Datum → Except Cause Bool
  | array as, array bs => if as.length = bs.length then equalItems as bs else .ok false
  | map as, map bs => if as.length = bs.length then equalFields as bs else .ok false
  | a, b =>
    match atOnce? .equal a b with
    | some (.ok (.bool r)) => .ok r
    | _ => .error (missing "==" [a, b])

/-- Items are equal, one by one. -/
def equalItems : List Datum → List Datum → Except Cause Bool
  | a :: as, b :: bs =>
    match equal a b with
    | .ok true => equalItems as bs
    | .ok false => .ok false
    | .error e => if a.typeName = b.typeName then .error e else .ok false
  | _, _ => .ok true

/-- The fields of a map are equal to those of another by their keys. -/
def equalFields : List (String × Datum) → List (String × Datum) → Except Cause Bool
  | (k, a) :: as, bs =>
    match bs.lookup k with
    | none => .ok false
    | some b =>
      match equal a b with
      | .ok true => equalFields as bs
      | .ok false => .ok false
      | .error e => .error e
  | [], _ => .ok true

end

/-- The place of the first item that equals a datum. -/
def placeOf (d : Datum) : Nat → List Datum → Except Cause (Option Nat)
  | _, [] => .ok none
  | n, item :: rest =>
    match equal item d with
    | .ok true => .ok (some n)
    | .ok false => placeOf d (n + 1) rest
    | .error e => if item.typeName = d.typeName then .error e else placeOf d (n + 1) rest

/-! ### All operators -/

/-- The outcome of a binary operator. -/
def apply (op : BinaryOp) (a b : Datum) : Except Cause Datum :=
  let other : Except Cause Datum := match atOnce? op a b with
    | some r => r
    | none => .error (missing op.symbol [a, b])
  match op, a, b with
  | .add, array xs, array ys => .ok (.array (xs ++ ys))
  | .add, map xs, map ys => .ok (.map (merged xs ys))
  | .equal, array xs, array ys => (equal (array xs) (array ys)).map .bool
  | .equal, map xs, map ys => (equal (map xs) (map ys)).map .bool
  | .notEqual, array xs, array ys => (equal (array xs) (array ys)).map fun r => .bool !r
  | .notEqual, map xs, map ys => (equal (map xs) (map ys)).map fun r => .bool !r
  | .subtract, moment s, moment t => .ok (.float (Float.ofInt (s - t) / 1000.0))
  | op, moment s, moment t =>
    match compared? op (if s < t then .lt else if s = t then .eq else .gt) with
    | some r => .ok (.bool r)
    | none => other
  | op, moment t, int n => (moved? op t (int n)).getD other
  | op, moment t, float x => (moved? op t (float x)).getD other
  | .add, text s, blob bytes => .ok (.text (s ++ Text.ofBytes bytes))
  | .add, text s, d => .ok (.text (s ++ d.plain))
  | .add, blob bytes, text s => .ok (.text (Text.ofBytes bytes ++ s))
  | .add, d, text s => .ok (.text (d.plain ++ s))
  | _, _, _ => other

/-- The outcome of an operator that an assignment has for itself. -/
def into? (op : BinaryOp) (a b : Datum) : Option Datum :=
  match op, a, b with
  | .add, array xs, array ys => some (.array (xs ++ ys))
  | .add, array xs, d => some (.array (xs ++ [d]))
  | .add, map xs, map ys => some (.map (merged xs ys))
  | .add, blob xs, blob ys => some (.blob (xs ++ ys))
  | .add, blob xs, int n => some (.blob (xs ++ [UInt8.ofNat (n.toUInt64.toNat % 256)]))
  | .add, blob xs, text s => some (.blob (xs ++ s.toUTF8.toList))
  | .add, blob xs, char c => some (.blob (xs ++ (String.singleton c).toUTF8.toList))
  | .add, text s, blob bytes => some (.text (s ++ Text.ofBytes bytes))
  | .add, text s, d => some (.text (s ++ d.plain))
  | .subtract, text s, text t => onTexts? .subtract s t
  | .subtract, text s, char c => onTexts? .subtract s (String.singleton c)
  | op, moment t, d => (moved? op t d).bind Except.toOption
  | _, _, _ => none

/-- The text of a number whose opposite is out of range. -/
def negationOverflow (n : Int64) : Cause :=
  .arithmetic ("Negation overflow: -" ++ Decimal.intText n.toInt)

/-- The outcome of an operator on a single operand. -/
def applyUnary (op : UnaryOp) (d : Datum) : Except Cause Datum :=
  match op, d with
  | .minus, int n => checked (-n.toInt) "integer overflow"
  | .minus, float x => .ok (.float (-x))
  | .plus, int n => .ok (.int n)
  | .plus, float x => .ok (.float x)
  | .not, bool b => .ok (.bool !b)
  | op, d => .error (missing op.symbol [d])

end Datum

end Workflow.Script

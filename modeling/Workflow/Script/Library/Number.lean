import Workflow.Script.Library.Effect
import Workflow.Text.Case

/-!
# Functions on numbers

Functions on whole numbers, on their bits, and on floating-point numbers, and the reading of numbers
from texts.

## Main definitions

* `Workflow.Script.intFunction?`, `Workflow.Script.floatFunction?` — functions by name.
* `Workflow.Script.parsedInt`, `Workflow.Script.parsedFloat` — numbers read from texts.
-/

namespace Workflow.Script

open Effect Datum

/-! ### Numbers in texts -/

/-- The digits of a whole number of 64 bits in a base. -/
def digitsIn (base : Nat) (n : Int64) : Datum :=
  .text (String.ofList (Nat.toDigits base n.toUInt64.toNat))

/-- The value of a digit or letter in a base, if it is below the base. -/
def letterDigit? (base : Nat) (c : Char) : Option Nat :=
  let n :=
    if c.isDigit then c.toNat - '0'.toNat
    else if c.isLower then c.toNat - 'a'.toNat + 10
    else if c.isUpper then c.toNat - 'A'.toNat + 10
    else 99
  if n < base then some n else none

/-- Reads digits behind a value; the first thing that is wrong decides on the failure. -/
def readDigits (base : Nat) (negative : Bool) : Int → List Char → Except String Int
  | v, [] => .ok v
  | v, c :: cs =>
    match letterDigit? base c with
    | none => .error "invalid digit found in string"
    | some d =>
      let v := base * v + if negative then -(d : Int) else d
      if v < -(Nat.pow 2 63 : Int) then .error "number too small to fit in target type"
      else if Nat.pow 2 63 ≤ v then .error "number too large to fit in target type"
      else readDigits base negative v cs

/-- The whole number that characters write in a base. -/
def readInt (base : Nat) (cs : List Char) : Except String Int :=
  match cs with
  | [] => .error "cannot parse integer from empty string"
  | cs =>
    let (negative, ds) := Decimal.splitSign cs
    if ds.isEmpty then .error "invalid digit found in string" else readDigits base negative 0 ds

/-- A whole number read in a base. -/
def parsedInt (s : String) (base : Int64) : Answer :=
  if base < 2 ∨ 36 < base then wrong ("Invalid radix: '" ++ Decimal.intText base.toInt ++ "'")
  else match readInt (lengthOf base) (Text.trimList s.toList) with
    | .ok v => gives (.int (Int64.ofInt v))
    | .error e => wrong ("Error parsing integer number '" ++ s ++ "': " ++ e)

/-- A floating-point number read. -/
def parsedFloat (s : String) : Answer :=
  match Decimal.float? (Text.trim s) with
  | some x => gives (.float x)
  | none =>
    wrong ("Error parsing floating-point number '" ++ s ++ "': " ++
      if Text.trim s = "" then "cannot parse float from empty string" else "invalid float literal")

/-! ### Whole numbers -/

/-- The bits of a whole number. -/
def wordBits : Nat := 64

/-- The place of a bit that a whole number does not have. -/
def noBit (n : Int64) : Cause := .outOfBounds .bits wordBits n

/-- The lowest bits set, as many as a number says. -/
def lowBits (n : Nat) : UInt64 := UInt64.ofNat (Nat.pow 2 n - 1)

/-- Some bits of a whole number. -/
def bitsOf (n : Int64) (start length : Nat) : Int64 :=
  ((n.toUInt64 >>> UInt64.ofNat start) &&& lowBits length).toInt64

/-- A whole number with some bits replaced. -/
def withBits (n : Int64) (start length : Nat) (bits : Int64) : Int64 :=
  let mask := lowBits length <<< UInt64.ofNat start
  ((n.toUInt64 &&& ~~~mask) ||| ((bits.toUInt64 <<< UInt64.ofNat start) &&& mask)).toInt64

/-- A whole number with a bit replaced. -/
def withBit (n : Int64) (place : Nat) (b : Bool) : Int64 := withBits n place 1 (if b then 1 else 0)

/-- A bit of a whole number. -/
def bitOf (n : Int64) (place : Nat) : Bool := bitsOf n place 1 == 1

/-- The bits of a whole number from a place on, one by one. -/
def bitStream (n : Int64) (start : Int64) (length : Nat) : Answer :=
  match place? wordBits start with
  | some i =>
    gives (.stream (.bits (n.toUInt64 >>> UInt64.ofNat i) (min length (wordBits - i))))
  | none => fails (noBit start)

/-- Some bits of a whole number, from a place on. -/
def readBits (n : Int64) (start : Int64) (length : Nat) : Answer :=
  if length = 0 then gives (.int 0)
  else match place? wordBits start with
    | some i => gives (.int (bitsOf n i (min length (wordBits - i))))
    | none => fails (noBit start)

/-- Replaces some bits of a whole number, from a place on. -/
def writeBits (n : Int64) (start : Int64) (length : Nat) (bits : Int64) : Answer :=
  if length = 0 then turns (.int n)
  else match place? wordBits start with
    | some i => turns (.int (withBits n i (min length (wordBits - i)) bits))
    | none => fails (noBit start)

/-- Functions on the bits of a whole number. -/
def bitFunction? (n : Int64) (name : String) (args : List Datum) : Answer :=
  match name, args with
  | "bits", [] => bitStream n 0 wordBits
  | "bits", [int i] => bitStream n i wordBits
  | "bits", [int i, int m] => bitStream n i (lengthOf m)
  | "bits", [range a b inclusive] =>
    let (start, length) := extentOf a b inclusive
    bitStream n (Int64.ofNat start) length
  | "get_bit", [int i] =>
    match place? wordBits i with
    | some k => gives (.bool (bitOf n k))
    | none => fails (noBit i)
  | "set_bit", [.int i, .bool b] =>
    match place? wordBits i with
    | some k => turns (.int (withBit n k b))
    | none => fails (noBit i)
  | "get_bits", [int i, int m] => readBits n i (lengthOf m)
  | "get_bits", [range a b inclusive] =>
    let (start, length) := extentOf a b inclusive
    readBits n (Int64.ofNat start) length
  | "set_bits", [int i, int m, int v] => writeBits n i (lengthOf m) v
  | "set_bits", [range a b inclusive, int v] =>
    let (start, length) := extentOf a b inclusive
    writeBits n (Int64.ofNat start) length v
  | _, _ => none

/-- The failure of a step that leads nowhere. -/
def noStep : Answer :=
  some (.error (.inCall "range" (.plain (.arithmetic "step value cannot be zero") none) none))

/-- Whole numbers a step apart. -/
def intSteps (first limit step : Int64) : Answer :=
  match Stream.steps? first limit step with
  | some s => gives (.stream s)
  | none => noStep

/-- Functions on a whole number. -/
def intFunction? (n : Int64) (name : String) (args : List Datum) : Answer :=
  match args with
  | [] =>
    match name with
    | "abs" =>
      if n = Int64.minValue then fails (negationOverflow n)
      else gives (.int (Int64.ofInt n.toInt.natAbs))
    | "sign" => gives (.int (if n < 0 then -1 else if n = 0 then 0 else 1))
    | "is_zero" => gives (.bool (n = 0))
    | "is_odd" => gives (.bool (n % 2 ≠ 0))
    | "is_even" => gives (.bool (n % 2 = 0))
    | "to_int" => gives (.int n)
    | "to_float" => gives (.float (Decimal.nearest n))
    | "to_hex" => gives (digitsIn 16 n)
    | "to_octal" => gives (digitsIn 8 n)
    | "to_binary" => gives (digitsIn 2 n)
    | "blob" => gives (.blob (List.replicate (lengthOf n) 0))
    | _ => bitFunction? n name []
  | [int m] =>
    match name with
    | "max" => gives (.int (if m ≤ n then n else m))
    | "min" => gives (.int (if n ≤ m then n else m))
    | "range" => gives (.range n m false)
    | "blob" => gives (.blob (List.replicate (lengthOf n) (UInt8.ofNat (m.toUInt64.toNat % 256))))
    | _ => bitFunction? n name [int m]
  | [int m, int step] => if name = "range" then intSteps n m step else bitFunction? n name args
  | args => bitFunction? n name args

/-! ### Floating-point numbers -/

/-- The text of a number in a message: positional, and without a point when it is whole. -/
def messageLayout : Decimal.Layout := { positionalLayout with pointZero := false }

/-- A floating-point number cut to a whole one. -/
def wholeOf (x : Float) : Answer :=
  if 9223372036854775807.0 < x || x < -9223372036854775808.0 then
    wrong ("Integer overflow: to_int(" ++ messageLayout.render x ++ ")")
  else if x.isNaN then gives (.int 0)
  else gives (.int (Decimal.truncate x))

/-- A number without its fraction. -/
def wholePart (x : Float) : Float := if x < 0.0 then x.ceil else x.floor

/-- Functions on a floating-point number. -/
def floatFunction? (x : Float) (name : String) (args : List Datum) : Answer :=
  match args with
  | [] =>
    match name with
    | "abs" => gives (.float x.abs)
    | "sign" =>
      if x.isNaN then wrong "Sign of NaN is undefined"
      else gives (.int (if x < 0.0 then -1 else if x == 0.0 then 0 else 1))
    | "is_zero" => gives (.bool (x == 0.0))
    | "floor" => gives (.float x.floor)
    | "ceiling" => gives (.float x.ceil)
    | "round" => gives (.float x.round)
    | "int" => gives (.float (wholePart x))
    | "fraction" => gives (.float (x - wholePart x))
    | "is_nan" => gives (.bool x.isNaN)
    | "is_finite" => gives (.bool x.isFinite)
    | "is_infinite" => gives (.bool x.isInf)
    | "to_int" => wholeOf x
    | "sqrt" => gives (.float x.sqrt)
    | "exp" => gives (.float x.exp)
    | "ln" => gives (.float x.log)
    | "log" => gives (.float x.log10)
    | "sin" => gives (.float x.sin)
    | "cos" => gives (.float x.cos)
    | "tan" => gives (.float x.tan)
    | "sinh" => gives (.float x.sinh)
    | "cosh" => gives (.float x.cosh)
    | "tanh" => gives (.float x.tanh)
    | "asin" => gives (.float x.asin)
    | "acos" => gives (.float x.acos)
    | "atan" => gives (.float x.atan)
    | "asinh" => gives (.float x.asinh)
    | "acosh" => gives (.float x.acosh)
    | "atanh" => gives (.float x.atanh)
    | "to_degrees" => gives (.float (x * (180.0 / 3.141592653589793)))
    | "to_radians" => gives (.float (x * (3.141592653589793 / 180.0)))
    | _ => none
  | [float y] =>
    match name with
    | "max" => gives (.float (if x ≥ y then x else y))
    | "min" => gives (.float (if x ≤ y then x else y))
    | "log" => gives (.float (x.log / y.log))
    | "atan" => gives (.float (Float.atan2 x y))
    | "hypot" => gives (.float (x * x + y * y).sqrt)
    | _ => none
  | [float y, float step] =>
    if name = "range" then
      match Stream.floatSteps? x y step with
      | some s => gives (.stream s)
      | none => noStep
    else none
  | _ => none

/-- Functions on a whole number beside a floating-point one. -/
def mixedFunction? (x : Float) (name : String) (y : Float) : Answer :=
  match name with
  | "max" => floatFunction? x name [float y]
  | "min" => floatFunction? x name [float y]
  | _ => none

/-- The functions that change a whole number. -/
def intChanges : List String := ["set_bit", "set_bits"]

end Workflow.Script

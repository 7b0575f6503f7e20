import Workflow.Text.Blank

/-!
# Numbers read from text

The grammars of the numbers that texts may hold: signed integers, indices, and floating-point
numbers with an optional point and exponent. A floating-point text is rounded once, to nearest, and
so is an integer that is taken as a floating-point number.

## Main definitions

* `Workflow.Decimal.int?` — a signed integer.
* `Workflow.Decimal.index?` — a position in a list.
* `Workflow.Decimal.float?` — a floating-point number.
* `Workflow.Decimal.nearest` — the floating-point number nearest to an integer.
-/

namespace Workflow.Decimal

/-- An ASCII decimal digit. -/
def isDigit (c : Char) : Bool := '0' ≤ c && c ≤ '9'

/-- The value of an ASCII decimal digit. -/
def digitValue (c : Char) : Nat := c.toNat - '0'.toNat

/-- The value of a sequence of digits, most significant first. -/
def digitsValue (cs : List Char) : Nat := cs.foldl (fun n c => 10 * n + digitValue c) 0

/-- A non-empty sequence of digits and nothing else. -/
def nat? (cs : List Char) : Option Nat :=
  if cs ≠ [] ∧ cs.all isDigit then some (digitsValue cs) else none

/-- A sign, if one is there, and the characters behind it. -/
def splitSign : List Char → Bool × List Char
  | '-' :: cs => (true, cs)
  | '+' :: cs => (false, cs)
  | cs => (false, cs)

/-- An integer with an optional sign. -/
def int? (s : String) : Option Int :=
  match splitSign s.toList with
  | (true, cs) => (nat? cs).map fun n => -(n : Int)
  | (false, cs) => (nat? cs).map fun n => (n : Int)

/-- An integer with an optional sign in the range of 64 signed bits. -/
def int64? (s : String) : Option Int64 :=
  (int? s).bind fun n =>
    if -(Nat.pow 2 63 : Int) ≤ n ∧ n < Nat.pow 2 63 then some (Int64.ofInt n) else none

/-- A natural below `2 ^ bits`, with an optional plus sign. -/
def unsigned? (bits : Nat) (s : String) : Option Nat :=
  let cs := match s.toList with
    | '+' :: cs => cs
    | cs => cs
  (nat? cs).bind fun n => if n < Nat.pow 2 bits then some n else none

/-- A position in a list: a natural of 64 bits with an optional plus sign. -/
def index? (s : String) : Option Nat := unsigned? 64 s

/-- The number `digits · 10 ^ exponent`, rounded to nearest. Exponents that can only give zero or
infinity are answered without forming the power. -/
def scaled (digits : Nat) (exponent : Int) : Float :=
  if digits = 0 then 0.0
  else
    let lead := exponent + (Nat.toDigits 10 digits).length
    if lead < -400 then 0.0
    else if 400 < lead then 1.0 / 0.0
    else Float.ofScientific digits (exponent < 0) exponent.natAbs

/-- An exponent part: a mark, an optional sign and at least one digit; or nothing. -/
def exponent? : List Char → Option Int
  | [] => some 0
  | c :: cs =>
    if c = 'e' ∨ c = 'E' then
      let (negative, ds) := splitSign cs
      (nat? ds).map fun n => if negative then -(n : Int) else n
    else none

/-- Digits with an optional point on either side and an optional exponent. -/
def unsignedFloat? (cs : List Char) : Option Float :=
  let whole := cs.takeWhile isDigit
  let rest := cs.dropWhile isDigit
  let (fraction, rest) := match rest with
    | '.' :: rest => (rest.takeWhile isDigit, rest.dropWhile isDigit)
    | _ => ([], rest)
  if whole = [] ∧ fraction = [] then none
  else (exponent? rest).map fun e => scaled (digitsValue (whole ++ fraction)) (e - fraction.length)

/-- A floating-point number: an optional sign, then digits, or one of the names `inf`, `infinity`
and `nan` in any case. -/
def float? (s : String) : Option Float :=
  let (negative, cs) := splitSign s.toList
  let name := String.ofList (cs.map Char.toLower)
  let magnitude :=
    if name = "inf" ∨ name = "infinity" then some (1.0 / 0.0)
    else if name = "nan" then some (0.0 / 0.0)
    else unsignedFloat? cs
  magnitude.map fun x => if negative then -x else x

/-- The integer next to a number in the direction of zero, held to 64 signed bits; the integer of
what is not a number is zero. -/
def truncate (x : Float) : Int64 := x.toInt64

/-- The floating-point number nearest to an integer, of two that are equally near the one with the
even mantissa. -/
def nearest (n : Int64) : Float :=
  let magnitude := (UInt64.ofNat n.toInt.natAbs).toFloat
  if n.toInt < 0 then -magnitude else magnitude

end Workflow.Decimal

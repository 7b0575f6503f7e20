import Workflow.Decimal.Shortest

/-!
# Written forms of numbers

How a floating-point number is laid out once its digits are chosen: which magnitudes are written
positionally, whether an integral value keeps a point, how an exponent is signed, and the texts of
the values that have no digits. The decisions are fields of one record, so that each document format
of the library states its own.

## Main definitions

* `Workflow.Decimal.Layout` — the decisions of a format.
* `Workflow.Decimal.Layout.render` — the text of a number in that format.
-/

namespace Workflow.Decimal

/-- The decisions of a written form of floating-point numbers. -/
structure Layout where
  /-- The exponents of the leading digit that are written without an exponent part. -/
  positional : Int → Bool
  /-- An integral number keeps a point and a zero. -/
  pointZero : Bool
  /-- A positive exponent carries its sign. -/
  plusExponent : Bool
  /-- Zero keeps its sign. -/
  signedZero : Bool
  tie : Tie
  nan : String
  infinity : String

/-- The decimal digits of a natural. -/
def digitsOf (n : Nat) : List Char := Nat.toDigits 10 n

/-- The decimal integer text of a natural. -/
def natText (n : Nat) : String := String.ofList (digitsOf n)

/-- The decimal integer text of an integer, with a sign when it is negative. -/
def intText (n : Int) : String :=
  if n < 0 then "-" ++ natText n.natAbs else natText n.natAbs

namespace Layout

variable (f : Layout)

/-- The digits with the point at its place, for a decimal without an exponent part. -/
def positionalText (d : Numeral) : List Char :=
  let ds := digitsOf d.digits
  if 0 ≤ d.exponent then
    ds ++ List.replicate d.exponent.toNat '0' ++ (if f.pointZero then ['.', '0'] else [])
  else
    let places := (-d.exponent).toNat
    if places < ds.length then
      ds.take (ds.length - places) ++ '.' :: ds.drop (ds.length - places)
    else
      '0' :: '.' :: (List.replicate (places - ds.length) '0' ++ ds)

/-- The leading digit, the others behind a point, and the exponent of the leading digit. -/
def exponentText (d : Numeral) (lead : Int) : List Char :=
  let mantissa := match digitsOf d.digits with
    | [] => []
    | [c] => [c]
    | c :: ds => c :: '.' :: ds
  let sign := if lead < 0 then ['-'] else if f.plusExponent then ['+'] else []
  mantissa ++ 'e' :: sign ++ digitsOf lead.natAbs

/-- The text of a decimal without a sign. -/
def magnitude (d : Numeral) : String :=
  let lead := d.exponent + (digitsOf d.digits).length - 1
  String.ofList (if f.positional lead then f.positionalText d else f.exponentText d lead)

/-- The text of a number. -/
def render (x : Float) : String :=
  if x.isNaN then f.nan
  else
    let negative := x.toBits >>> 63 = 1 && (f.signedZero || x != 0.0)
    let sign := if negative then "-" else ""
    if x.isInf then sign ++ f.infinity
    else sign ++ f.magnitude ((Binary.ofBits x.toBits).shortest f.tie)

end Layout

end Workflow.Decimal

/-!
# The fewest digits that read back, and remainders

A finite binary floating-point number `m · 2^q` stands for the interval of reals that round to it,
ends included exactly when `m` is even. This module selects, among the decimals in that interval,
one with the fewest digits and, of those, the nearest to the number. The test and the search are
exact arithmetic on naturals. So is the remainder that a division rounded toward zero leaves, with
the sign of the dividend: it is always a floating-point number.

## Main definitions

* `Workflow.Decimal.Binary` — a finite non-negative number `m · 2^q`.
* `Workflow.Decimal.Binary.readsBack` — a decimal lies in the interval of the number.
* `Workflow.Decimal.Binary.shortest` — the decimal that is selected.
* `Workflow.Decimal.remainder` — the remainder of a division.
-/

namespace Workflow.Decimal

/-- A finite non-negative binary number `mantissa · 2 ^ exponent`. -/
structure Binary where
  mantissa : Nat
  exponent : Int
  /-- The gap to the number below is half the gap to the number above. -/
  narrowBelow : Bool

/-- The number that the bits of a finite double stand for, its sign left out. -/
def Binary.ofBits (b : UInt64) : Binary :=
  let e := ((b >>> 52) &&& 0x7FF).toNat
  let f := (b &&& 0xFFFFFFFFFFFFF).toNat
  if e = 0 then ⟨f, -1074, false⟩ else ⟨Nat.pow 2 52 + f, (e : Int) - 1075, f = 0 && 1 < e⟩

/-- The decimal `digits · 10 ^ exponent`. -/
structure Numeral where
  digits : Nat
  exponent : Int
deriving Repr, DecidableEq

/-- What becomes of a number exactly between two candidates. -/
inductive Tie where
  | toEven
  | awayFromZero
deriving Repr, DecidableEq

/-- Compares `a · 10^i` with `n · 2^j`, exactly. -/
def compareScaled (a : Nat) (i : Int) (n : Nat) (j : Int) : Ordering :=
  compare (a * Nat.pow 10 i.toNat * Nat.pow 2 (-j).toNat)
    (n * Nat.pow 2 j.toNat * Nat.pow 10 (-i).toNat)

namespace Binary

variable (x : Binary)

/-- The decimal lies among the reals that round to the number, ties going to an even mantissa. -/
def readsBack (d : Numeral) : Bool :=
  let below := if x.narrowBelow then 4 * x.mantissa - 1 else 4 * x.mantissa - 2
  let above := 4 * x.mantissa + 2
  let closed := x.mantissa % 2 = 0
  let lo := compareScaled d.digits d.exponent below (x.exponent - 2)
  let hi := compareScaled d.digits d.exponent above (x.exponent - 2)
  (lo = .gt || (closed && lo = .eq)) && (hi = .lt || (closed && hi = .eq))

/-- The number is less than `10 ^ k`. -/
def below (k : Int) : Bool := compareScaled 1 k x.mantissa x.exponent = .gt

/-- The least `k` such that the number is less than `10 ^ k`, for a number other than zero. The
binary logarithm gives an estimate from below that at most three steps correct. -/
def scale : Int :=
  let k := ((x.mantissa.log2 : Int) + x.exponent) * 30103 / 100000
  ([k - 1, k, k + 1].find? x.below).getD (k + 2)

/-- The number divided by `10 ^ e`, rounded down. -/
def floorAt (e : Int) : Nat :=
  (x.mantissa * Nat.pow 2 x.exponent.toNat * Nat.pow 10 (-e).toNat) /
    (Nat.pow 2 (-x.exponent).toNat * Nat.pow 10 e.toNat)

/-- Of the two neighbours of the number on the grid of step `10 ^ e`, the nearer one that reads
back, if any does. -/
def onGrid? (tie : Tie) (e : Int) : Option Numeral :=
  let n := x.floorAt e
  let lo : Numeral := ⟨n, e⟩
  let hi : Numeral := ⟨n + 1, e⟩
  match x.readsBack lo, x.readsBack hi with
  | false, false => none
  | true, false => some lo
  | false, true => some hi
  | true, true =>
    match compareScaled (2 * n + 1) e (2 * x.mantissa) x.exponent, tie with
    | .gt, _ => some lo
    | .lt, _ => some hi
    | .eq, .awayFromZero => some hi
    | .eq, .toEven => if n % 2 = 0 then some lo else some hi

/-- The exact decimal value of the number. -/
def exact : Numeral :=
  if 0 ≤ x.exponent then ⟨x.mantissa * Nat.pow 2 x.exponent.toNat, 0⟩
  else ⟨x.mantissa * Nat.pow 5 (-x.exponent).toNat, x.exponent⟩

end Binary

/-- Moves up to `fuel` trailing zeros of the digits into the exponent. -/
def Numeral.strip : Nat → Numeral → Numeral
  | 0, d => d
  | fuel + 1, d =>
    if d.digits ≠ 0 ∧ d.digits % 10 = 0 then strip fuel ⟨d.digits / 10, d.exponent + 1⟩ else d

/-- The decimal with the fewest digits that reads back as the number; zero has the digit 0. -/
def Binary.shortest (tie : Tie) (x : Binary) : Numeral :=
  if x.mantissa = 0 then ⟨0, 0⟩
  else
    let k := x.scale
    let found := (List.range 17).findSome? fun (n : Nat) => x.onGrid? tie (k - (n + 1))
    Numeral.strip 400 (found.getD x.exact)

/-! ### The remainder of a division -/

/-- The remainder of two positive finite numbers. -/
def Binary.remainder (x y : Binary) : Float :=
  let e := min x.exponent y.exponent
  let a := x.mantissa * Nat.pow 2 (x.exponent - e).toNat
  let b := y.mantissa * Nat.pow 2 (y.exponent - e).toNat
  Float.scaleB (Float.ofNat (a % b)) e

/-- The remainder of a division. There is none of an infinite dividend or by zero; a finite number
divided by an infinite one is its own remainder. -/
def remainder (x y : Float) : Float :=
  if x.isNaN || y.isNaN || x.isInf || y == 0.0 then 0.0 / 0.0
  else if y.isInf || x == 0.0 || x.abs < y.abs then x
  else
    let r := (Binary.ofBits x.abs.toBits).remainder (Binary.ofBits y.abs.toBits)
    if x < 0.0 then -r else r

end Workflow.Decimal

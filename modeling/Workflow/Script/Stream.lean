import Workflow.Decimal.Layout

/-!
# Streams

Sequences that loops go through item by item, and that can be had in no other way: numbers a step
apart, the characters of a text, and the bits of a whole number.

## Main definitions

* `Workflow.Script.Stream` — the streams.
* `Workflow.Script.Stream.steps?`, `Workflow.Script.Stream.floatSteps?` — numbers a step apart,
  unless the step leads nowhere.
-/

namespace Workflow.Script

/-- Items to go through. -/
inductive Stream where
  /-- Whole numbers from the next one on that lie before a limit, upwards or downwards. -/
  | steps (next limit step : Int64) (upwards : Bool)
  /-- Floating-point numbers from the next one on that lie before a limit. -/
  | floatSteps (next limit step : Float) (upwards : Bool)
  | characters (left : List Char)
  /-- The lowest bits of a number, as many as are left. -/
  | bits (number : UInt64) (left : Nat)
  | nothing
deriving Inhabited

/-- An item of a stream. -/
inductive StreamItem where
  | int (n : Int64)
  | float (x : Float)
  | char (c : Char)
  | bit (b : Bool)

/-- The sum of two whole numbers, if it is in range. -/
def sum? (a b : Int64) : Option Int64 :=
  let n := a.toInt + b.toInt
  if -(Nat.pow 2 63 : Int) ≤ n ∧ n < Nat.pow 2 63 then some (Int64.ofInt n) else none

namespace Stream

/-- Whole numbers a step apart; a step of zero gives none. What leaves the range of numbers at once
has no items. -/
def steps? (first limit step : Int64) : Option Stream :=
  if step = 0 then none
  else if (sum? first step).isNone then some nothing
  else some (steps first limit step (decide (0 < step)))

/-- Floating-point numbers a step apart; a step that does not move the first one gives none. -/
def floatSteps? (first limit step : Float) : Option Stream :=
  if first + step == first then none
  else if first < first + step then some (floatSteps first limit step true)
  else if first + step < first then some (floatSteps first limit step false)
  else some nothing

/-- The next item, and the stream behind it. A number has its turn only when the number behind it is
in range. -/
def next? : Stream → Option (StreamItem × Stream)
  | steps n limit step up =>
    match sum? n step with
    | none => none
    | some m =>
      if (up && decide (n < limit)) || (!up && decide (limit < n)) then
        some (.int n, steps m limit step up)
      else none
  | floatSteps x limit step up =>
    if (up && x < limit) || (!up && limit < x) then
      some (.float x, floatSteps (x + step) limit step up)
    else none
  | characters (c :: cs) => some (.char c, characters cs)
  | characters [] => none
  | bits n (left + 1) => some (.bit (n &&& 1 == 1), bits (n >>> 1) left)
  | bits _ 0 => none
  | nothing => none

/-- The name of the type of a stream. -/
def typeName : Stream → String
  | steps _ _ _ _ => "packages::iter_basic::StepRange<i64>"
  | floatSteps _ _ _ _ => "packages::iter_basic::StepRange<f64>"
  | characters _ => "packages::iter_basic::CharsStream"
  | bits _ _ => "packages::iter_basic::BitRange"
  | nothing => "packages::iter_basic::StepRange<i64>"

end Stream

end Workflow.Script

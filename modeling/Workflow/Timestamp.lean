import Workflow.Decimal.Layout
import Workflow.Decimal.Reading

/-!
# Timestamps

Points in time of the proleptic Gregorian calendar, as seconds since 1970 and nanoseconds, and their
written form: date, `T`, time with an optional fraction, offset. A timestamp is written in universal
time with `Z` and a fraction of zero, three, six or nine digits. The reader is lenient: a space may
stand for the `T`, digits may be missing on the left, and white space may stand between the parts.

## Main definitions

* `Workflow.Timestamp` — a point in time.
* `Workflow.Timestamp.ofText?`, `Workflow.Timestamp.text` — the written form.
-/

namespace Workflow

/-- A point in time; nanoseconds of `10^9` and more are those of a leap second. -/
structure Timestamp where
  seconds : Int
  nanos : Nat
deriving DecidableEq, Repr, Inhabited

namespace Timestamp

/-- The days since the first of January 1970 of a date. -/
def daysOfDate (year : Int) (month day : Nat) : Int :=
  let y := if month ≤ 2 then year - 1 else year
  let era := y.fdiv 400
  let yoe := y - era * 400
  let shifted : Int := if 2 < month then month - 3 else month + 9
  let doy := (153 * shifted + 2).fdiv 5 + day - 1
  let doe := yoe * 365 + yoe.fdiv 4 - yoe.fdiv 100 + doy
  era * 146097 + doe - 719468

/-- The date of a number of days since the first of January 1970: year, month and day. -/
def dateOfDays (days : Int) : Int × Nat × Nat :=
  let z := days + 719468
  let era := z.fdiv 146097
  let doe := z - era * 146097
  let yoe := (doe - doe.fdiv 1460 + doe.fdiv 36524 - doe.fdiv 146096).fdiv 365
  let doy := doe - (365 * yoe + yoe.fdiv 4 - yoe.fdiv 100)
  let mp := (5 * doy + 2).fdiv 153
  let day := doy - (153 * mp + 2).fdiv 5 + 1
  let month := if mp < 10 then mp + 3 else mp - 9
  let year := yoe + era * 400 + (if month ≤ 2 then 1 else 0)
  (year, month.toNat, day.toNat)

/-- The year has a twenty-ninth of February. -/
def isLeapYear (year : Int) : Bool :=
  year.fmod 4 = 0 && (year.fmod 100 != 0 || year.fmod 400 = 0)

/-- The number of days of a month. -/
def daysInMonth (year : Int) : Nat → Nat
  | 2 => if isLeapYear year then 29 else 28
  | 4 | 6 | 9 | 11 => 30
  | _ => 31

/-- A natural in at least `width` digits. -/
def padded (width n : Nat) : String :=
  let ds := Decimal.digitsOf n
  String.ofList (List.replicate (width - ds.length) '0' ++ ds)

/-- A year in four digits, with a sign when they do not suffice. -/
def yearText (year : Int) : String :=
  if 0 ≤ year ∧ year ≤ 9999 then padded 4 year.toNat
  else (if year < 0 then "-" else "+") ++ padded 4 year.natAbs

/-- A fraction of a second in three, six or nine digits; none for whole seconds. -/
def fractionText (nanos : Nat) : String :=
  if nanos = 0 then ""
  else if nanos % 1000000 = 0 then "." ++ padded 3 (nanos / 1000000)
  else if nanos % 1000 = 0 then "." ++ padded 6 (nanos / 1000)
  else "." ++ padded 9 nanos

/-- The written form in universal time. -/
def text (t : Timestamp) : String :=
  let days := t.seconds.fdiv 86400
  let time := (t.seconds.fmod 86400).toNat
  let (year, month, day) := dateOfDays days
  let leap := t.nanos / 1000000000
  let second := time % 60 + leap
  yearText year ++ "-" ++ padded 2 month ++ "-" ++ padded 2 day ++ "T" ++ padded 2 (time / 3600) ++
    ":" ++ padded 2 (time / 60 % 60) ++ ":" ++ padded 2 second ++
    fractionText (t.nanos % 1000000000) ++ "Z"

/-- Digits, at least one and at most `most`, behind optional white space. -/
def digits? (most : Nat) (cs : List Char) : Option (Nat × List Char) :=
  let cs := Text.trimFront cs
  let ds := (cs.take most).takeWhile Decimal.isDigit
  if ds = [] then none else some (Decimal.digitsValue ds, cs.drop ds.length)

/-- A character behind optional white space. -/
def mark? (c : Char) (cs : List Char) : Option (List Char) :=
  match Text.trimFront cs with
  | d :: rest => if c = d then some rest else none
  | [] => none

/-- A year: four digits at most, or any number behind a sign. -/
def year? (cs : List Char) : Option (Int × List Char) :=
  match Text.trimFront cs with
  | '-' :: rest => signedYear rest fun n => -(n : Int)
  | '+' :: rest => signedYear rest fun n => (n : Int)
  | cs => (digits? 4 cs).map fun (n, rest) => ((n : Int), rest)
where
  /-- The digits behind a sign. -/
  signedYear (cs : List Char) (f : Nat → Int) : Option (Int × List Char) :=
    if cs.head?.any Decimal.isDigit then
      (digits? cs.length cs).map fun (n, rest) => (f n, rest)
    else none

/-- The first nine digits of a fraction, the others passed over. -/
def fraction? (cs : List Char) : Option (Nat × List Char) :=
  match cs with
  | '.' :: rest =>
    let ds := rest.takeWhile Decimal.isDigit
    let used := ds.take 9
    if ds = [] then none
    else
      some (Decimal.digitsValue used * Nat.pow 10 (9 - used.length),
        rest.dropWhile Decimal.isDigit)
  | cs => some (0, cs)

/-- Two digits of an offset, the first below a bound. -/
def offsetPair? (firstBelow : Nat) (cs : List Char) : Option (Nat × List Char) :=
  match cs with
  | a :: b :: rest =>
    if Decimal.isDigit a ∧ Decimal.isDigit b ∧ Decimal.digitValue a < firstBelow then
      some (10 * Decimal.digitValue a + Decimal.digitValue b, rest)
    else none
  | _ => none

/-- The offset from universal time in seconds: `Z`, `UTC`, or a sign with hours and minutes. -/
def offset? (cs : List Char) : Option (Int × List Char) :=
  let amount (sign : Int) (rest : List Char) : Option (Int × List Char) := do
    let (hours, rest) ← offsetPair? 10 rest
    let rest := rest.dropWhile fun c => c = ':' || Text.isBlank c
    let (minutes, rest) ← offsetPair? 6 rest
    some (sign * (hours * 3600 + minutes * 60 : Nat), rest)
  match Text.trimFront cs with
  | '+' :: rest => amount 1 rest
  | '-' :: rest => amount (-1) rest
  | '−' :: rest => amount (-1) rest
  | cs =>
    if (cs.take 3).map Char.toUpper = ['U', 'T', 'C'] then some (0, cs.drop 3)
    else
      match cs with
      | 'Z' :: rest => some (0, rest)
      | 'z' :: rest => some (0, rest)
      | _ => none

/-- The calendar has the day, counted from the first of January 1970. -/
def hasDay (days : Int) : Bool :=
  daysOfDate (-262143) 1 1 ≤ days && days ≤ daysOfDate 262142 12 31

/-- The point in time of a date, a time of day and an offset, if the calendar has both the date and
the day in universal time. -/
def ofParts? (year : Int) (month day hour minute second nanos : Nat) (offset : Int) :
    Option Timestamp :=
  if -262143 ≤ year ∧ year ≤ 262142 ∧ 1 ≤ month ∧ month ≤ 12 ∧ 1 ≤ day ∧
      day ≤ daysInMonth year month ∧ hour < 24 ∧ minute < 60 ∧ second ≤ 60 ∧
      -86400 < offset ∧ offset < 86400 then
    let leap := second / 60
    let seconds := daysOfDate year month day * 86400 +
      (hour * 3600 + minute * 60 + (second - leap) : Nat) - offset
    if hasDay (seconds.fdiv 86400) then some ⟨seconds, nanos + leap * 1000000000⟩ else none
  else none

/-- The point in time that a text writes. -/
def ofText? (s : String) : Option Timestamp := do
  let (year, cs) ← year? s.toList
  let (month, cs) ← digits? 2 (← mark? '-' cs)
  let (day, cs) ← digits? 2 (← mark? '-' cs)
  let cs ← match cs with
    | 't' :: rest => some rest
    | 'T' :: rest => some rest
    | ' ' :: rest => some rest
    | _ => none
  let (hour, cs) ← digits? 2 cs
  let (minute, cs) ← digits? 2 (← mark? ':' cs)
  let (second, cs) ← digits? 2 (← mark? ':' cs)
  let (nanos, cs) ← fraction? cs
  let (offset, cs) ← offset? cs
  if Text.trimFront cs = [] then ofParts? year month day hour minute second nanos offset else none

end Timestamp

end Workflow

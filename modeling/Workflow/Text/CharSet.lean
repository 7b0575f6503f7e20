/-!
# Sets of characters

A set of code points is kept as the ascending places where membership changes: from the first place
on code points are in, from the second on out, and so forth. Union, intersection and difference are
one sweep over the changes of two sets, and a table of ranges is read from its written form.

## Main definitions

* `Workflow.Text.CharSet` — a set, and `Workflow.Text.CharSet.mem` its members.
* `Workflow.Text.CharSet.combine` — a set operation given by its truth table.
* `Workflow.Text.CharSet.ofRanges`, `Workflow.Text.CharSet.ranges` — sets and their ranges.
* `Workflow.Text.CharSet.ofText` — the set of a table.
-/

namespace Workflow.Text

/-- The number of entries at the front of an array that pass a test, when no entry behind one that
fails it passes. -/
def countFront {α : Type} (passes : α → Bool) (xs : Array α) : Nat :=
  go xs.size 0 xs.size
where
  /-- The first entry from `lo` on and below `hi` that fails the test. -/
  go : Nat → Nat → Nat → Nat
    | 0, lo, _ => lo
    | fuel + 1, lo, hi =>
      if hi ≤ lo then lo
      else
        let middle := (lo + hi) / 2
        if xs[middle]?.any passes then go fuel (middle + 1) hi else go fuel lo middle

/-- A set of code points: the ascending places where membership changes. -/
structure CharSet where
  changes : Array Nat
deriving DecidableEq, Repr, Inhabited

namespace CharSet

/-- A code point belongs to a set when an odd number of changes lie at or before it. -/
def contains (s : CharSet) (n : Nat) : Bool := countFront (· ≤ n) s.changes % 2 = 1

/-- A character belongs to a set. -/
def mem (s : CharSet) (c : Char) : Bool := s.contains c.toNat

/-- The set without members. -/
def none : CharSet := ⟨#[]⟩

/-- The set of all characters. -/
def any : CharSet := ⟨#[0]⟩

/-- The code points from `lo` to `hi`. -/
def range (lo hi : Nat) : CharSet :=
  if hi < lo then none else if hi < 0x10FFFF then ⟨#[lo, hi + 1]⟩ else ⟨#[lo]⟩

/-- The set of one character. -/
def single (c : Char) : CharSet := range c.toNat c.toNat

/-- The places where a set operation changes its outcome, behind a place where the operands have the
values `a` and `b`, for the operands' own changes. -/
def sweep (op : Bool → Bool → Bool) (a b : Bool) : List Nat → List Nat → List Nat
  | [], [] => []
  | x :: xs, [] => step x (op a b) (op (!a) b) (sweep op (!a) b xs [])
  | [], y :: ys => step y (op a b) (op a (!b)) (sweep op a (!b) [] ys)
  | x :: xs, y :: ys =>
    if x < y then step x (op a b) (op (!a) b) (sweep op (!a) b xs (y :: ys))
    else if y < x then step y (op a b) (op a (!b)) (sweep op a (!b) (x :: xs) ys)
    else step x (op a b) (op (!a) (!b)) (sweep op (!a) (!b) xs ys)
termination_by xs ys => xs.length + ys.length
where
  /-- A place belongs to the changes when the values before and behind it differ. -/
  step (place : Nat) (before behind : Bool) (rest : List Nat) : List Nat :=
    if before = behind then rest else place :: rest

/-- The code points for which `op` accepts the memberships in two sets; `op` rejects those that are
in neither. -/
def combine (op : Bool → Bool → Bool) (s t : CharSet) : CharSet :=
  ⟨(sweep op false false s.changes.toList t.changes.toList).toArray⟩

/-- The members of either set. -/
def union (s t : CharSet) : CharSet := combine (· || ·) s t

/-- The members of both sets. -/
def inter (s t : CharSet) : CharSet := combine (· && ·) s t

/-- The members of the first set that are not in the second. -/
def diff (s t : CharSet) : CharSet := combine (fun a b => a && !b) s t

/-- The members of just one of two sets. -/
def symmDiff (s t : CharSet) : CharSet := combine (· != ·) s t

/-- The characters that are not in a set. -/
def complement (s : CharSet) : CharSet := diff any s

/-- The union of sets, halved until one is left. -/
def unions (sets : List CharSet) : CharSet := go sets.length sets
where
  /-- Unites neighbours, `fuel` times at most. -/
  go : Nat → List CharSet → CharSet
    | _, [] => none
    | _, [s] => s
    | 0, s :: _ => s
    | fuel + 1, sets => go fuel (pairs sets)
  /-- The unions of neighbours. -/
  pairs : List CharSet → List CharSet
    | s :: t :: rest => union s t :: pairs rest
    | rest => rest

/-- The union of ranges. -/
def ofRanges (ranges : List (Nat × Nat)) : CharSet := unions (ranges.map fun r => range r.1 r.2)

/-- The set of some code points. -/
def ofCodes (codes : List Nat) : CharSet := ofRanges (codes.map fun n => (n, n))

/-- The ranges of a set, ascending and apart. -/
def ranges (s : CharSet) : List (Nat × Nat) := go s.changes.toList
where
  /-- The ranges between changes, the first of which opens one. -/
  go : List Nat → List (Nat × Nat)
    | [] => []
    | [lo] => [(lo, 0x10FFFF)]
    | lo :: stop :: rest => (lo, stop - 1) :: go rest

/-- The members of a set, ascending. -/
def members (s : CharSet) : List Nat :=
  s.ranges.flatMap fun r => (List.range (r.2 + 1 - r.1)).map (r.1 + ·)

/-- The value of a hexadecimal digit. -/
def hexValue (c : Char) : Nat :=
  if c.isDigit then c.toNat - '0'.toNat else c.toUpper.toNat - 'A'.toNat + 10

/-- The ranges written in characters, with a blank between two of them: `first` is the start of the
open range when its hyphen has been read, and `n` the number read so far. -/
def readRanges (first : Option Nat) (n : Nat) : List Char → List (Nat × Nat)
  | [] => [(first.getD n, n)]
  | c :: rest =>
    if c = ' ' then (first.getD n, n) :: readRanges .none 0 rest
    else if c = '-' then readRanges (some n) 0 rest
    else readRanges first (16 * n + hexValue c) rest

/-- The set of a table: code points in hexadecimal, each alone or as a range with a hyphen, with
blanks between them, ascending and apart. -/
def ofText (lines : List String) : CharSet :=
  ⟨(readRanges .none 0 (" ".intercalate lines).toList).flatMap
    (fun r => if r.2 < 0x10FFFF then [r.1, r.2 + 1] else [r.1]) |>.toArray⟩

end CharSet

/-- Values of code points: the ascending places where runs of one value end, with the values. -/
structure Runs (α : Type) where
  ends : Array (Nat × α)

namespace Runs

/-- The value of a code point, if it lies before the end of the last run. -/
def value? {α : Type} (r : Runs α) (n : Nat) : Option α :=
  r.ends[countFront (·.1 ≤ n) r.ends]?.map Prod.snd

/-- The code points whose values pass a test. -/
def those {α : Type} (r : Runs α) (passes : α → Bool) : CharSet :=
  ⟨(go false 0 r.ends.toList).toArray⟩
where
  /-- The changes from a place on where the values before it were `inside` the set or not. -/
  go (inside : Bool) (start : Nat) : List (Nat × α) → List Nat
    | [] => []
    | (stop, v) :: rest =>
      if passes v = inside then go inside stop rest else start :: go (!inside) stop rest

/-- Reads the runs written in characters: the length of a run in hexadecimal digits, left out when
it is one, and its value, written by a capital and `width` further letters. -/
def read {α : Type} (value? : String → Option α) (width : Nat) :
    Nat → Nat → List Char → List (Nat × α)
  | _, _, [] => []
  | start, n, c :: rest =>
    if c.isUpper then
      let stop := start + max n 1
      match value? (String.ofList (c :: rest.take width)) with
      | some v => (stop, v) :: read value? width stop 0 (rest.drop width)
      | none => read value? width stop 0 (rest.drop width)
    else read value? width start (16 * n + CharSet.hexValue c) rest
termination_by _ _ cs => cs.length
decreasing_by
  all_goals
    simp only [List.length_cons, List.length_drop]
    omega

/-- The runs of a table. -/
def ofText {α : Type} (value? : String → Option α) (width : Nat) (lines : List String) : Runs α :=
  ⟨(read value? width 0 0 (String.join lines).toList).toArray⟩

end Runs

end Workflow.Text

import Workflow.Script.Operator

/-!
# Effects of functions

A function on data comes to a value, may change its first argument, and may fail. Places in texts
and arrays are counted from zero, and back from the end when they are negative.

## Main definitions

* `Workflow.Script.Effect` — a value together with what becomes of the first argument.
* `Workflow.Script.place?`, `Workflow.Script.cutPlace`, `Workflow.Script.spanOf` — places and spans.
-/

namespace Workflow.Script

/-- The value of a function, and its first argument if it changes it. -/
structure Effect where
  value : Datum
  receiver : Option Datum

/-- What a function comes to, as far as there is one. -/
abbrev Answer := Option (Except Fault Effect)

namespace Effect

/-- A value. -/
def gives (d : Datum) : Answer := some (.ok ⟨d, none⟩)

/-- A value that may be missing. -/
def givesOr (d : Datum) : Option Datum → Answer
  | some e => gives e
  | none => gives d

/-- Nothing but a change of the first argument. -/
def turns (d : Datum) : Answer := some (.ok ⟨.unit, some d⟩)

/-- A value, with a change of the first argument. -/
def givesAndTurns (value receiver : Datum) : Answer := some (.ok ⟨value, some receiver⟩)

/-- A failure. -/
def fails (c : Cause) : Answer := some (.error (.plain c none))

/-- A value or a failure. -/
def comes (r : Except Cause Datum) : Answer :=
  match r with
  | .ok d => gives d
  | .error c => fails c

/-- A failure of arithmetic. -/
def wrong (message : String) : Answer := fails (.arithmetic message)

end Effect

/-! ### Places -/

/-- A place within a length, counted back from the end when it is negative. -/
def place? (length : Nat) (n : Int64) : Option Nat :=
  let i := n.toInt
  let i := if i < 0 then length + i else i
  if 0 ≤ i ∧ i < length then some i.toNat else none

/-- A place from where something is cut: none lies before the beginning or behind the end. -/
def cutPlace (length : Nat) (n : Int64) : Nat :=
  let i := n.toInt
  let i := if i < 0 then length + i else i
  min i.toNat length

/-- The length that a number stands for. -/
def lengthOf (n : Int64) : Nat := n.toInt.toNat

/-- The first place and the number of items of a range. It does not begin before the beginning, and
does not end before its first place. -/
def extentOf (first last : Int64) (inclusive : Bool) : Nat × Nat :=
  let start := lengthOf first
  let stop := max start (lengthOf last)
  (start, stop - start + if inclusive then 1 else 0)

/-- The first place and the number of items of a range within a length. -/
def spanOf (length : Nat) (first last : Int64) (inclusive : Bool) : Nat × Nat :=
  let (start, n) := extentOf first last inclusive
  let start := min start length
  (start, min n (length - start))

/-- The number of items between places of a range. -/
def rangeLength (first last : Int64) (inclusive : Bool) : Nat :=
  (last.toInt - first.toInt + if inclusive then 1 else 0).toNat

/-- Items cut out of a list. -/
def cutOut {α : Type} (items : List α) (start length : Nat) : List α :=
  (items.drop start).take length

/-- A list without the items cut out. -/
def without {α : Type} (items : List α) (start length : Nat) : List α :=
  items.take start ++ items.drop (start + length)

/-- A list with the items of a span replaced by others. -/
def spliced {α : Type} (items : List α) (start length : Nat) (others : List α) : List α :=
  items.take start ++ others ++ items.drop (start + length)

/-- Items sorted: each is moved forward past those before it that it belongs before. -/
def insertSorted {α : Type} (before : α → α → Bool) (item : α) : List α → List α
  | [] => [item]
  | a :: rest => if before item a then a :: insertSorted before item rest else item :: a :: rest

/-- Items sorted by what belongs before what; items of which neither does keep their order. -/
def sortedBy {α : Type} (before : α → α → Bool) (items : List α) : List α :=
  (items.foldl (fun done item => insertSorted before item done) []).reverse

end Workflow.Script

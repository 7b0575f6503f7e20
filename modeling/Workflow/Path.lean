import Workflow.Decimal.Layout

/-!
# Paths of steps

Where a step stands in the nested step lists of a workflow: its index among the top-level steps, and
for every list that it is nested in a marker and the index in that list. A path is written with
slashes, and so are the markers of iterations and branches before their number.
-/

namespace Workflow

/-- One part of a path. -/
inductive Segment where
  /-- The index of a step in its list. -/
  | step (i : Nat)
  /-- The list of a condition step for an outcome that holds. -/
  | whenTrue
  /-- The list of a condition step for an outcome that does not hold. -/
  | whenFalse
  /-- The list of a loop step, as it stands in the document. -/
  | body
  /-- The list of a loop step in one of its iterations. -/
  | iteration (i : Nat)
  /-- One of the lists of a parallel step. -/
  | branch (i : Nat)
deriving DecidableEq, Repr, Inhabited

/-- The written form of a part of a path. -/
def Segment.text : Segment → String
  | step i => Decimal.natText i
  | whenTrue => "then"
  | whenFalse => "else"
  | body => "steps"
  | iteration i => "iter/" ++ Decimal.natText i
  | branch i => "branch/" ++ Decimal.natText i

/-- Where a step stands, from the top-level list down. -/
abbrev Path := List Segment

/-- The written form of a path. -/
def Path.text (p : Path) : String := "/".intercalate (p.map Segment.text)

end Workflow

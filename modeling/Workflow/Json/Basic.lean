import Workflow.Bindings
import Workflow.Decimal.Layout

/-!
# Document trees

The trees that workflow documents, events and results are written as: null, booleans, numbers,
texts, arrays, and objects whose fields keep their order. A number is an integer of at most 64 bits
or a floating-point number; the two kinds are never confused.
-/

namespace Workflow

/-- A document tree. -/
inductive Json where
  | null
  | bool (b : Bool)
  | integer (n : Int)
  | float (x : Float)
  | text (s : String)
  | array (items : List Json)
  | object (fields : List (String × Json))
deriving Inhabited

namespace Json

/-- The field of an object. -/
def field? : Json → String → Option Json
  | object fields, key => Bindings.get? fields key
  | _, _ => none

/-- The items of an array. -/
def items? : Json → Option (List Json)
  | array items => some items
  | _ => none

/-- The characters of a text. -/
def text? : Json → Option String
  | text s => some s
  | _ => none

/-- A text, or null for none. -/
def ofText? : Option String → Json
  | some s => text s
  | none => null

/-- Floating-point numbers in documents have the fewest digits that read back. They are written
without an exponent from `10^-5` up to `10^16`, always show a point or an exponent, and sign a
positive exponent; what is no number or not finite has no form and becomes null. -/
def floatLayout : Decimal.Layout where
  positional e := -5 ≤ e && e < 16
  pointZero := true
  plusExponent := true
  signedZero := true
  tie := .toEven
  nan := "null"
  infinity := "null"

/-- The text of a floating-point number. -/
def floatText (x : Float) : String :=
  if x.isFinite then floatLayout.render x else "null"

end Json

end Workflow

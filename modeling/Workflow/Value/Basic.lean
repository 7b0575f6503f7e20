import Workflow.Json.Printer
import Workflow.Decimal.Reading

/-!
# Values

What a variable, a step output, an action payload or a script result holds. A value is null, a
boolean, a number, a text, a list, a record, or a handle: an opaque reference to something that the
host owns, such as a browser tab, which the engine only carries about.

Values are read from document trees and written as such. A handle is written as an object whose only
field is `$handle`.

## Main definitions

* `Workflow.Value` — the values.
* `Workflow.Value.truthy`, `Workflow.Value.toText`, `Workflow.Value.toFloat?`,
  `Workflow.Value.toInt?` — the readings of a value as a condition, a text or a number.
* `Workflow.Value.ofJson`, `Workflow.Value.toJson` — the tree form.
-/

namespace Workflow

/-- A reference to something that the host owns. -/
structure Handle where
  kind : String
  id : String
deriving DecidableEq, Repr, Inhabited

/-- A value that flows through a workflow. -/
inductive Value where
  | null
  | bool (b : Bool)
  | int (n : Int64)
  | float (x : Float)
  | text (s : String)
  | list (items : List Value)
  | record (fields : List (String × Value))
  | handle (h : Handle)
deriving Inhabited

namespace Value

/-- The name of the kind of a value; both kinds of number have one name. -/
def kindName : Value → String
  | null => "null"
  | bool _ => "boolean"
  | int _ => "number"
  | float _ => "number"
  | text _ => "text"
  | list _ => "list"
  | record _ => "record"
  | handle _ => "handle"

/-- The value is null. -/
def isNull : Value → Bool
  | null => true
  | _ => false

/-- The value is a number. -/
def isNumber : Value → Bool
  | int _ => true
  | float _ => true
  | _ => false

/-- The value counts as true: everything but null, false, zero, what is not a number, and the empty
text. -/
def truthy : Value → Bool
  | null => false
  | bool b => b
  | int n => n != 0
  | float x => x != 0.0 && !x.isNaN
  | text s => s != ""
  | list _ => true
  | record _ => true
  | handle _ => true

/-! ### Tree form -/

/-- The field that marks the object of a handle. -/
def handleKey : String := "$handle"

/-- The handle that a tree describes: an object with a kind and an identifier, or an array of just
these two. -/
def handleOf? : Json → Option Handle
  | .object fields => do
    let kind ← (← Bindings.get? fields "kind").text?
    let id ← (← Bindings.get? fields "id").text?
    some ⟨kind, id⟩
  | .array [.text kind, .text id] => some ⟨kind, id⟩
  | _ => none

/-- The handle that the fields of an object describe: the only field is the mark of a handle. -/
def handleOfFields? : List (String × Json) → Option Handle
  | [(key, inner)] => if key = handleKey then handleOf? inner else none
  | _ => none

/-- The number of an integer literal: an integer within 64 signed bits, or else the nearest
floating-point number. -/
def ofInteger (n : Int) : Value :=
  if -(Nat.pow 2 63 : Int) ≤ n ∧ n < Nat.pow 2 63 then int (Int64.ofInt n)
  else float (if n < 0 then -(Float.ofNat n.natAbs) else Float.ofNat n.natAbs)

mutual

/-- The value that a tree describes. -/
def ofJson : Json → Value
  | .null => null
  | .bool b => bool b
  | .integer n => ofInteger n
  | .float x => float x
  | .text s => text s
  | .array items => list (ofItems items)
  | .object fields =>
    match handleOfFields? fields with
    | some h => handle h
    | none => record (ofFields fields)

/-- The values that trees describe. -/
def ofItems : List Json → List Value
  | [] => []
  | j :: rest => ofJson j :: ofItems rest

/-- The values that the fields of an object describe, under their keys. -/
def ofFields : List (String × Json) → List (String × Value)
  | [] => []
  | (k, j) :: rest => (k, ofJson j) :: ofFields rest

end

/-- The tree of a handle. -/
def handleTree (h : Handle) : Json :=
  .object [(handleKey, .object [("kind", .text h.kind), ("id", .text h.id)])]

mutual

/-- The tree that describes a value; a number that is not finite has none and becomes null. -/
def toJson : Value → Json
  | null => .null
  | bool b => .bool b
  | int n => .integer n.toInt
  | float x => if x.isFinite then .float x else .null
  | text s => .text s
  | list items => .array (toItems items)
  | record fields => .object (toFields fields)
  | handle h => handleTree h

/-- The trees that describe values. -/
def toItems : List Value → List Json
  | [] => []
  | v :: rest => toJson v :: toItems rest

/-- The trees that describe the fields of a record, under their keys. -/
def toFields : List (String × Value) → List (String × Json)
  | [] => []
  | (k, v) :: rest => (k, toJson v) :: toFields rest

end

/-! ### Text and numbers -/

/-- Within texts, a number has the fewest digits that read back and never an exponent. -/
def numberLayout : Decimal.Layout where
  positional _ := true
  pointZero := false
  plusExponent := false
  signedZero := true
  tie := .awayFromZero
  nan := "NaN"
  infinity := "inf"

/-- The number has no fraction. -/
def integral (x : Float) : Bool := x.isFinite && x.floor == x

/-- The text of a floating-point number; an integral one below `10^15` is written as an integer,
which leaves a zero without its sign. -/
def numberText (x : Float) : String :=
  if integral x && x.abs < 1e15 then Decimal.intText x.toInt64.toInt else numberLayout.render x

/-- The text that stands for a value in a text: nothing for null, the compact tree form for
collections. -/
def toText : Value → String
  | null => ""
  | bool b => if b then "true" else "false"
  | int n => Decimal.intText n.toInt
  | float x => numberText x
  | text s => s
  | list items => (toJson (list items)).compact
  | record fields => (toJson (record fields)).compact
  | handle h => h.kind ++ ":" ++ h.id

/-- The value as a floating-point number: booleans are one and zero, a text is read as a number. -/
def toFloat? : Value → Option Float
  | int n => some (Decimal.nearest n)
  | float x => some x
  | bool b => some (if b then 1.0 else 0.0)
  | text s => Decimal.float? (Text.trim s)
  | _ => none

/-- The value as an integer, a fraction being cut off. -/
def toInt? : Value → Option Int64
  | int n => some n
  | float x => if x.isFinite then some (Decimal.truncate x) else none
  | bool b => some (if b then 1 else 0)
  | text s =>
    let s := Text.trim s
    match Decimal.int64? s with
    | some n => some n
    | none =>
      (Decimal.float? s).bind fun x => if x.isFinite then some (Decimal.truncate x) else none
  | _ => none

/-- The characters of a text. -/
def text? : Value → Option String
  | text s => some s
  | _ => none

/-- The items of a list. -/
def items? : Value → Option (List Value)
  | list items => some items
  | _ => none

/-- The fields of a record. -/
def fields? : Value → Option (List (String × Value))
  | record fields => some fields
  | _ => none

/-- The field of a record, or the item of a list at an index given as text. -/
def get? : Value → String → Option Value
  | record fields, key => Bindings.get? fields key
  | list items, key => (Decimal.index? key).bind fun i => items[i]?
  | _, _ => none

/-- The value of an unsigned integer; beyond the signed integers it is the nearest floating-point
number. -/
def ofNat (n : Nat) : Value := ofInteger n

/-- A list of texts. -/
def texts (ss : List String) : Value := list (ss.map text)

end Value

end Workflow

import Workflow.Decimal.Reading
import Workflow.Json.Basic

/-!
# Scalars of YAML

What the text of a scalar stands for. A plain scalar is null, a truth value or a number if it has
the form of one, and a text otherwise; a quoted scalar is a text. Numbers may be written in bases
sixteen, eight and two behind a mark; digits behind a leading zero make a text.

## Main definitions

* `Workflow.Yaml.Plain`, `Workflow.Yaml.Plain.of` — what a plain scalar stands for.
* `Workflow.Yaml.scalar?` — the tree of a scalar with its tag.
-/

namespace Workflow.Yaml

/-- What a plain scalar stands for. -/
inductive Plain where
  | null
  | bool (b : Bool)
  | integer (n : Int)
  | float (x : Float)
  | text

/-- The characters behind the sign of a number. -/
def unsignedPart : List Char → List Char
  | '+' :: cs => cs
  | '-' :: cs => cs
  | cs => cs

/-- Digits behind a leading zero, which write no number. -/
def hasLeadingZero (cs : List Char) : Bool :=
  match unsignedPart cs with
  | '0' :: c :: rest => (c :: rest).all Decimal.isDigit
  | _ => false

/-- The value of a digit in bases up to sixteen. -/
def digitOf? (base : Nat) (c : Char) : Option Nat :=
  let n :=
    if Decimal.isDigit c then Decimal.digitValue c
    else if 'a' ≤ c ∧ c ≤ 'f' then c.toNat - 'a'.toNat + 10
    else if 'A' ≤ c ∧ c ≤ 'F' then c.toNat - 'A'.toNat + 10
    else base
  if n < base then some n else none

/-- The number that digits write in a base. -/
def inBase? (base : Nat) (cs : List Char) : Option Nat :=
  match cs with
  | [] => none
  | cs => (cs.mapM (digitOf? base)).map fun ds => ds.foldl (fun n d => base * n + d) 0

/-- A whole number without its sign, which a mark may give a base. -/
def magnitude? (cs : List Char) : Option Nat :=
  match cs with
  | '0' :: 'x' :: ds => inBase? 16 ds
  | '0' :: 'o' :: ds => inBase? 8 ds
  | '0' :: 'b' :: ds => inBase? 2 ds
  | ds => if hasLeadingZero ds then none else inBase? 10 ds

/-- A whole number of at most 128 bits. -/
def integer? (cs : List Char) : Option Int :=
  match cs with
  | '-' :: ds =>
    (magnitude? ds).bind fun n => if n ≤ Nat.pow 2 127 then some (-(n : Int)) else none
  | '+' :: ds => (magnitude? ds).bind fun n => if n < Nat.pow 2 128 then some (n : Int) else none
  | ds => (magnitude? ds).bind fun n => if n < Nat.pow 2 128 then some (n : Int) else none

/-- A floating-point number; only its own words write one that is not finite. -/
def float? (s : String) : Option Float :=
  let unsigned := match s.toList with
    | '+' :: cs => cs
    | cs => cs
  if [".inf", ".Inf", ".INF"].contains (String.ofList unsigned) then some (1.0 / 0.0)
  else if ["-.inf", "-.Inf", "-.INF"].contains s then some (-1.0 / 0.0)
  else if [".nan", ".NaN", ".NAN"].contains s then some (0.0 / 0.0)
  else
    match s.toList, unsigned with
    | '+' :: _, '+' :: _ => none
    | '+' :: _, '-' :: _ => none
    | cs, _ =>
      if hasLeadingZero cs then none
      else (Decimal.float? s).bind fun x => if x.isFinite then some x else none

/-- What a plain scalar stands for. -/
def Plain.of (s : String) : Plain :=
  if ["", "~", "null", "Null", "NULL"].contains s then null
  else if ["true", "True", "TRUE"].contains s then bool true
  else if ["false", "False", "FALSE"].contains s then bool false
  else
    match integer? s.toList with
    | some n => integer n
    | none =>
      match float? s with
      | some x => float x
      | none => text

/-- The tree of a whole number, which must fit into 64 bits. -/
def ofInteger? (n : Int) : Option Json :=
  if -(Nat.pow 2 63 : Int) ≤ n ∧ n < Nat.pow 2 64 then some (.integer n) else none

/-- The tree of a floating-point number; null if it is not finite. -/
def ofFloat (x : Float) : Json := if x.isFinite then .float x else .null

/-- The tree of a plain scalar. -/
def plain? (s : String) : Option Json :=
  match Plain.of s with
  | .null => some .null
  | .bool b => some (.bool b)
  | .integer n => ofInteger? n
  | .float x => some (ofFloat x)
  | .text => some (.text s)

/-- What the tags of the standard types begin with. -/
def standardTag : String := "tag:yaml.org,2002:"

/-- A tag that is not of the standard types, and names a kind of its own. -/
def isOwnTag (tag : Option String) : Bool :=
  match tag with
  | some t => t.toList.head? = some '!'
  | none => false

/-- The tree of a scalar with its tag. The tags of the standard types other than texts ask for a
scalar of the type; every other one makes it a text. -/
def scalar? (tag : Option String) (isPlain : Bool) (s : String) : Option Json :=
  match tag with
  | none => if isPlain then plain? s else some (.text s)
  | some t =>
    if isOwnTag tag then none
    else if t = standardTag ++ "bool" then
      match Plain.of s with
      | .bool b => some (.bool b)
      | _ => none
    else if t = standardTag ++ "int" then (integer? s.toList).bind ofInteger?
    else if t = standardTag ++ "float" then (float? s).map ofFloat
    else if t = standardTag ++ "null" then
      match s, Plain.of s with
      | "", _ => none
      | _, .null => some .null
      | _, _ => none
    else some (.text s)

end Workflow.Yaml

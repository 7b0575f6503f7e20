import Workflow.Script.Library.Part

/-!
# Functions on data

The functions that scripts find ready, as far as they call no other function and need nothing but
their arguments.

## Main definitions

* `Workflow.Script.applied?` — a function on data by its name.
* `Workflow.Script.changesFirst` — a function may change its first argument.
-/

namespace Workflow.Script

open Effect Datum

/-- The function of a name that the type of the first argument has. -/
def ofType? (name : String) (d : Datum) (args : List Datum) : Answer :=
  match d, args with
  | int n, [float y] => mixedFunction? (Decimal.nearest n) name y
  | float x, [int m] => mixedFunction? x name (Decimal.nearest m)
  | int n, args => intFunction? n name args
  | float x, args => floatFunction? x name args
  | text s, args => textFunction? s name args
  | char c, args => charFunction? c name args
  | array items, args => arrayFunction? items name args
  | blob bytes, args => blobFunction? bytes name args
  | map fields, args => mapFunction? fields name args
  | range a b i, args => rangeFunction? a b i name args
  | function f _ _, [] => nameFunction? f name
  | _, _ => none

/-- The function of a name that data of all types have. -/
def ofAny? (name : String) (d : Datum) (args : List Datum) : Answer :=
  match name, args with
  | "to_string", [] => gives (.text d.plain)
  | "to_debug", [] => gives (.text d.marked)
  | "take", [] => givesAndTurns d .unit
  | "tag", [] => gives (.int 0)
  | _, _ => none

/-- A function on data by its name. -/
def applied? (name : String) (args : List Datum) : Answer :=
  match args with
  | [] =>
    match name with
    | "PI" => gives (.float 3.141592653589793)
    | "E" => gives (.float 2.718281828459045)
    | "blob" => gives (.blob [])
    | _ => none
  | d :: rest => (ofType? name d rest).or (ofAny? name d rest)

/-- A function may change its first argument. -/
def changesFirst (name : String) (d : Datum) : Bool :=
  name == "take" ||
    match d with
    | int _ => intChanges.contains name
    | text _ => textChanges.contains name
    | char _ => charChanges.contains name
    | array _ => arrayChanges.contains name
    | blob _ => blobChanges.contains name
    | map _ => mapChanges.contains name
    | _ => false

end Workflow.Script

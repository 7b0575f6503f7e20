import Workflow.Script.Library.Effect

/-!
# Functions on arrays

Functions on arrays that call no other function.

## Main definitions

* `Workflow.Script.arrayFunction?` — functions by name.
-/

namespace Workflow.Script

open Effect Datum

/-- The items are of one type. -/
def areAlike : List Datum → Bool
  | [] => true
  | d :: rest => rest.all fun e => e.typeName == d.typeName

/-- A datum belongs before another of its type. -/
def isBefore : Datum → Datum → Bool
  | int a, int b => a < b
  | float x, float y => x < y
  | text a, text b => a < b
  | char a, char b => a < b
  | .bool a, .bool b => !a && b
  | _, _ => false

/-- Items in an order. They must be of one type. -/
def inOrder (before : Datum → Datum → Bool) (name : String) (items : List Datum)
    (k : List Datum → Answer) : Answer :=
  if areAlike items then k (sortedBy before items)
  else fails (.unknownFunction (name ++ "() cannot be called with elements of different types"))

/-- The items without those that equal the one kept before them. -/
def deduplicated : List Datum → List Datum
  | a :: b :: rest =>
    match equal a b with
    | .ok true => deduplicated (a :: rest)
    | _ => a :: deduplicated (b :: rest)
  | ds => ds
termination_by ds => ds.length

/-- Functions on an array without further arguments. -/
def arrayPlain? (items : List Datum) (name : String) : Answer :=
  match name with
  | "len" => gives (.int (Int64.ofNat items.length))
  | "is_empty" => gives (.bool items.isEmpty)
  | "pop" =>
    match items.getLast? with
    | some d => givesAndTurns d (.array items.dropLast)
    | none => gives .unit
  | "shift" =>
    match items with
    | d :: rest => givesAndTurns d (.array rest)
    | [] => gives .unit
  | "reverse" => turns (.array items.reverse)
  | "clear" => turns (.array [])
  | "dedup" => turns (.array (deduplicated items))
  | "sort" => inOrder isBefore "sort" items fun ds => turns (.array ds)
  | "sort_desc" =>
    inOrder (fun a b => isBefore b a) "sort" items fun ds => turns (.array ds)
  | "order" => inOrder isBefore "sort" items fun ds => gives (.array ds)
  | "order_desc" =>
    inOrder (fun a b => isBefore b a) "sort" items fun ds => gives (.array ds)
  | _ => none

/-- Functions on an array with a whole number. -/
def arrayInt? (items : List Datum) (name : String) (n : Int64) : Answer :=
  let start := cutPlace items.length n
  match name with
  | "get" => givesOr .unit ((place? items.length n).bind fun i => items[i]?)
  | "remove" =>
    match place? items.length n with
    | some i => givesAndTurns ((items[i]?).getD .unit) (.array (items.eraseIdx i))
    | none => gives .unit
  | "truncate" => turns (.array (items.take (lengthOf n)))
  | "chop" => turns (.array (items.drop (items.length - lengthOf n)))
  | "extract" => gives (.array (items.drop start))
  | "split" => givesAndTurns (.array (items.drop start)) (.array (items.take start))
  | _ => none

/-- A span is taken out of an array. -/
def drained (items : List Datum) (start length : Nat) : Answer :=
  givesAndTurns (.array (cutOut items start length)) (.array (without items start length))

/-- Nothing but a span is left of an array, unless the span is empty. -/
def retained (items : List Datum) (start length : Nat) : Answer :=
  if (cutOut items start length).isEmpty then gives (.array [])
  else givesAndTurns (.array (without items start length)) (.array (cutOut items start length))

/-- Functions on an array with other arguments. -/
def arrayMany? (items : List Datum) (name : String) (args : List Datum) : Answer :=
  match name, args with
  | "push", [d] => turns (.array (items ++ [d]))
  | "append", [array ds] => turns (.array (items ++ ds))
  | "contains", [d] => comes ((placeOf d 0 items).map fun r => .bool r.isSome)
  | "index_of", [d] =>
    comes ((placeOf d 0 items).map fun r => .int ((r.map Int64.ofNat).getD (-1)))
  | "index_of", [d, int n] =>
    let start := cutPlace items.length n
    comes ((placeOf d start (items.drop start)).map fun r => .int ((r.map Int64.ofNat).getD (-1)))
  | "insert", [int n, d] => turns (.array (spliced items (cutPlace items.length n) 0 [d]))
  | "set", [int n, d] =>
    match place? items.length n with
    | some i => turns (.array (items.set i d))
    | none => gives .unit
  | "extract", [int n, int m] =>
    gives (.array (cutOut items (cutPlace items.length n) (lengthOf m)))
  | "extract", [range a b i] =>
    let (start, length) := spanOf items.length a b i
    gives (.array (cutOut items start length))
  | "drain", [int n, int m] => drained items (cutPlace items.length n) (lengthOf m)
  | "drain", [range a b i] =>
    let (start, length) := spanOf items.length a b i
    drained items start length
  | "retain", [int n, int m] => retained items (cutPlace items.length n) (lengthOf m)
  | "retain", [range a b i] =>
    let (start, length) := spanOf items.length a b i
    retained items start length
  | "splice", [int n, int m, array ds] =>
    turns (.array (spliced items (cutPlace items.length n) (lengthOf m) ds))
  | "splice", [range a b i, array ds] =>
    let (start, length) := spanOf items.length a b i
    turns (.array (spliced items start length ds))
  | "pad", [int n, d] =>
    turns (.array (items ++ List.replicate (lengthOf n - items.length) d))
  | _, _ => none

/-- Functions on an array. -/
def arrayFunction? (items : List Datum) (name : String) (args : List Datum) : Answer :=
  match args with
  | [] => arrayPlain? items name
  | [int n] => (arrayInt? items name n).or (arrayMany? items name args)
  | args => arrayMany? items name args

/-- The functions that change an array. -/
def arrayChanges : List String :=
  ["push", "append", "insert", "set", "pad", "pop", "shift", "remove", "reverse", "clear", "dedup",
   "sort", "sort_desc", "sort_by", "truncate", "chop", "split", "drain", "retain", "splice",
   "for_each"]

end Workflow.Script

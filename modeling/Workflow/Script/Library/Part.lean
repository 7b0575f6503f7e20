import Workflow.Script.Library.Bytes
import Workflow.Script.Library.Map
import Workflow.Script.Library.Text

/-!
# Parts of data

The properties and items of data, and data with a part changed. The items of arrays and maps are
parts that can be changed where they are; characters, bits and bytes are looked at, and put back
when they have been changed.

## Main definitions

* `Workflow.Script.Datum.property?` — the properties of what is no map.
* `Workflow.Script.Datum.nameFunction?` — functions on functions by name.
* `Workflow.Script.Datum.item`, `Workflow.Script.Datum.withItem` — items.
-/

namespace Workflow.Script

namespace Datum

/-- Functions on a function by its name. -/
def nameFunction? (f name : String) : Answer :=
  match name with
  | "name" => Effect.gives (.text f)
  | "is_anonymous" => Effect.gives (.bool (isClosureName f))
  | _ => none

/-- A property of a datum that is no map. -/
def property? (d : Datum) (name : String) : Answer :=
  match d with
  | int n =>
    if ["is_odd", "is_even", "is_zero", "bits"].contains name then intFunction? n name [] else tag
  | float x =>
    if ["floor", "ceiling", "round", "int", "fraction", "is_nan", "is_finite", "is_infinite",
        "is_zero"].contains name then floatFunction? x name []
    else tag
  | text s =>
    if ["len", "bytes", "is_empty", "chars"].contains name then textPlain? s name else tag
  | array items => if ["len", "is_empty"].contains name then arrayPlain? items name else tag
  | blob bytes => if ["len", "is_empty"].contains name then blobFunction? bytes name [] else tag
  | range a b i => if name = "contains" then tag else (rangeFunction? a b i name []).or tag
  | function f _ _ => (nameFunction? f name).or tag
  | _ => tag
where
  /-- The number that is attached to a datum. -/
  tag : Answer := if name = "tag" then Effect.gives (.int 0) else none

/-- There is no such property. -/
def noProperty (d : Datum) (name : String) : Cause :=
  .unknownProperty
    ("Unknown property '" ++ name ++ "' - a getter is not registered for type '" ++ d.typeName ++
      "'")

/-- There is no such property that could be changed. -/
def noWritableProperty (d : Datum) (name : String) (value : Datum) : Cause :=
  .unknownProperty
    ("No writable property '" ++ name ++ "' - a setter is not registered for type '" ++
      d.typeName ++ "' to handle '" ++ value.typeName ++ "'")

/-- Nothing can be had by such an index. -/
def noIndexer (d index : Datum) : Cause :=
  .unknownIndexer (d.typeName ++ " [" ++ index.typeName ++ "]")

/-- Nothing can be changed by such an index. -/
def noIndexSetter (d index value : Datum) : Cause :=
  .unknownIndexer (d.typeName ++ " [" ++ index.typeName ++ "] = " ++ value.typeName)

/-- How an item belongs to its collection. -/
inductive Belonging where
  /-- It can be changed where it is. -/
  | inside
  /-- It is put back when it has been changed. -/
  | seen
  /-- It is nothing that the collection holds. -/
  | apart
deriving DecidableEq, Repr

/-- The collection has items by some index. -/
def hasItems : Datum → Bool
  | array _ => true
  | blob _ => true
  | map _ => true
  | int _ => true
  | text _ => true
  | _ => false

/-- The span of a range among the bits of a whole number. -/
def bitSpan (first last : Int64) (inclusive : Bool) : Except Cause (Nat × Nat) :=
  let limit := if inclusive then wordBits else wordBits + 1
  if first < 0 ∨ (wordBits : Int) ≤ first.toInt then .error (noBit first)
  else if last < 0 ∨ (limit : Int) ≤ last.toInt then .error (noBit last)
  else .ok (lengthOf first, rangeLength first last inclusive)

/-- An item of a collection. -/
def item (d index : Datum) : Except Cause (Datum × Belonging) :=
  match d, index with
  | array items, int n =>
    match (place? items.length n).bind fun i => items[i]? with
    | some e => .ok (e, .inside)
    | none => .error (.outOfBounds .array items.length n)
  | blob bytes, int n =>
    match (place? bytes.length n).bind fun i => bytes[i]? with
    | some b => .ok (ofByte b, .seen)
    | none => .error (.outOfBounds .array bytes.length n)
  | map fields, text k =>
    match fields.lookup k with
    | some e => .ok (e, .inside)
    | none => .ok (unit, .apart)
  | int n, int i =>
    match place? wordBits i with
    | some k => .ok (.bool (bitOf n k), .seen)
    | none => .error (noBit i)
  | int n, range a b i =>
    (bitSpan a b i).map fun (start, length) => (int (bitsOf n start length), .seen)
  | text s, int n =>
    match (place? s.length n).bind fun i => s.toList[i]? with
    | some c => .ok (char c, .seen)
    | none => .error (.outOfBounds .text s.length n)
  | text s, range a b i => .ok (ofChars (sliceOf s.toList a b i), .seen)
  | map _, i => .error (.mismatch "string" i.typeName)
  | _, i => .error (.mismatch "i64" i.typeName)

/-- A collection with an item changed. -/
def withItem (d index value : Datum) : Except Cause Datum :=
  match d, index with
  | array items, int n =>
    match place? items.length n with
    | some i => .ok (array (items.set i value))
    | none => .error (.outOfBounds .array items.length n)
  | blob bytes, int n =>
    match place? bytes.length n, value with
    | some i, int v => .ok (blob (bytes.set i (byteOf (int v))))
    | some _, v => .error (.mismatch "INT" v.typeName)
    | none, _ => .error (.outOfBounds .array bytes.length n)
  | map fields, text k => .ok (map (insert fields k value))
  | int n, int i =>
    match place? wordBits i, value with
    | some k, .bool b => .ok (int (withBit n k b))
    | some _, v => .error (.mismatch "bool" v.typeName)
    | none, _ => .error (noBit i)
  | int n, range a b i =>
    match bitSpan a b i, value with
    | .ok (start, length), int v => .ok (int (withBits n start length v))
    | .ok _, v => .error (.mismatch "integer" v.typeName)
    | .error e, _ => .error e
  | text s, int n =>
    match place? s.length n, value with
    | some i, char c => .ok (ofChars (s.toList.set i c))
    | some _, v => .error (.mismatch "char" v.typeName)
    | none, _ => .error (.outOfBounds .text s.length n)
  | text s, range a b i => .ok (ofChars (withSlice s.toList a b i value.reported.toList))
  | d, i => .error (noIndexSetter d i value)

end Datum

end Workflow.Script

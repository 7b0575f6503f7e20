import Workflow.Script.Stream
import Workflow.Text.Quoted
import Workflow.Value.Basic

/-!
# Data of scripts

What a script computes with. Maps are kept in the order of their keys. A datum has four texts: the
plain one, in which a text stands as it is; the one that tells the kinds of the items of collections
apart, where texts stand between quotes and characters do not; the one that quotes both; and the one
by which data are reported, which is plain but for the items of collections.

Data come from values and become values again: a handle is the map of its tree form, a character
becomes a text, and what is neither null, boolean, number, text, array nor map becomes no value.

## Main definitions

* `Workflow.Script.Datum` — the data.
* `Workflow.Script.Datum.plain`, `Workflow.Script.Datum.marked`, `Workflow.Script.Datum.quoted`,
  `Workflow.Script.Datum.reported` — their texts.
* `Workflow.Script.Datum.identical` — data are the same, bit for bit.
* `Workflow.Script.Datum.ofValue`, `Workflow.Script.Datum.toValue?`.
-/

namespace Workflow.Script

/-- What a script computes with. -/
inductive Datum where
  | unit
  | bool (b : Bool)
  | int (n : Int64)
  | float (x : Float)
  | text (s : String)
  | char (c : Char)
  | array (items : List Datum)
  | blob (bytes : List UInt8)
  | map (fields : List (String × Datum))
  /-- The integers from a first one up to a last one, which may be left out. -/
  | range (first last : Int64) (inclusive : Bool)
  | stream (items : Stream)
  /-- A moment in milliseconds since the script began. -/
  | moment (time : Int)
  /-- A function by its name, with the cells of the variables that it has taken along, and its first
  arguments as far as they are already given. -/
  | function (name : String) (captured : List Nat) (given : List Datum)
deriving Inhabited

namespace Datum

/-- The name of the type of a datum. -/
def typeName : Datum → String
  | unit => "()"
  | bool _ => "bool"
  | int _ => "i64"
  | float _ => "f64"
  | text _ => "string"
  | char _ => "char"
  | array _ => "array"
  | blob _ => "blob"
  | map _ => "map"
  | range _ _ false => "range"
  | range _ _ true => "range="
  | stream s => s.typeName
  | moment _ => "timestamp"
  | function _ _ _ => "Fn"

/-! ### Texts -/

/-- Numbers in texts keep a point. -/
def positionalLayout : Decimal.Layout where
  positional _ := true
  pointZero := true
  plusExponent := false
  signedZero := true
  tie := .awayFromZero
  nan := "NaN"
  infinity := "inf"

/-- Very large and very small numbers in texts have an exponent. -/
def exponentLayout : Decimal.Layout where
  positional _ := false
  pointZero := false
  plusExponent := false
  signedZero := true
  tie := .awayFromZero
  nan := "NaN"
  infinity := "inf"

/-- The text of a number: positional from `10^-13` to `10^13`, and zero without its sign. -/
def floatText (x : Float) : String :=
  if x == 0.0 then "0.0"
  else if 1e13 < x.abs || x.abs < 1e-13 then exponentLayout.render x
  else positionalLayout.render x

/-- The text of a number among quoted texts: positional from `10^-4` up to `10^16`. -/
def quotedFloat (x : Float) : String :=
  if x != 0.0 && (1e16 ≤ x.abs || x.abs < 1e-4) then exponentLayout.render x
  else positionalLayout.render x

/-- A character between single quotes. -/
def quotedCharacter (c : Char) : String :=
  if c = '"' then "'\"'"
  else if c = '\'' then "'\\''"
  else "'" ++ String.ofList (Text.quotedChar c) ++ "'"

/-- The end of a range without one. -/
def endless : Int64 := Int64.maxValue

/-- The text of a range. -/
def rangeText (first last : Int64) (inclusive : Bool) : String :=
  Decimal.intText first.toInt ++ (if inclusive then "..=" else "..") ++
    if last = endless then "" else Decimal.intText last.toInt

/-- Two hexadecimal digits. -/
def byteText (b : UInt8) : List Char :=
  let ds := Nat.toDigits 16 b.toNat
  if ds.length < 2 then '0' :: ds else ds

/-- The bytes in hexadecimal digits, in groups of eight. -/
def bytesText (first : Bool) : Nat → List UInt8 → List Char
  | _, [] => []
  | 0, b :: rest => (if first then [] else [' ']) ++ byteText b ++ bytesText false 7 rest
  | n + 1, b :: rest => byteText b ++ bytesText false n rest

/-- The text of bytes. -/
def blobText (bytes : List UInt8) : String :=
  String.ofList ('[' :: bytesText true 0 bytes ++ [']'])

/-- Texts with commas between. -/
def listed (items : List String) : String := ", ".intercalate items

/-- The text of an array with the texts of its items. -/
def arrayText (items : List String) : String := "[" ++ listed items ++ "]"

/-- The text of a map with its keys and the texts of what they are bound to. -/
def mapText (fields : List (String × String)) : String :=
  "#\x7b" ++ listed (fields.map fun e => Text.quoted e.1 ++ ": " ++ e.2) ++ "\x7d"

mutual

/-- The quoted text of a datum. -/
def quoted : Datum → String
  | unit => "()"
  | bool b => if b then "true" else "false"
  | int n => Decimal.intText n.toInt
  | float x => quotedFloat x
  | text s => Text.quoted s
  | char c => quotedCharacter c
  | array items => arrayText (quotedItems items)
  | blob bytes => blobText bytes
  | map fields => mapText (quotedFields fields)
  | range a b i => rangeText a b i
  | stream s => s.typeName
  | moment _ => "<timestamp>"
  | function name _ given =>
    if given.isEmpty then "Fn(" ++ name ++ ")"
    else "Fn(" ++ listed (Text.quoted name :: quotedItems given) ++ ")"

/-- The quoted texts of items. -/
def quotedItems : List Datum → List String
  | [] => []
  | d :: rest => quoted d :: quotedItems rest

/-- The quoted texts of fields. -/
def quotedFields : List (String × Datum) → List (String × String)
  | [] => []
  | (k, d) :: rest => (k, quoted d) :: quotedFields rest

end

mutual

/-- The text of a datum in which texts are quoted and characters are not. -/
def marked : Datum → String
  | char c => String.singleton c
  | array items => arrayText (markedItems items)
  | map fields => mapText (markedFields fields)
  | d => quoted d

/-- The marked texts of items. -/
def markedItems : List Datum → List String
  | [] => []
  | d :: rest => marked d :: markedItems rest

/-- The marked texts of fields. -/
def markedFields : List (String × Datum) → List (String × String)
  | [] => []
  | (k, d) :: rest => (k, marked d) :: markedFields rest

end

/-- The name by which a function shows itself. -/
def functionText (name : String) : String := "Fn(" ++ name ++ ")"

/-- The plain text of a datum. -/
def plain : Datum → String
  | unit => ""
  | float x => floatText x
  | text s => s
  | function name _ _ => functionText name
  | d => marked d

/-- The text by which a datum is reported. -/
def reported : Datum → String
  | array items => quoted (array items)
  | map fields => quoted (map fields)
  | d => plain d

/-! ### Identity -/

mutual

/-- Data are the same: of one type and bit for bit. -/
def identical : Datum → Datum → Bool
  | unit, unit => true
  | bool a, bool b => a == b
  | int a, int b => a == b
  | float a, float b => a.toBits == b.toBits
  | text a, text b => a == b
  | char a, char b => a == b
  | array a, array b => identicalItems a b
  | blob a, blob b => a == b
  | map a, map b => identicalFields a b
  | range a b i, range a' b' i' => a == a' && b == b' && i == i'
  | function f _ [], function g _ [] => f == g
  | _, _ => false

/-- Arrays are the same item by item. -/
def identicalItems : List Datum → List Datum → Bool
  | [], [] => true
  | a :: as, b :: bs => identical a b && identicalItems as bs
  | _, _ => false

/-- Maps are the same field by field. -/
def identicalFields : List (String × Datum) → List (String × Datum) → Bool
  | [], [] => true
  | (k, a) :: as, (l, b) :: bs => k == l && identical a b && identicalFields as bs
  | _, _ => false

end

/-- The item of a stream as a datum. -/
def ofStreamItem : StreamItem → Datum
  | .int n => int n
  | .float x => float x
  | .char c => char c
  | .bit b => bool b

/-! ### Maps -/

/-- Binds a key of a map. -/
def insert (fields : List (String × Datum)) (key : String) (d : Datum) : List (String × Datum) :=
  match fields with
  | [] => [(key, d)]
  | (k, e) :: rest =>
    if key < k then (key, d) :: (k, e) :: rest
    else if key = k then (k, d) :: rest
    else (k, e) :: insert rest key d

/-- The map of bindings. -/
def ofBindings (fields : List (String × Datum)) : Datum :=
  map (fields.foldl (fun acc e => insert acc e.1 e.2) [])

/-! ### Values -/

mutual

/-- The datum of a value. -/
def ofValue : Value → Datum
  | .null => unit
  | .bool b => bool b
  | .int n => int n
  | .float x => float x
  | .text s => text s
  | .list items => array (ofItems items)
  | .record fields => ofBindings (ofFields fields)
  | .handle h =>
    ofBindings [(Value.handleKey, ofBindings [("kind", text h.kind), ("id", text h.id)])]

/-- The data of values. -/
def ofItems : List Value → List Datum
  | [] => []
  | v :: rest => ofValue v :: ofItems rest

/-- The data of fields. -/
def ofFields : List (String × Value) → List (String × Datum)
  | [] => []
  | (k, v) :: rest => (k, ofValue v) :: ofFields rest

end

mutual

/-- The tree of a datum; a number that is not finite is null. -/
def toJson? : Datum → Option Json
  | unit => some .null
  | bool b => some (.bool b)
  | int n => some (.integer n.toInt)
  | float x => some (if x.isFinite then .float x else .null)
  | text s => some (.text s)
  | char c => some (.text (String.singleton c))
  | array items => (toItems? items).map .array
  | map fields => (toFields? fields).map .object
  | blob _ => none
  | range _ _ _ => none
  | stream _ => none
  | moment _ => none
  | function _ _ _ => none

/-- The trees of items. -/
def toItems? : List Datum → Option (List Json)
  | [] => some []
  | d :: rest =>
    match toJson? d, toItems? rest with
    | some j, some js => some (j :: js)
    | _, _ => none

/-- The trees of fields. -/
def toFields? : List (String × Datum) → Option (List (String × Json))
  | [] => some []
  | (k, d) :: rest =>
    match toJson? d, toFields? rest with
    | some j, some js => some ((k, j) :: js)
    | _, _ => none

end

/-- The value of a datum. -/
def toValue? (d : Datum) : Option Value := d.toJson?.map Value.ofJson

end Datum

end Workflow.Script

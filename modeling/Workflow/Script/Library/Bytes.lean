import Workflow.Script.Library.Array

/-!
# Functions on bytes

What can be done with the items of an array can be done with bytes as well. A span of bytes can also
be read as a number, the lowest byte first or last, and numbers and texts can be written over it.
Numbers take eight bytes; a shorter span is read as if zeros came behind it, and takes the beginning
of what is written.

## Main definitions

* `Workflow.Script.wordOf`, `Workflow.Script.bytesOfWord` — numbers of bytes, and bytes of numbers.
* `Workflow.Script.blobFunction?` — functions by name.
-/

namespace Workflow.Script

open Effect Datum

/-- A byte as a datum. -/
def ofByte (b : UInt8) : Datum := .int (Int64.ofNat b.toNat)

/-- The byte of a whole number. -/
def byteOf : Datum → UInt8
  | int n => UInt8.ofNat (n.toUInt64.toNat % 256)
  | _ => 0

/-! ### Bytes as items -/

/-- Arrays as bytes, and nothing as zero. -/
def asBytes (d : Datum) : Datum :=
  match d with
  | array items => .blob (items.map byteOf)
  | unit => .int 0
  | d => d

/-- The functions on bytes that are those on the array of them. -/
def sharedFunctions : List String :=
  ["len", "is_empty", "get", "set", "insert", "pad", "pop", "shift", "remove", "reverse", "clear",
   "truncate", "chop", "extract", "split", "drain", "retain", "splice"]

/-- Bytes among arguments as an array of them. -/
def bytesAsItems : Datum → Datum
  | blob bytes => .array (bytes.map ofByte)
  | d => d

/-! ### Numbers and texts in bytes -/

/-- The number of bytes, the lowest first. -/
def wordOf : List UInt8 → Nat
  | [] => 0
  | b :: rest => b.toNat + 256 * wordOf rest

/-- The `width` bytes of a number, the lowest first; what does not fit is dropped. -/
def bytesOfWord : Nat → Nat → List UInt8
  | 0, _ => []
  | width + 1, n => UInt8.ofNat (n % 256) :: bytesOfWord width (n / 256)

/-- The bytes of a number in a blob. -/
def wordBytes : Nat := 8

/-- The order of the bytes of a number. -/
inductive ByteOrder where
  | lowestFirst
  | lowestLast
deriving DecidableEq, Repr

/-- Bytes in an order, or bytes in that order with the lowest first. -/
def ByteOrder.arrange (o : ByteOrder) (bytes : List UInt8) : List UInt8 :=
  match o with
  | lowestFirst => bytes
  | lowestLast => bytes.reverse

/-- The number at the beginning of bytes. -/
def readWord (o : ByteOrder) (bytes : List UInt8) : UInt64 :=
  let read := bytes.take wordBytes
  UInt64.ofNat (wordOf (o.arrange (read ++ List.replicate (wordBytes - read.length) 0)))

/-- The bytes of a number. -/
def writtenWord (o : ByteOrder) (w : UInt64) : List UInt8 :=
  o.arrange (bytesOfWord wordBytes w.toNat)

/-- The functions that read a number, by the order of its bytes; the bits are those of a whole
number or of a floating-point one. -/
def reading? (name : String) : Option (ByteOrder × (UInt64 → Datum)) :=
  let whole (w : UInt64) : Datum := .int w.toInt64
  let floating (w : UInt64) : Datum := .float (Float.ofBits w)
  match name with
  | "parse_le_int" => some (.lowestFirst, whole)
  | "parse_be_int" => some (.lowestLast, whole)
  | "parse_le_float" => some (.lowestFirst, floating)
  | "parse_be_float" => some (.lowestLast, floating)
  | _ => none

/-- The bytes that a function writes of a datum into a span of a length. -/
def written? (name : String) (d : Datum) (length : Nat) : Option (List UInt8) :=
  match name, d with
  | "write_le", int n => some (writtenWord .lowestFirst n.toUInt64)
  | "write_be", int n => some (writtenWord .lowestLast n.toUInt64)
  | "write_le", float x => some (writtenWord .lowestFirst x.toBits)
  | "write_be", float x => some (writtenWord .lowestLast x.toBits)
  | "write_utf8", text s => some s.toUTF8.toList
  | "write_ascii", text s =>
    let length := min length s.utf8ByteSize
    some (((s.toList.filter fun c => c.toNat < 128).take length).map fun c => c.toUInt8)
  | _, _ => none

/-- The functions that write over bytes. -/
def writingFunctions : List String := ["write_le", "write_be", "write_utf8", "write_ascii"]

/-- Bytes with others written over a span, as far as they fit. -/
def overwritten (bytes : List UInt8) (start length : Nat) (others : List UInt8) : List UInt8 :=
  let others := others.take (min length (bytes.length - start))
  spliced bytes start others.length others

/-- Functions on a span of bytes. -/
def spanFunction? (bytes : List UInt8) (name : String) (start length : Nat) (args : List Datum) :
    Answer :=
  match reading? name, args with
  | some (order, number), [] => gives (number (readWord order (cutOut bytes start length)))
  | none, [d] => (written? name d length).bind fun others =>
    turns (.blob (overwritten bytes start length others))
  | _, _ => none

/-! ### All functions -/

/-- Functions on bytes. -/
def blobFunction? (bytes : List UInt8) (name : String) (args : List Datum) : Answer :=
  match name, args with
  | "to_array", [] => gives (.array (bytes.map ofByte))
  | "as_string", [] => gives (.text (Text.ofBytes bytes))
  | "push", [int n] => turns (.blob (bytes ++ [byteOf (.int n)]))
  | "append", [d] => (into? .add (.blob bytes) d).bind turns
  | "contains", [int n] => gives (.bool (bytes.contains (byteOf (.int n))))
  | name, args =>
    if sharedFunctions.contains name then
      (arrayFunction? (bytes.map ofByte) name (args.map bytesAsItems)).map fun r =>
        r.map fun e =>
          let changed := e.receiver.map asBytes
          match name, e.value with
          | "set", .unit => ⟨.unit, changed⟩
          | _, .unit =>
            if changed.isSome then ⟨.unit, changed⟩ else ⟨.int 0, none⟩
          | _, d => ⟨asBytes d, changed⟩
    else
      match args with
      | range a b i :: args =>
        let (start, length) := spanOf bytes.length a b i
        spanFunction? bytes name start length args
      | int n :: int m :: args =>
        let start := cutPlace bytes.length n
        spanFunction? bytes name start (min (lengthOf m) (bytes.length - start)) args
      | _ => none

/-- The functions that change bytes. -/
def blobChanges : List String := arrayChanges ++ writingFunctions

end Workflow.Script

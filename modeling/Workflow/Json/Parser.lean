import Workflow.Json.Basic
import Workflow.Decimal.Reading

/-!
# Reading document trees

A reader of the compact and of any other spaced form. Arrays and objects nest at most 127 deep, the
last of repeated fields wins and stays at the place of the first, and a text may not hold a raw
character below U+0020 or half of a surrogate pair.

An integer literal within 64 bits stays an integer. Any other number is floating-point: its leading
digits that fit 64 unsigned bits are converted once and scaled once by a power of ten, so that a
long literal may differ from the nearest number in its last bit.

## Main definitions

* `Workflow.Json.parse` — the tree of a text.
-/

namespace Workflow.Json

/-- The white space between the parts of a document. -/
def isSpace (c : Char) : Bool := c = ' ' || c = '\n' || c = '\t' || c = '\r'

/-- The characters behind leading white space. -/
def skipSpace (cs : List Char) : List Char := cs.dropWhile isSpace

/-! ### Numbers -/

/-- The largest number of 64 unsigned bits. -/
def maxSignificand : Nat := Nat.pow 2 64 - 1

/-- The digits taken into the significand while it fits 64 unsigned bits, their count, and the
characters left. -/
def takeDigits : Nat → Nat → List Char → Nat × Nat × List Char
  | significand, count, [] => (significand, count, [])
  | significand, count, c :: cs =>
    if Decimal.isDigit c ∧ significand * 10 + Decimal.digitValue c ≤ maxSignificand then
      takeDigits (significand * 10 + Decimal.digitValue c) (count + 1) cs
    else (significand, count, c :: cs)

/-- The number nearest to `10 ^ n`. -/
def powerOfTen (n : Nat) : Float := Float.ofScientific 1 false n

/-- Divides by `10 ^ 308` until the number is zero or the remaining exponent can be divided by at
once; a number of 64 bits is zero after the second division. -/
def scaleDown : Nat → Float → Nat → Float
  | 0, x, _ => x
  | fuel + 1, x, n =>
    if n ≤ 308 then x / powerOfTen n
    else if x == 0.0 then x
    else scaleDown fuel (x / powerOfTen 308) (n - 308)

/-- The number `significand · 10 ^ exponent` by one conversion and one scaling; a magnitude beyond
the largest number is refused. -/
def scaledNumber? (significand : Nat) (exponent : Int) : Option Float :=
  let x := significand.toUInt64.toFloat
  if 0 ≤ exponent then
    if 308 < exponent then (if x == 0.0 then some x else none)
    else
      let y := x * powerOfTen exponent.toNat
      if y.isInf then none else some y
  else some (scaleDown 4 x (-exponent).toNat)

/-- An exponent part behind its mark. -/
def exponentPart? (significand : Nat) (start : Int) (cs : List Char) :
    Option (Float × List Char) :=
  let (negative, cs) := Decimal.splitSign cs
  let ds := cs.takeWhile Decimal.isDigit
  let rest := cs.dropWhile Decimal.isDigit
  if ds = [] then none
  else
    let e := Decimal.digitsValue ds
    if e < Nat.pow 2 31 then
      (scaledNumber? significand (if negative then start - e else start + e)).map (·, rest)
    else if significand ≠ 0 ∧ ¬negative then none
    else some (0.0, rest)

/-- What may follow the digits of a number: an exponent, or nothing. -/
def afterDigits? (significand : Nat) (exponent : Int) (cs : List Char) :
    Option (Float × List Char) :=
  match cs with
  | 'e' :: rest => exponentPart? significand exponent rest
  | 'E' :: rest => exponentPart? significand exponent rest
  | _ => (scaledNumber? significand exponent).map (·, cs)

/-- A fraction behind its point; digits that no longer fit the significand are passed over. -/
def fractionPart? (significand : Nat) (exponent : Int) (cs : List Char) :
    Option (Float × List Char) :=
  let (s, count, rest) := takeDigits significand 0 cs
  if rest.takeWhile Decimal.isDigit = [] then
    if count = 0 then none else afterDigits? s (exponent - count) rest
  else afterDigits? s (exponent - count) (rest.dropWhile Decimal.isDigit)

/-- Gives a number its sign. -/
def signed (negative : Bool) : Float × List Char → Json × List Char
  | (x, rest) => (float (if negative then -x else x), rest)

/-- A number without its sign. -/
def numeral? (negative : Bool) (cs : List Char) : Option (Json × List Char) :=
  let (s, count, rest) := takeDigits 0 0 cs
  let skipped := rest.takeWhile Decimal.isDigit
  let rest := rest.dropWhile Decimal.isDigit
  if count = 0 then none
  else if cs.head? = some '0' ∧ (1 < count ∨ skipped ≠ []) then none
  else
    match rest with
    | '.' :: more => (fractionPart? s skipped.length more).map (signed negative)
    | 'e' :: more => (exponentPart? s skipped.length more).map (signed negative)
    | 'E' :: more => (exponentPart? s skipped.length more).map (signed negative)
    | _ =>
      if skipped ≠ [] then (scaledNumber? s skipped.length).map fun x => signed negative (x, rest)
      else if negative then
        if s = 0 ∨ Nat.pow 2 63 < s then some (signed true (s.toUInt64.toFloat, rest))
        else some (integer (-(s : Int)), rest)
      else some (integer s, rest)

/-! ### Texts -/

/-- The value of a hexadecimal digit. -/
def hexValue? (c : Char) : Option Nat :=
  if '0' ≤ c ∧ c ≤ '9' then some (c.toNat - '0'.toNat)
  else if 'a' ≤ c ∧ c ≤ 'f' then some (c.toNat - 'a'.toNat + 10)
  else if 'A' ≤ c ∧ c ≤ 'F' then some (c.toNat - 'A'.toNat + 10)
  else none

/-- Four hexadecimal digits. -/
def hexUnit? : List Char → Option (Nat × List Char)
  | a :: b :: c :: d :: rest => do
    let a ← hexValue? a
    let b ← hexValue? b
    let c ← hexValue? c
    let d ← hexValue? d
    some (((a * 16 + b) * 16 + c) * 16 + d, rest)
  | _ => none

/-- The character of one sixteen-bit unit or of a surrogate pair. -/
def unicodeEscape? (cs : List Char) : Option (Char × List Char) := do
  let (hi, rest) ← hexUnit? cs
  if 0xDC00 ≤ hi ∧ hi ≤ 0xDFFF then none
  else if 0xD800 ≤ hi ∧ hi < 0xDC00 then
    match rest with
    | '\\' :: 'u' :: rest =>
      let (lo, rest) ← hexUnit? rest
      if 0xDC00 ≤ lo ∧ lo ≤ 0xDFFF then
        some (Char.ofNat (0x10000 + (hi - 0xD800) * 0x400 + (lo - 0xDC00)), rest)
      else none
    | _ => none
  else some (Char.ofNat hi, rest)

/-- The character that an escape stands for, the backslash passed. -/
def escape? : List Char → Option (Char × List Char)
  | '"' :: rest => some ('"', rest)
  | '\\' :: rest => some ('\\', rest)
  | '/' :: rest => some ('/', rest)
  | 'b' :: rest => some (Char.ofNat 8, rest)
  | 'f' :: rest => some (Char.ofNat 12, rest)
  | 'n' :: rest => some ('\n', rest)
  | 'r' :: rest => some ('\r', rest)
  | 't' :: rest => some ('\t', rest)
  | 'u' :: rest => unicodeEscape? rest
  | _ => none

/-- The characters of a text up to its closing quote, in reverse, put before those read so far. -/
def textBody? : Nat → List Char → List Char → Option (List Char × List Char)
  | 0, _, _ => none
  | _ + 1, _, [] => none
  | fuel + 1, acc, c :: cs =>
    if c = '"' then some (acc, cs)
    else if c = '\\' then
      match escape? cs with
      | some (x, rest) => textBody? fuel (x :: acc) rest
      | none => none
    else if c.toNat < 32 then none
    else textBody? fuel (c :: acc) cs

/-- A text behind its opening quote. -/
def text?? (cs : List Char) : Option (String × List Char) :=
  (textBody? (cs.length + 1) [] cs).map fun (acc, rest) => (String.ofList acc.reverse, rest)

/-! ### Trees -/

/-- A word and what follows it. -/
def word? (word : String) (value : Json) (cs : List Char) : Option (Json × List Char) :=
  let w := word.toList
  if cs.take w.length = w then some (value, cs.drop w.length) else none

mutual

/-- A tree at the front of the characters, its containers nesting at most `depth` deep. -/
def value? : Nat → Nat → List Char → Option (Json × List Char)
  | 0, _, _ => none
  | fuel + 1, depth, cs =>
    match skipSpace cs with
    | [] => none
    | '"' :: rest => (text?? rest).map fun (s, rest) => (text s, rest)
    | '[' :: rest =>
      match depth with
      | 0 => none
      | depth + 1 =>
        match skipSpace rest with
        | ']' :: rest => some (array [], rest)
        | rest => items?? fuel depth [] rest
    | '\x7b' :: rest =>
      match depth with
      | 0 => none
      | depth + 1 =>
        match skipSpace rest with
        | '\x7d' :: rest => some (object [], rest)
        | rest => fields?? fuel depth [] rest
    | 't' :: rest => word? "rue" (bool true) rest
    | 'f' :: rest => word? "alse" (bool false) rest
    | 'n' :: rest => word? "ull" null rest
    | '-' :: rest => numeral? true rest
    | c :: rest => numeral? false (c :: rest)

/-- The items of an array up to its closing bracket. -/
def items?? : Nat → Nat → List Json → List Char → Option (Json × List Char)
  | 0, _, _, _ => none
  | fuel + 1, depth, acc, cs =>
    match value? fuel depth cs with
    | none => none
    | some (j, rest) =>
      match skipSpace rest with
      | ',' :: rest => items?? fuel depth (j :: acc) rest
      | ']' :: rest => some (array (j :: acc).reverse, rest)
      | _ => none

/-- The fields of an object up to its closing brace. -/
def fields?? : Nat → Nat → List (String × Json) → List Char → Option (Json × List Char)
  | 0, _, _, _ => none
  | fuel + 1, depth, acc, cs =>
    match skipSpace cs with
    | '"' :: rest =>
      match text?? rest with
      | none => none
      | some (key, rest) =>
        match skipSpace rest with
        | ':' :: rest =>
          match value? fuel depth rest with
          | none => none
          | some (j, rest) =>
            match skipSpace rest with
            | ',' :: rest => fields?? fuel depth ((key, j) :: acc) rest
            | '\x7d' :: rest => some (object (Bindings.ofList ((key, j) :: acc).reverse), rest)
            | _ => none
        | _ => none
    | _ => none

end

/-- The depth to which arrays and objects may nest. -/
def maxDepth : Nat := 127

/-- The tree that a text holds, with white space around it and nothing else. -/
def parse (s : String) : Option Json :=
  let cs := s.toList
  match value? (2 * cs.length + 2) maxDepth cs with
  | some (j, rest) => if skipSpace rest = [] then some j else none
  | none => none

end Workflow.Json

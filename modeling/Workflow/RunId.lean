import Workflow.Decimal.Reading

/-!
# Identifiers of runs

A run is identified by 128 bits. They are written as 32 lower-case hexadecimal digits in groups of
8, 4, 4, 4 and 12 with hyphens between. The reader also takes capitals, the digits without hyphens,
and the hyphenated form between braces or behind `urn:uuid:`.

## Main definitions

* `Workflow.RunId` — the identifiers.
* `Workflow.RunId.text`, `Workflow.RunId.ofText?` — the written form.
-/

namespace Workflow

/-- The identifier of a run. -/
structure RunId where
  bits : BitVec 128
deriving DecidableEq, Repr

namespace RunId

instance : Inhabited RunId := ⟨⟨0⟩⟩

/-- The identifier with a number. -/
def ofNat (n : Nat) : RunId := ⟨BitVec.ofNat 128 n⟩

/-- The hexadecimal digit of a number below sixteen. -/
def hexDigit (n : Nat) : Char :=
  if n < 10 then Char.ofNat ('0'.toNat + n) else Char.ofNat ('a'.toNat + (n - 10))

/-- The number of a hexadecimal digit. -/
def hexValue? (c : Char) : Option Nat :=
  if '0' ≤ c ∧ c ≤ '9' then some (c.toNat - '0'.toNat)
  else if 'a' ≤ c ∧ c ≤ 'f' then some (c.toNat - 'a'.toNat + 10)
  else if 'A' ≤ c ∧ c ≤ 'F' then some (c.toNat - 'A'.toNat + 10)
  else none

/-- The last `width` hexadecimal digits of a number. -/
def hexDigits : Nat → Nat → List Char
  | 0, _ => []
  | width + 1, n => hexDigits width (n / 16) ++ [hexDigit (n % 16)]

/-- The number that hexadecimal digits write. -/
def hexNumber? (cs : List Char) : Option Nat :=
  cs.foldl (fun n c => do some (16 * (← n) + (← hexValue? c))) (some 0)

/-- The lengths of the groups. -/
def groups : List Nat := [8, 4, 4, 4, 12]

/-- Digits in groups of given lengths with hyphens between. -/
def hyphenate : List Nat → List Char → List Char
  | [], cs => cs
  | [_], cs => cs
  | n :: rest, cs => cs.take n ++ '-' :: hyphenate rest (cs.drop n)

/-- Digits without the hyphens behind groups of given lengths; none when a hyphen is missing. -/
def unhyphenate? : List Nat → List Char → Option (List Char)
  | [], cs => some cs
  | [_], cs => some cs
  | n :: rest, cs =>
    match cs.drop n with
    | '-' :: behind => (unhyphenate? rest behind).map (cs.take n ++ ·)
    | _ => none

/-- The written form. -/
def text (r : RunId) : String := String.ofList (hyphenate groups (hexDigits 32 r.bits.toNat))

/-- The identifier that 32 hexadecimal digits write. -/
def ofDigits? (cs : List Char) : Option RunId :=
  if cs.length = 32 then (hexNumber? cs).map ofNat else none

/-- The identifier that digits in hyphenated groups write. -/
def ofHyphenated? (cs : List Char) : Option RunId := (unhyphenate? groups cs).bind ofDigits?

/-- What may stand before the hyphenated form. -/
def namespaceMark : List Char := "urn:uuid:".toList

/-- The identifier that a text writes. -/
def ofText? (s : String) : Option RunId :=
  let cs := s.toList
  match cs.length with
  | 32 => ofDigits? cs
  | 36 => ofHyphenated? cs
  | 38 =>
    match cs, cs.getLast? with
    | '\x7b' :: rest, some '\x7d' => ofHyphenated? rest.dropLast
    | _, _ => none
  | 45 =>
    if namespaceMark.isPrefixOf cs then ofHyphenated? (cs.drop namespaceMark.length) else none
  | _ => none

end RunId

end Workflow

/-!
# Characters of bytes

The characters that bytes stand for when every character takes one byte to four. Bytes that stand
for no character are shown by replacement characters: one for the beginning of a character that does
not go on, and one for any other byte.

## Main definitions

* `Workflow.Text.ofBytes` — the text that bytes stand for.
-/

namespace Workflow.Text

/-- What stands for bytes that are no character. -/
def replacement : Char := '\uFFFD'

/-- The beginning of a character. -/
structure Beginning where
  /-- The number that the bytes so far make. -/
  number : Nat
  /-- The bytes still to come. -/
  missing : Nat
  /-- The least that the next byte may be. -/
  least : Nat
  /-- The most that the next byte may be. -/
  most : Nat
deriving DecidableEq, Repr

/-- The beginning of a character with a first byte. The bounds of the second byte leave out numbers
that fewer bytes make, and those that are no characters. -/
def Beginning.ofByte? (b : Nat) : Option Beginning :=
  if b ≤ 0x7F then some ⟨b, 0, 0x80, 0xBF⟩
  else if 0xC2 ≤ b ∧ b ≤ 0xDF then some ⟨b - 0xC0, 1, 0x80, 0xBF⟩
  else if b = 0xE0 then some ⟨0, 2, 0xA0, 0xBF⟩
  else if b = 0xED then some ⟨0xD, 2, 0x80, 0x9F⟩
  else if 0xE1 ≤ b ∧ b ≤ 0xEF then some ⟨b - 0xE0, 2, 0x80, 0xBF⟩
  else if b = 0xF0 then some ⟨0, 3, 0x90, 0xBF⟩
  else if 0xF1 ≤ b ∧ b ≤ 0xF3 then some ⟨b - 0xF0, 3, 0x80, 0xBF⟩
  else if b = 0xF4 then some ⟨4, 3, 0x80, 0x8F⟩
  else none

/-- The beginning together with its next byte. -/
def Beginning.next (s : Beginning) (b : Nat) : Beginning :=
  ⟨s.number * 64 + (b - 0x80), s.missing - 1, 0x80, 0xBF⟩

/-- The character of a beginning that is complete, or what has begun. -/
def Beginning.settled (s : Beginning) : List Char × Option Beginning :=
  if s.missing = 0 then ([Char.ofNat s.number], none) else ([], some s)

/-- What a byte at the beginning of a character completes, and what it begins. -/
def firstByte (b : Nat) : List Char × Option Beginning :=
  match Beginning.ofByte? b with
  | some s => s.settled
  | none => ([replacement], none)

/-- What a byte completes, and what has begun behind it. -/
def nextByte (begun : Option Beginning) (b : Nat) : List Char × Option Beginning :=
  match begun with
  | none => firstByte b
  | some s =>
    if s.least ≤ b ∧ b ≤ s.most then (s.next b).settled
    else (replacement :: (firstByte b).1, (firstByte b).2)

/-- The characters of bytes behind the beginning of a character. -/
def charsOfBytes (begun : Option Beginning) : List UInt8 → List Char
  | [] => if begun.isSome then [replacement] else []
  | b :: rest =>
    let (complete, begun) := nextByte begun b.toNat
    complete ++ charsOfBytes begun rest

/-- The text that bytes stand for. -/
def ofBytes (bytes : List UInt8) : String := String.ofList (charsOfBytes none bytes)

end Workflow.Text

import Workflow.Pattern.Basic

/-!
# Sizes of patterns

How many bytes the automaton of a pattern takes, which reads the UTF-8 encoding of a text byte by
byte. There are two automata: one reads forward and remembers groups, the other reads backward and
does not. A repetition takes a copy of its pattern for each time that is asked for, so that short
patterns may have huge automata; a pattern fits when neither takes more than ten mebibytes.

A set of characters is split into sequences of byte ranges. Reading forward, states are shared where
the same bytes may follow; reading backward, they are shared where the same bytes have gone before
in the text order.

## Main definitions

* `Workflow.Pattern.byteSequences` — the sequences of byte ranges of a set.
* `Workflow.Pattern.size` — the bytes of an automaton.
* `Workflow.Pattern.fits` — the pattern is not too large.
-/

namespace Workflow.Pattern

open Text (CharSet)

/-! ### Sets -/

/-- A range of bytes. -/
abbrev ByteRange := Nat × Nat

/-- The sequences of byte ranges for the numbers from `lo` to `hi` that are written with `k` further
bytes of six bits; the first byte is counted from `base`. -/
def spans : (k base lo hi : Nat) → List (List ByteRange)
  | 0, base, lo, hi => [[(base + lo, base + hi)]]
  | k + 1, base, lo, hi =>
    let unit := Nat.pow 64 (k + 1)
    let first := lo / unit
    let last := hi / unit
    let under (a b lo hi : Nat) : List (List ByteRange) :=
      (spans k 0x80 lo hi).map ((base + a, base + b) :: ·)
    if first = last then under first last (lo % unit) (hi % unit)
    else
      let cutsFirst := lo % unit != 0
      let cutsLast := hi % unit != unit - 1
      let a := if cutsFirst then first + 1 else first
      let b := if cutsLast then last - 1 else last
      (if cutsFirst then under first first (lo % unit) (unit - 1) else []) ++
        (if a ≤ b then under a b 0 (unit - 1) else []) ++
        (if cutsLast then under last last 0 (hi % unit) else [])

/-- The ranges of code points with encodings of one length: the first and the last, the number of
bytes behind the first byte, and the start of the first byte. -/
def encodings : List (Nat × Nat × Nat × Nat) :=
  [(0, 0x7F, 0, 0), (0x80, 0x7FF, 1, 0xC0), (0x800, 0xD7FF, 2, 0xE0), (0xE000, 0xFFFF, 2, 0xE0),
   (0x10000, 0x10FFFF, 3, 0xF0)]

/-- The sequences of byte ranges that encode the members of a set, ascending. -/
def byteSequences (s : CharSet) : List (List ByteRange) :=
  s.ranges.flatMap fun r =>
    encodings.flatMap fun (first, last, k, base) =>
      let lo := max r.1 first
      let hi := min r.2 last
      if lo ≤ hi then spans k base lo hi else []

/-- The number of entries that two lists have in common at the front. -/
def sharedFront : List ByteRange → List ByteRange → Nat
  | a :: as, b :: bs => if a = b then sharedFront as bs + 1 else 0
  | _, _ => 0

/-- The bytes of one state. -/
def stateSize : Nat := 32

/-- The bytes of one step from a state that has several. -/
def stepSize : Nat := 8

/-- The bytes of one way on from a state that reads nothing. -/
def branchSize : Nat := 4

/-- The states that read sequences backward: one for each beginning of a sequence. -/
def backwardStates (previous : List ByteRange) : List (List ByteRange) → Nat
  | [] => 0
  | s :: rest => s.length - sharedFront previous s + backwardStates s rest

/-- What may follow each first range of some ascending sequences. -/
def followers : List (List ByteRange) → List (ByteRange × List (List ByteRange))
  | [] => []
  | [] :: rest => followers rest
  | (a :: s) :: rest =>
    match followers rest with
    | (b, tails) :: more =>
      if a = b then (a, s :: tails) :: more else (a, [s]) :: (b, tails) :: more
    | [] => [(a, [s])]

/-- All that may follow a beginning of some sequences, `depth` bytes long at most. -/
def remainders : (depth : Nat) → List (List ByteRange) → List (List (List ByteRange))
  | 0, _ => []
  | depth + 1, sequences =>
    if sequences = [[]] then []
    else sequences :: (followers sequences).flatMap fun f => remainders depth f.2

/-- The bytes of a set whose members are not all ASCII, when it is read backward. -/
def backwardSetSize (s : CharSet) : Nat :=
  let sequences := byteSequences s
  stateSize * (backwardStates [] sequences + 2) + branchSize * sequences.length

/-- The bytes of a set whose members are not all ASCII, when it is read forward: sequences with the
same remainder share the states that read it. -/
def forwardSetSize (s : CharSet) : Nat :=
  (remainders 5 (byteSequences s)).eraseDups.foldl
    (fun n r => n + (stateSize + stepSize * (followers r).length)) stateSize

/-- The bytes of a set: none to read without members, each byte of a single character on its own,
one state for all of ASCII, and else as `large` says. -/
def setSize (large : CharSet → Nat) (s : CharSet) : Nat :=
  match s.ranges with
  | [] => stateSize
  | [(lo, hi)] =>
    if lo = hi then stateSize * (Char.ofNat lo).utf8Size
    else if hi < 0x80 then 2 * stateSize + stepSize
    else large s
  | ranges =>
    if (ranges.getLast?.map Prod.snd).getD 0 < 0x80 then 2 * stateSize + stepSize * ranges.length
    else large s

/-! ### Patterns -/

/-- The pattern matches the empty text only. -/
def isHollow : Pattern → Bool
  | empty => true
  | oneOf _ => false
  | holds _ => true
  | seq p q => p.isHollow && q.isHollow
  | alt p q => p.isHollow && q.isHollow
  | times p _ most => p.isHollow || most = some 0
  | group p => p.isHollow

/-- Some match of the pattern is empty. -/
def mayBeEmpty : Pattern → Bool
  | empty => true
  | oneOf _ => false
  | holds _ => true
  | seq p q => p.mayBeEmpty && q.mayBeEmpty
  | alt p q => p.mayBeEmpty || q.mayBeEmpty
  | times p least _ => least = 0 || p.mayBeEmpty
  | group p => p.mayBeEmpty

/-- The set of a pattern whose alternatives are all single characters. -/
def asSet? : Pattern → Option CharSet
  | oneOf s => some s
  | alt p q => do return (← p.asSet?).union (← q.asSet?)
  | _ => none

/-- A state with two ways on. -/
def forkSize : Nat := stateSize + 2 * branchSize

/-- The bytes of a repetition of a pattern of a size. -/
def timesSize (size : Nat) (mayBeEmpty : Bool) (least : Nat) (most : Option Nat) : Nat :=
  match most with
  | none =>
    if least = 0 then
      if mayBeEmpty then size + 2 * forkSize + stateSize else size + forkSize
    else least * size + forkSize
  | some most =>
    if most = 0 then stateSize
    else if most ≤ least then least * size
    else if least = 0 ∧ most = 1 then size + forkSize + stateSize
    else
      (if least = 0 then stateSize else least * size) + stateSize +
        (most - least) * (forkSize + size)

/-- The bytes of a pattern, when sets take what `large` says and each group takes `marks`; within
an alternative, the alternatives of a pattern join those around them. A repetition of what matches
the empty text only takes one time at most. -/
def sizeWithin (large : CharSet → Nat) (marks : Nat) (within : Bool) : Pattern → Nat
  | alt p q =>
    match (alt p q).asSet? with
    | some s => setSize large s
    | none =>
      (if within then 0 else 2 * stateSize) + sizeWithin large marks true p +
        sizeWithin large marks true q
  | p =>
    let size := match p with
      | oneOf s => setSize large s
      | seq empty q => sizeWithin large marks false q
      | seq p empty => sizeWithin large marks false p
      | seq p q => sizeWithin large marks false p + sizeWithin large marks false q
      | times p least most =>
        let size := sizeWithin large marks false p
        if p.isHollow then
          timesSize size true (min least 1) (some (min (most.getD 1) 1))
        else timesSize size p.mayBeEmpty least most
      | group p => sizeWithin large marks false p + marks
      | _ => stateSize
    if within then size + branchSize else size

/-- The bytes of the automaton of a pattern that reads in one direction. -/
def size (large : CharSet → Nat) (marks : Nat) (p : Pattern) : Nat := sizeWithin large marks false p

/-- The bytes of the marks of one group. -/
def groupMarks : Nat := 2 * stateSize

/-- The states around a pattern that pass the text before a match and end it. -/
def frameSize : Nat := 3 * stateSize + forkSize + stepSize

/-- The bytes that each automaton may take. -/
def sizeLimit : Nat := 10 * Nat.pow 2 20

/-- Neither automaton of a pattern is too large. -/
def fits (p : Pattern) : Bool :=
  p.size backwardSetSize 0 + frameSize ≤ sizeLimit &&
    (p.size backwardSetSize groupMarks + groupMarks + frameSize ≤ sizeLimit ||
      p.size forwardSetSize groupMarks + groupMarks + frameSize ≤ sizeLimit)

end Workflow.Pattern

import Workflow.Yaml.Scalar
import Workflow.Yaml.Token

/-!
# Writing YAML

A document tree as text in block style, indented by two spaces a level; the items of a sequence
stand under its key without indentation. A text is written plainly if it reads back as it is,
between single quotes if it does not, as a literal block if it has several lines, and between double
quotes if it holds what no other form can hold. A key of several lines, or of more than 128 bytes,
stands behind a question mark.

## Main definitions

* `Workflow.Yaml.scalarText` — the written form of a text.
* `Workflow.Yaml.print` — the written form of a tree.
-/

namespace Workflow.Yaml

/-! ### Scalars -/

/-- Floating-point numbers are written without an exponent from `10^-5` up to `10^16`, and always
show a point or an exponent. -/
def floatLayout : Decimal.Layout where
  positional e := -5 ≤ e && e < 16
  pointZero := true
  plusExponent := false
  signedZero := true
  tie := .toEven
  nan := ".nan"
  infinity := ".inf"

/-- A character that is written as it is. -/
def isPrintable (c : Char) : Bool :=
  let n := c.toNat
  n = 0x0A || (0x20 ≤ n && n ≤ 0x7E) || (0xA0 ≤ n && n ≤ 0xD7FF) ||
    (0xE000 ≤ n && n ≤ 0xFFFD && n ≠ 0xFEFF) || 0x10000 ≤ n

/-- A text that would be taken for something else if it were written plainly. -/
def isAmbiguous (s : String) : Bool :=
  hasLeadingZero s.toList ||
    match Plain.of s with
    | .text => false
    | _ => true

/-- The characters that may not begin a plain scalar. -/
def firstMarks : List Char :=
  ['#', ',', '[', ']', '\x7b', '\x7d', '&', '*', '!', '|', '>', '\'', '"', '%', '@', '\x60']

/-- A colon before white space or the end, or a number sign behind white space, is among the
characters. -/
def hasInnerMark (afterSpace : Bool) : List Char → Bool
  | [] => false
  | c :: cs =>
    (c = ':' && endsWord cs) || (c = '#' && afterSpace) ||
      hasInnerMark (isGap c || isBreak c) cs

/-- Characters that stand for something else at the place of a plain scalar. -/
def hasMark (cs : List Char) : Bool :=
  match cs with
  | [] => false
  | c :: rest =>
    ['-', '-', '-'].isPrefixOf cs || ['.', '.', '.'].isPrefixOf cs || firstMarks.contains c ||
      ((c = '?' || c = ':' || c = '-') && endsWord rest) || hasInnerMark (isGap c || isBreak c) rest

/-- One of two neighbours in a list satisfies one test, and the next one another test. -/
def hasPair (p q : Char → Bool) : List Char → Bool
  | a :: b :: rest => (p a && q b) || hasPair p q (b :: rest)
  | _ => false

/-- The forms of a text. -/
inductive Form where
  | plain
  | singleQuoted
  | doubleQuoted
  | literal
deriving DecidableEq, Repr

/-- The form that a text is written in. -/
def formOf (s : String) : Form :=
  let cs := s.toList
  let isSpace (c : Char) : Bool := c = ' '
  let spaceBreak := hasPair isSpace isBreak cs
  let breakSpace := hasPair isBreak isSpace cs
  let ends (p : Char → Bool) : Bool := cs.getLast?.any p
  if cs.any (fun c => !isPrintable c) || spaceBreak then .doubleQuoted
  else if cs.contains '\n' then if ends isSpace then .doubleQuoted else .literal
  else
    let plain := !isAmbiguous s && !cs.any isBreak && !hasMark cs && !cs.head?.any isSpace &&
      !ends isSpace
    if plain then .plain else if breakSpace then .doubleQuoted else .singleQuoted

/-- Spaces. -/
def spaces (n : Nat) : List Char := List.replicate n ' '

/-- Characters with each quote written twice; what follows a line end is indented, the closing quote
too. -/
def singleQuotedFrom (indent : Nat) (afterBreak : Bool) : List Char → List Char
  | [] => if afterBreak then spaces indent else []
  | c :: cs =>
    if isBreak c then c :: singleQuotedFrom indent true cs
    else
      (if afterBreak then spaces indent else []) ++ (if c = '\'' then ['\'', '\''] else [c]) ++
        singleQuotedFrom indent false cs

/-- A hexadecimal digit in upper case. -/
def upperHexDigit (n : Nat) : Char :=
  if n < 10 then Char.ofNat ('0'.toNat + n) else Char.ofNat ('A'.toNat + (n - 10))

/-- A number in hexadecimal digits. -/
def hexDigits : (width : Nat) → Nat → List Char
  | 0, _ => []
  | width + 1, n => hexDigits width (n / 16) ++ [upperHexDigit (n % 16)]

/-- The characters that stand for a character between double quotes. -/
def doubleQuotedChar (c : Char) : List Char :=
  if isPrintable c && !isBreak c && c != '"' && c != '\\' then [c]
  else
    match escapes.find? fun e => e.2 = c ∧ e.1 ≠ '\t' with
    | some (e, _) => ['\\', e]
    | none =>
      let n := c.toNat
      if n ≤ 0xFF then '\\' :: 'x' :: hexDigits 2 n
      else if n ≤ 0xFFFF then '\\' :: 'u' :: hexDigits 4 n
      else '\\' :: 'U' :: hexDigits 8 n

/-- The lines of a literal block, indented; empty lines are not. -/
def literalLines (indent : Nat) (afterBreak : Bool) : List Char → List Char
  | [] => []
  | c :: cs =>
    if isBreak c then c :: literalLines indent true cs
    else (if afterBreak then spaces indent else []) ++ c :: literalLines indent false cs

/-- The marks of a literal block: its indentation if it begins with white space, and what becomes of
the line ends at its end. -/
def literalMarks (cs : List Char) : List Char :=
  let lead := if cs.head?.any fun c => c = ' ' || isBreak c then ['2'] else []
  let tail := match cs.reverse with
    | [] => ['-']
    | [c] => if isBreak c then ['+'] else ['-']
    | c :: d :: _ => if !isBreak c then ['-'] else if isBreak d then ['+'] else []
  lead ++ tail

/-- A literal block. -/
def literalBlock (indent : Nat) (cs : List Char) : List Char :=
  '|' :: literalMarks cs ++ '\n' :: literalLines indent true cs

/-- The written form of a text; its further lines are indented. -/
def scalarText (indent : Nat) (s : String) : String :=
  let cs := s.toList
  match formOf s with
  | .plain => s
  | .singleQuoted => String.ofList ('\'' :: singleQuotedFrom indent false cs ++ ['\''])
  | .doubleQuoted => String.ofList ('"' :: cs.flatMap doubleQuotedChar ++ ['"'])
  | .literal => String.ofList (literalBlock indent cs)

/-- A key that can stand before its colon. -/
def isSimpleKey (s : String) : Bool := !s.toList.any isBreak && s.utf8ByteSize ≤ 128

/-! ### Trees -/

/-- The line end behind a text, unless it ends with one: a literal block may. -/
def lineEndBehind (s : String) : List Char :=
  if s.toList.getLast?.any isBreak then [] else ['\n']

/-- Texts that begin at a column, on lines of their own, of which the first one has begun. -/
def stacked (column : Nat) : List String → String
  | [] => ""
  | [s] => s
  | s :: rest => s ++ String.ofList (lineEndBehind s ++ spaces column) ++ stacked column rest

/-- The written form of a tree that is no collection, or an empty one, if it is; its further lines
are indented. -/
def inline? (indent : Nat) : Json → Option String
  | .null => some "null"
  | .bool b => some (if b then "true" else "false")
  | .integer n => some (Decimal.intText n)
  | .float x => some (floatLayout.render x)
  | .text s => some (scalarText indent s)
  | .array [] => some "[]"
  | .object [] => some "\x7b\x7d"
  | _ => none

mutual

/-- A tree behind a dash, or behind the colon of a long key, at a column. -/
def beside (column : Nat) (j : Json) : String :=
  match inline? (column + 2) j with
  | some s => s
  | none =>
    match j with
    | .array items => stacked (column + 2) (itemLines (column + 2) items)
    | .object fields => stacked (column + 2) (fieldLines (column + 2) fields)
    | _ => ""

/-- The items of a sequence at a column. -/
def itemLines (column : Nat) : List Json → List String
  | [] => []
  | j :: rest => ("- " ++ beside column j) :: itemLines column rest

/-- The fields of a mapping at a column. -/
def fieldLines (column : Nat) : List (String × Json) → List String
  | [] => []
  | (k, j) :: rest => fieldLine column k j :: fieldLines column rest

/-- A field of a mapping at a column. -/
def fieldLine (column : Nat) (k : String) (j : Json) : String :=
  let key := scalarText (column + 2) k
  if isSimpleKey k then
    match inline? (column + 2) j with
    | some s => key ++ ": " ++ s
    | none =>
      match j with
      | .array items => key ++ ":" ++ String.ofList ('\n' :: spaces column) ++
          stacked column (itemLines column items)
      | .object fields => key ++ ":" ++ String.ofList ('\n' :: spaces (column + 2)) ++
          stacked (column + 2) (fieldLines (column + 2) fields)
      | _ => key
  else stacked column ["? " ++ key, ": " ++ beside column j]

end

/-- The written form of a tree. -/
def print (j : Json) : String :=
  let text := match inline? 2 j with
    | some s => s
    | none =>
      match j with
      | .array items => stacked 0 (itemLines 0 items)
      | .object fields => stacked 0 (fieldLines 0 fields)
      | _ => ""
  text ++ String.ofList (lineEndBehind text)

end Workflow.Yaml

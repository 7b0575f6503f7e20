import Workflow.Pattern.ClassName
import Workflow.Pattern.Size
import Workflow.Decimal.Reading

/-!
# Reading patterns

The written form of patterns: literals and escapes, character classes with set operations, groups
with flags, alternatives, repetitions, and assertions. There is no looking around and no reference
back to a group. A verbose pattern may hold blanks and remarks nearly everywhere, within escapes and
counts too.

## Main definitions

* `Workflow.Pattern.Fault` — what is wrong with a written pattern.
* `Workflow.Pattern.ofText` — the pattern of a text.
-/

namespace Workflow.Pattern

open Text (CharSet)

/-- What is wrong with a written pattern. -/
inductive Fault where
  | unclosedGroup
  | unopenedGroup
  | unclosedClass
  | badRange
  | badEscape
  | badProperty
  | notAscii
  | badFlags
  | badGroupName
  | lookAround
  | backReference
  | nothingToRepeat
  | badCount
  | tooDeep
  | tooLarge
deriving DecidableEq, Repr

/-- The text of a fault. -/
def Fault.message : Fault → String
  | unclosedGroup => "unclosed group"
  | unopenedGroup => "unopened group"
  | unclosedClass => "unclosed character class"
  | badRange => "invalid character class range, the start must be <= the end"
  | badEscape => "unrecognized escape sequence"
  | badProperty => "Unicode property not found"
  | notAscii => "pattern can match more than ASCII"
  | badFlags => "unrecognized flag"
  | badGroupName => "invalid capture group name"
  | lookAround => "look-around, including look-ahead and look-behind, is not supported"
  | backReference => "backreferences are not supported"
  | nothingToRepeat => "repetition operator missing expression"
  | badCount => "invalid repetition count"
  | tooDeep => "exceeds nest limit"
  | tooLarge => "exceeds size limit"

/-- The flags in force at a place of a written pattern. With `ascii`, a set may hold ASCII
characters only; with `returns`, a carriage return ends a line as a line feed does. -/
structure Flags where
  ignoreCase : Bool := false
  multiLine : Bool := false
  dotAll : Bool := false
  verbose : Bool := false
  ascii : Bool := false
  returns : Bool := false

/-- What a reader gives back: something read and the characters behind it. -/
abbrev Read (α : Type) := Except Fault (α × List Char)

/-- Passes the blanks and remarks that a verbose pattern may hold. -/
def skipVerbose (flags : Flags) (cs : List Char) : List Char :=
  if flags.verbose then go (cs.length + 1) cs else cs
where
  /-- Passes blanks and remarks, `fuel` at most. -/
  go : Nat → List Char → List Char
    | 0, cs => cs
    | fuel + 1, cs =>
      match cs.dropWhile Text.isBlank with
      | '#' :: rest => go fuel (rest.dropWhile (· != '\n'))
      | cs => cs

/-- The characters that pass a test, with what may stand between them passed over, and the
characters behind them. -/
def run (flags : Flags) (passes : Char → Bool) (cs : List Char) : List Char × List Char :=
  go (cs.length + 1) cs
where
  /-- Reads `fuel` characters at most. -/
  go : Nat → List Char → List Char × List Char
    | fuel + 1, c :: rest =>
      if passes c then
        let (found, behind) := go fuel (skipVerbose flags rest)
        (c :: found, behind)
      else ([], c :: rest)
    | _, cs => ([], cs)

/-! ### Sets under flags -/

/-- A set with the variants of its members when the flags ask for them; under `ascii` only letters
of ASCII have any. -/
def caseClosed (flags : Flags) (s : CharSet) : CharSet :=
  if !flags.ignoreCase then s
  else if flags.ascii then
    s.union ((Text.closeCase (s.inter (.range 0 0x7F))).inter (.range 0 0x7F))
  else Text.closeCase s

/-- A finished set or its complement. Under `ascii` sets hold bytes, and a finished one may hold
none above ASCII. -/
def finished (flags : Flags) (negated : Bool) (s : CharSet) : Except Fault CharSet :=
  let s :=
    if !negated then s else if flags.ascii then (CharSet.range 0 0xFF).diff s else s.complement
  if flags.ascii && (s.inter (.range 0x80 0x10FFFF)).ranges != [] then .error .notAscii
  else .ok s

/-- A set that has an ASCII form, in the form that the flags ask for. -/
def shorthand (flags : Flags) (negated : Bool) (unicode : CharSet) (ascii : String) :
    Except Fault CharSet :=
  finished flags negated (if flags.ascii then (asciiClass? ascii).getD .none else unicode)

/-! ### Escapes -/

/-- A character with a meaning of its own. -/
def isMeta (c : Char) : Bool := "\\.+*?()|[]\x7b\x7d^$#&-~".toList.contains c

/-- A character that may be escaped without need. -/
def isPlainEscape (c : Char) : Bool :=
  c.toNat < 128 && !c.isAlphanum && c != '<' && c != '>'

/-- A hexadecimal digit. -/
def isHexDigit (c : Char) : Bool :=
  c.isDigit || ('a' ≤ c && c ≤ 'f') || ('A' ≤ c && c ≤ 'F')

/-- The character whose code point is written in hexadecimal, with any number of zeros in front. -/
def hexChar? (ds : List Char) : Option Char :=
  let n := ds.foldl (fun n d => 16 * n + CharSet.hexValue d) 0
  if ds ≠ [] ∧ (n < 0xD800 ∨ (0xE000 ≤ n ∧ n < 0x110000)) then some (Char.ofNat n) else none

/-- A code point with a fixed number of digits, or any number between braces: the character, and
whether it was written between braces. -/
def hexEscape (flags : Flags) (digits : Nat) (cs : List Char) : Read (Char × Bool) :=
  match skipVerbose flags cs with
  | '\x7b' :: rest =>
    let (ds, rest) := run flags isHexDigit (skipVerbose flags rest)
    match rest, hexChar? ds with
    | '\x7d' :: behind, some c => .ok ((c, true), behind)
    | _, _ => .error .badEscape
  | cs =>
    match fixed digits cs with
    | some (ds, rest) =>
      match hexChar? ds with
      | some c => .ok ((c, false), rest)
      | none => .error .badEscape
    | none => .error .badEscape
where
  /-- A number of digits. -/
  fixed : Nat → List Char → Option (List Char × List Char)
    | 0, cs => some ([], cs)
    | n + 1, c :: rest =>
      if isHexDigit c then
        (fixed n (skipVerbose flags rest)).map fun (ds, rest) => (c :: ds, rest)
      else none
    | _, [] => none

/-- What an escape stands for. A byte above ASCII is no character. -/
inductive Escaped where
  | char (c : Char)
  | byte (n : Nat)
  | set (s : CharSet)
  | assertion (a : Assertion)

/-- A property escape behind its letter. -/
def propertyEscape (flags : Flags) (negated : Bool) (cs : List Char) : Read CharSet :=
  let finish (name : List Char) (rest : List Char) : Read CharSet :=
    if flags.ascii then .error .notAscii
    else
      match named? (String.ofList name) with
      | some (complemented, s) =>
        (finished flags (negated != complemented) (caseClosed flags s)).map fun s => (s, rest)
      | none => .error .badProperty
  match skipVerbose flags cs with
  | [] => .error .badEscape
  | '\\' :: _ => .error .badProperty
  | '\x7b' :: rest =>
    match run flags (· != '\x7d') (skipVerbose flags rest) with
    | (_, []) => .error .badEscape
    | (name, _ :: behind) => finish name behind
  | c :: rest => finish [c] rest

/-- The kinds of word boundary that are named between braces. -/
def boundaryNamed? (ascii : Bool) : String → Option Assertion
  | "start" => some (.wordStart ascii)
  | "end" => some (.wordEnd ascii)
  | "start-half" => some (.noWordBefore ascii)
  | "end-half" => some (.noWordBehind ascii)
  | _ => none

/-- A word boundary, behind its letter: its kind may be named between braces, but braces that do not
begin with a letter or hyphen hold a count. -/
def boundaryEscape (flags : Flags) (cs : List Char) : Read Escaped :=
  let plain : Read Escaped := .ok (.assertion (.wordBoundary flags.ascii), cs)
  let isNameChar (c : Char) : Bool := c.isAlpha || c = '-'
  match cs with
  | '\x7b' :: rest =>
    match run flags isNameChar (skipVerbose flags rest) with
    | ([], []) => .error .badEscape
    | ([], _ :: _) => plain
    | (name, '\x7d' :: behind) =>
      match boundaryNamed? flags.ascii (String.ofList name) with
      | some a => .ok (.assertion a, behind)
      | none => .error .badEscape
    | _ => .error .badEscape
  | _ => plain

/-- An escape behind its backslash. -/
def escaped (flags : Flags) (cs : List Char) : Read Escaped :=
  let set (negated : Bool) (unicode : CharSet) (ascii : String) (rest : List Char) : Read Escaped :=
    (shorthand flags negated unicode ascii).map fun s => (.set s, rest)
  let code (digits : Nat) (rest : List Char) : Read Escaped :=
    (hexEscape flags digits rest).map fun ((c, braced), rest) =>
      if flags.ascii && digits = 2 && !braced && 0x7F < c.toNat then (.byte c.toNat, rest)
      else (.char c, rest)
  match cs with
  | [] => .error .badEscape
  | c :: rest =>
    match c with
    | 'x' => code 2 rest
    | 'u' => code 4 rest
    | 'U' => code 8 rest
    | 'p' => (propertyEscape flags false rest).map fun (s, rest) => (.set s, rest)
    | 'P' => (propertyEscape flags true rest).map fun (s, rest) => (.set s, rest)
    | 'd' => set false (Text.ofCategories [.decimalNumber]) "digit" rest
    | 'D' => set true (Text.ofCategories [.decimalNumber]) "digit" rest
    | 's' => set false (.ofRanges Text.blankRanges) "space" rest
    | 'S' => set true (.ofRanges Text.blankRanges) "space" rest
    | 'w' => set false Text.wordCharacters "word" rest
    | 'W' => set true Text.wordCharacters "word" rest
    | 'a' => .ok (.char (Char.ofNat 7), rest)
    | 'f' => .ok (.char (Char.ofNat 12), rest)
    | 't' => .ok (.char '\t', rest)
    | 'n' => .ok (.char '\n', rest)
    | 'r' => .ok (.char '\r', rest)
    | 'v' => .ok (.char (Char.ofNat 11), rest)
    | 'A' => .ok (.assertion .textStart, rest)
    | 'z' => .ok (.assertion .textEnd, rest)
    | 'b' => boundaryEscape flags rest
    | 'B' => .ok (.assertion (.noWordBoundary flags.ascii), rest)
    | '<' => .ok (.assertion (.wordStart flags.ascii), rest)
    | '>' => .ok (.assertion (.wordEnd flags.ascii), rest)
    | c =>
      if isMeta c || isPlainEscape c then .ok (.char c, rest)
      else if c.isDigit then .error .backReference
      else .error .badEscape

/-! ### Heights

A written pattern is a tree: of repetitions, groups and classes, of sequences and alternatives of
two and more, and within classes of unions of two and more and of set operations. The tree may not
be too high. -/

/-- The height of a tree with some subtrees, when it is a tree of its own only with two of them and
more. -/
def joinedHeight (heights : List Nat) : Nat :=
  let height := heights.foldl max 0
  if 2 ≤ heights.length then height + 1 else height

/-- The greatest height of a written pattern. -/
def heightLimit : Nat := 250

/-! ### Character classes -/

/-- A set operation of a class. -/
inductive SetOperation where
  | inter
  | diff
  | symmDiff
deriving DecidableEq

/-- The outcome of a set operation. -/
def SetOperation.apply : SetOperation → CharSet → CharSet → CharSet
  | inter, a, b => .inter a b
  | diff, a, b => .diff a b
  | symmDiff, a, b => .symmDiff a b

/-- A set as it is written, with the height of its tree. -/
structure ClassPart where
  set : CharSet
  height : Nat

/-- A class between colons, if one stands at the front, and whether its complement is meant. -/
def asciiClassAt? (cs : List Char) : Option (Bool × CharSet × List Char) :=
  match cs with
  | ':' :: rest =>
    let (negated, rest) := match rest with
      | '^' :: rest => (true, rest)
      | rest => (false, rest)
    let name := rest.takeWhile Char.isAlpha
    match rest.dropWhile Char.isAlpha with
    | ':' :: ']' :: behind =>
      (asciiClass? (String.ofList name)).map fun s => (negated, s, behind)
    | _ => none
  | _ => none

/-- One item of a class: a code point, which is a byte under `ascii`, or a set. -/
def classItem (flags : Flags) (cs : List Char) : Read (Nat ⊕ CharSet) :=
  let char (c : Char) (rest : List Char) : Read (Nat ⊕ CharSet) :=
    if flags.ascii && 0x7F < c.toNat then .error .notAscii else .ok (.inl c.toNat, rest)
  match cs with
  | [] => .error .unclosedClass
  | '\\' :: rest =>
    match escaped flags rest with
    | .ok (.char c, rest) => char c rest
    | .ok (.byte n, rest) => .ok (.inl n, rest)
    | .ok (.set s, rest) => .ok (.inr s, rest)
    | .ok (.assertion _, _) => .error .badEscape
    | .error e => .error e
  | c :: rest => char c rest

/-- The set of an item that is no range. -/
def itemSet : Nat ⊕ CharSet → CharSet
  | .inl n => .range n n
  | .inr s => s

/-- The character that counts as the next one behind a hyphen: in a verbose pattern blanks are
passed, and behind a number sign the first character of the remark counts. -/
def behindHyphen? (flags : Flags) (cs : List Char) : Option Char :=
  if flags.verbose then
    match cs.dropWhile Text.isBlank with
    | '#' :: remark => (remark.dropWhile Text.isBlank).head?.or cs.head?
    | [] => cs.head?
    | c :: _ => some c
  else cs.head?

/-- An item, or a range between two code points. -/
def classRange (flags : Flags) (cs : List Char) : Read CharSet :=
  match classItem flags cs with
  | .error e => .error e
  | .ok (first, rest) =>
    match skipVerbose flags rest with
    | [] => .error .unclosedClass
    | '-' :: behind =>
      let next := behindHyphen? flags behind
      if next = some ']' ∨ next = some '-' then .ok (itemSet first, '-' :: behind)
      else
        match first, classItem flags (skipVerbose flags behind) with
        | _, .error e => .error e
        | .inl a, .ok (.inl b, rest) =>
          if a ≤ b then .ok (.range a b, rest) else .error .badRange
        | _, .ok _ => .error .badRange
    | rest => .ok (itemSet first, rest)

/-- The leading hyphens of a class, each standing for itself. -/
def leadingHyphens (flags : Flags) : Nat → List Char → List ClassPart × List Char
  | 0, cs => ([], cs)
  | fuel + 1, cs =>
    match cs with
    | '-' :: rest =>
      let (parts, rest) := leadingHyphens flags fuel (skipVerbose flags rest)
      (⟨.single '-', 0⟩ :: parts, rest)
    | _ => ([], cs)

/-- The operand on the left of a set operation that waits for the one on the right. -/
abbrev Pending := Option (ClassPart × SetOperation)

/-- The union of the parts of a class, read in reverse, with the operation that waits applied. -/
def applyPending (flags : Flags) (pending : Pending) (parts : List ClassPart) : ClassPart :=
  let right : ClassPart :=
    ⟨caseClosed flags (.unions (parts.map ClassPart.set)),
      joinedHeight (parts.map ClassPart.height)⟩
  match pending with
  | none => right
  | some (left, o) => ⟨o.apply left.set right.set, joinedHeight [left.height, right.height]⟩

mutual

/-- A class behind its opening bracket. -/
def classBody (flags : Flags) : Nat → List Char → Read ClassPart
  | 0, _ => .error .tooDeep
  | fuel + 1, cs =>
    let (negated, cs) := match skipVerbose flags cs with
      | '^' :: rest => (true, skipVerbose flags rest)
      | cs => (false, cs)
    let (parts, cs) := leadingHyphens flags cs.length cs
    let start := match parts, cs with
      | [], ']' :: rest => classItems flags fuel none [⟨.single ']', 0⟩] rest
      | parts, cs => classItems flags fuel none parts cs
    match start with
    | .ok (part, rest) =>
      (finished flags negated part.set).map fun s => (⟨s, part.height + 1⟩, rest)
    | .error e => .error e

/-- The items of a class up to its closing bracket. -/
def classItems (flags : Flags) : Nat → Pending → List ClassPart → List Char → Read ClassPart
  | 0, _, _, _ => .error .tooDeep
  | fuel + 1, pending, parts, cs =>
    let operation (o : SetOperation) (rest : List Char) : Read ClassPart :=
      classItems flags fuel (some (applyPending flags pending parts, o)) [] rest
    match skipVerbose flags cs with
    | [] => .error .unclosedClass
    | '[' :: rest =>
      match asciiClassAt? rest with
      | some (negated, s, rest) =>
        match finished flags negated (caseClosed flags s) with
        | .ok s => classItems flags fuel pending (⟨s, 0⟩ :: parts) rest
        | .error e => .error e
      | none =>
        match classBody flags fuel rest with
        | .ok (part, rest) => classItems flags fuel pending (part :: parts) rest
        | .error e => .error e
    | ']' :: rest => .ok (applyPending flags pending parts, rest)
    | '&' :: '&' :: rest => operation .inter rest
    | '-' :: '-' :: rest => operation .diff rest
    | '~' :: '~' :: rest => operation .symmDiff rest
    | cs =>
      match classRange flags cs with
      | .ok (s, rest) => classItems flags fuel pending (⟨s, 0⟩ :: parts) rest
      | .error e => .error e

end

/-! ### Groups and repetitions -/

/-- Sets or clears one flag. -/
def Flags.with? (flags : Flags) (c : Char) (on : Bool) : Option Flags :=
  match c with
  | 'i' => some { flags with ignoreCase := on }
  | 'm' => some { flags with multiLine := on }
  | 's' => some { flags with dotAll := on }
  | 'x' => some { flags with verbose := on }
  | 'u' => some { flags with ascii := !on }
  | 'U' => some flags
  | 'R' => some { flags with returns := on }
  | _ => none

/-- The flags of a group, up to the character that ends them; no flag may be repeated. -/
def readFlags : Flags → Bool → List Char → List Char → Read Flags
  | _, _, _, [] => .error .badFlags
  | flags, on, seen, c :: rest =>
    if c = ':' ∨ c = ')' then
      if seen.head? = some '-' then .error .badFlags else .ok (flags, c :: rest)
    else if c = '-' then
      if seen.contains '-' then .error .badFlags else readFlags flags false ('-' :: seen) rest
    else if seen.contains c then .error .badFlags
    else
      match flags.with? c on with
      | some flags => readFlags flags on (c :: seen) rest
      | none => .error .badFlags

/-- A character that may begin the name of a group. -/
def isNameStart (c : Char) : Bool := c = '_' || Text.alphabetic.mem c

/-- A character that may continue the name of a group. -/
def isNameRest (c : Char) : Bool :=
  c = '_' || c = '.' || c = '[' || c = ']' || Text.alphanumeric.mem c

/-- The name of a group up to its closing mark. -/
def groupName (cs : List Char) : Read String :=
  let name := cs.takeWhile (· != '>')
  match cs.dropWhile (· != '>'), name with
  | _ :: behind, c :: more =>
    if isNameStart c && more.all isNameRest then .ok (String.ofList name, behind)
    else .error .badGroupName
  | _, _ => .error .badGroupName

/-- The greatest count of a repetition. -/
def countLimit : Nat := Nat.pow 2 32 - 1

/-- A count between blanks. -/
def count? (flags : Flags) (cs : List Char) : Option Nat × List Char :=
  let (ds, rest) := run flags Decimal.isDigit (cs.dropWhile Text.isBlank)
  ((Decimal.nat? ds).filter (· ≤ countLimit), skipVerbose flags (rest.dropWhile Text.isBlank))

/-- A counted repetition behind its opening brace: its least and its greatest count. -/
def counts (flags : Flags) (cs : List Char) : Read (Nat × Option Nat) :=
  match count? flags (skipVerbose flags cs) with
  | (none, _) => .error .badCount
  | (some least, rest) =>
    match rest with
    | '\x7d' :: behind => .ok ((least, some least), behind)
    | ',' :: more =>
      match skipVerbose flags more with
      | '\x7d' :: behind => .ok ((least, none), behind)
      | more =>
        match count? flags more with
        | (some most, '\x7d' :: behind) =>
          if least ≤ most then .ok ((least, some most), behind) else .error .badCount
        | _ => .error .badCount
    | _ => .error .badCount

/-- Passes the mark that makes a repetition take as little as possible. -/
def skipLazy : List Char → List Char
  | '?' :: rest => rest
  | cs => cs

/-- A literal character under the flags; only ASCII has case when the flags say so. -/
def literal (flags : Flags) (c : Char) : Pattern :=
  let variants := (Text.caseVariants c.toNat).filter fun n => !flags.ascii || n < 0x80
  .oneOf (if flags.ignoreCase then .ofCodes (c.toNat :: variants) else .single c)

/-- An assertion at the start or end of the text, or of a line when the flags ask for it. -/
def anchor (flags : Flags) (text : Assertion) (line : Bool → Assertion) : Pattern :=
  .holds (if flags.multiLine then line flags.returns else text)

/-- Any character, one that ends a line only when the flags ask for it. -/
def anyChar (flags : Flags) : Except Fault Pattern :=
  if flags.ascii then .error .notAscii
  else if flags.dotAll then .ok (.oneOf .any)
  else if flags.returns then .ok (.oneOf (CharSet.ofCodes [10, 13]).complement)
  else .ok (.oneOf (CharSet.single '\n').complement)

/-- A pattern as it is written, with the height of its tree. -/
structure Part where
  pattern : Pattern
  height : Nat

/-- The sequence of items read in reverse, where `none` stands for a change of flags. -/
def sequence (items : List (Option Part)) : Part :=
  ⟨(items.reverse.filterMap id).foldr (fun p => Pattern.followedBy p.pattern) .empty,
    joinedHeight (items.map fun p => (p.map Part.height).getD 0)⟩

/-- The alternatives read in reverse. -/
def alternative (branches : List Part) : Part :=
  ⟨choice (branches.reverse.map Part.pattern), joinedHeight (branches.map Part.height)⟩

/-- A group with its body still to be read: how to go on, whether its match is remembered, and the
flags inside. -/
inductive Opening where
  | group (inner : Flags) (remembered : Bool) (name : Option String) (rest : List Char)
  | flagsOnly (flags : Flags) (rest : List Char)

/-- What stands behind an opening parenthesis. -/
def opening (flags : Flags) (cs : List Char) : Except Fault Opening :=
  let named (cs : List Char) : Except Fault Opening :=
    (groupName cs).map fun (n, rest) => .group flags true (some n) rest
  match cs with
  | '?' :: rest =>
    match rest with
    | '=' :: _ | '!' :: _ | '<' :: '=' :: _ | '<' :: '!' :: _ => .error .lookAround
    | 'P' :: '<' :: rest => named rest
    | '<' :: rest => named rest
    | ')' :: _ => .error .nothingToRepeat
    | rest =>
      match readFlags flags true [] rest with
      | .ok (inner, ':' :: rest) => .ok (.group inner false none rest)
      | .ok (inner, ')' :: rest) => .ok (.flagsOnly inner rest)
      | .ok _ => .error .badFlags
      | .error e => .error e
  | rest => .ok (.group flags true none rest)

/-- The names of groups met so far, with what was read. -/
abbrev Body := Part × List String × List Char

/-- The alternatives of a group, up to its closing parenthesis or the end. -/
def alternatives : Nat → Nat → Flags → List String → List Part → List (Option Part) →
    List Char → Except Fault Body
  | 0, _, _, _, _, _, _ => .error .tooDeep
  | fuel + 1, depth, flags, names, branches, items, cs =>
    let next (item : Pattern) (height : Nat) (rest : List Char) : Except Fault Body :=
      alternatives fuel depth flags names branches (some ⟨item, height⟩ :: items) rest
    let again (least : Nat) (most : Option Nat) (rest : List Char) : Except Fault Body :=
      match items with
      | some p :: before =>
        let repeated : Part := ⟨p.pattern.repeated least most, p.height + 1⟩
        alternatives fuel depth flags names branches (some repeated :: before) (skipLazy rest)
      | _ => .error .nothingToRepeat
    let finish (rest : List Char) : Except Fault Body :=
      .ok (alternative (sequence items :: branches), names, rest)
    match skipVerbose flags cs with
    | [] => finish []
    | ')' :: rest => finish (')' :: rest)
    | '|' :: rest => alternatives fuel depth flags names (sequence items :: branches) [] rest
    | '(' :: rest =>
      match depth with
      | 0 => .error .tooDeep
      | depth' + 1 =>
        match opening flags (skipVerbose flags rest) with
        | .error e => .error e
        | .ok (.flagsOnly flags rest) =>
          alternatives fuel depth flags names branches (none :: items) rest
        | .ok (.group inner remembered name rest) =>
          if name.any names.contains then .error .badGroupName
          else
            match alternatives fuel depth' inner (name.toList ++ names) [] [] rest with
            | .error e => .error e
            | .ok (body, names, ')' :: rest) =>
              let p := if remembered then .group body.pattern else body.pattern
              alternatives fuel depth flags names branches
                (some ⟨p, body.height + 1⟩ :: items) rest
            | .ok _ => .error .unclosedGroup
    | '[' :: rest =>
      match classBody flags (rest.length + 1) rest with
      | .ok (part, rest) => next (.oneOf part.set) part.height rest
      | .error e => .error e
    | '*' :: rest => again 0 none rest
    | '+' :: rest => again 1 none rest
    | '?' :: rest => again 0 (some 1) rest
    | '\x7b' :: rest =>
      match items with
      | some _ :: _ =>
        match counts flags rest with
        | .ok ((least, most), rest) => again least most (skipVerbose flags rest)
        | .error e => .error e
      | _ => .error .nothingToRepeat
    | '.' :: rest =>
      match anyChar flags with
      | .ok p => next p 0 rest
      | .error e => .error e
    | '^' :: rest => next (anchor flags .textStart .lineStart) 0 rest
    | '$' :: rest => next (anchor flags .textEnd .lineEnd) 0 rest
    | '\\' :: rest =>
      match escaped flags rest with
      | .ok (.char c, rest) => next (literal flags c) 0 rest
      | .ok (.byte _, _) => .error .notAscii
      | .ok (.set s, rest) => next (.oneOf s) 0 rest
      | .ok (.assertion a, rest) => next (.holds a) 0 rest
      | .error e => .error e
    | c :: rest => next (literal flags c) 0 rest

/-- The pattern that a text writes. -/
def ofText (s : String) : Except Fault Pattern :=
  let cs := s.toList
  match alternatives (2 * cs.length + 2) heightLimit {} [] [] [] cs with
  | .ok (part, _, []) =>
    if heightLimit < part.height then .error .tooDeep
    else if part.pattern.fits then .ok part.pattern
    else .error .tooLarge
  | .ok _ => .error .unopenedGroup
  | .error e => .error e

end Workflow.Pattern

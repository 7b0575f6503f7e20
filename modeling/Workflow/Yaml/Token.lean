import Workflow.Text.Blank

/-!
# Tokens of YAML

A document is read into tokens. The indentation of lines opens and closes block collections; what
could be a simple key is remembered until a colon makes it one, and the token of the key is then put
in front of it. Within brackets and braces indentation does not count.

## Main definitions

* `Workflow.Yaml.Token` — the tokens.
* `Workflow.Yaml.tokens?` — the tokens of a text.
-/

namespace Workflow.Yaml

/-- A token. -/
inductive Token where
  | versionDirective (major minor : Nat)
  | tagDirective (handle lead : String)
  | documentStart
  | documentEnd
  | sequenceStart
  | mappingStart
  | blockEnd
  | flowSequenceStart
  | flowSequenceEnd
  | flowMappingStart
  | flowMappingEnd
  | entry
  | flowEntry
  | key
  | value
  | alias (name : String)
  | anchor (name : String)
  | tag (handle suffix : String)
  | scalar (isPlain : Bool) (text : String)
deriving DecidableEq, Repr, Inhabited

/-! ### Characters -/

/-- A character that ends a line. -/
def isBreak (c : Char) : Bool :=
  c = '\n' || c = '\r' || c = '\u0085' || c = '\u2028' || c = '\u2029'

/-- A space or a tab. -/
def isGap (c : Char) : Bool := c = ' ' || c = '\t'

/-- Nothing more, or white space, comes next. -/
def endsWord : List Char → Bool
  | [] => true
  | c :: _ => isGap c || isBreak c

/-- A character that a document may hold. -/
def isAllowed (c : Char) : Bool :=
  let n := c.toNat
  n = 0x09 || n = 0x0A || n = 0x0D || (0x20 ≤ n && n ≤ 0x7E) || n = 0x85 ||
    (0xA0 ≤ n && n ≤ 0xD7FF) || (0xE000 ≤ n && n ≤ 0xFFFD) || 0x10000 ≤ n

/-- A character of the name of an anchor. -/
def isNameChar (c : Char) : Bool := c.isAlphanum || c = '_' || c = '-'

/-- A place in a document: the characters left, and the number of characters and lines before it
and of characters before it in its line. -/
structure Cursor where
  rest : List Char
  index : Nat
  line : Nat
  column : Nat

namespace Cursor

/-- The place a number of characters on, within a line. -/
def skip (c : Cursor) (n : Nat) : Cursor :=
  ⟨c.rest.drop n, c.index + n, c.line, c.column + n⟩

/-- The characters of the line end that comes next, and the place behind it. -/
def takeBreak (c : Cursor) : List Char × Cursor :=
  match c.rest with
  | '\r' :: '\n' :: cs => (['\n'], ⟨cs, c.index + 2, c.line + 1, 0⟩)
  | '\u2028' :: cs => (['\u2028'], ⟨cs, c.index + 1, c.line + 1, 0⟩)
  | '\u2029' :: cs => (['\u2029'], ⟨cs, c.index + 1, c.line + 1, 0⟩)
  | b :: cs => if isBreak b then (['\n'], ⟨cs, c.index + 1, c.line + 1, 0⟩) else ([], c)
  | [] => ([], c)

/-- The characters up to the first that a test does not hold for, and the place behind them. -/
def takeWhile (c : Cursor) (p : Char → Bool) : List Char × Cursor :=
  let cs := c.rest.takeWhile p
  (cs, c.skip cs.length)

/-- A line end or nothing comes next. -/
def atLineEnd (c : Cursor) : Bool :=
  match c.rest with
  | [] => true
  | b :: _ => isBreak b

/-- The line begins with one of the marks between documents. -/
def atDocumentMark (c : Cursor) : Bool :=
  c.column = 0 && match c.rest with
    | '-' :: '-' :: '-' :: cs => endsWord cs
    | '.' :: '.' :: '.' :: cs => endsWord cs
    | _ => false

/-- The place behind the white space and a comment up to the end of a line; nothing else may stand
there. -/
def toLineEnd? (c : Cursor) : Option Cursor :=
  let (_, c) := c.takeWhile isGap
  let c := match c.rest with
    | '#' :: _ => (c.takeWhile fun d => !isBreak d).2
    | _ => c
  if c.atLineEnd then some c else none

end Cursor

/-! ### White space within scalars -/

/-- White space between the words of a scalar. -/
structure Space where
  /-- The white space, while it is within a line. -/
  inline : List Char
  /-- It goes beyond the end of a line. -/
  isBroken : Bool
  /-- The first line end. -/
  firstBreak : List Char
  /-- The further line ends. -/
  furtherBreaks : List Char

/-- What white space becomes: a line end becomes a space, unless further ones follow, which stay. -/
def Space.folded (s : Space) : List Char :=
  if s.isBroken then
    match s.firstBreak with
    | '\n' :: _ => if s.furtherBreaks = [] then [' '] else s.furtherBreaks
    | first => first ++ s.furtherBreaks
  else s.inline

/-- The white space that comes next. In lines that follow, tabs may not stand before the column
`least`. -/
def space? (least : Int) : Nat → Space → Cursor → Option (Space × Cursor)
  | 0, s, c => some (s, c)
  | fuel + 1, s, c =>
    match c.rest with
    | [] => some (s, c)
    | d :: _ =>
      if isGap d then
        if s.isBroken then
          if d = '\t' ∧ (c.column : Int) < least then none else space? least fuel s (c.skip 1)
        else space? least fuel { s with inline := s.inline ++ [d] } (c.skip 1)
      else if isBreak d then
        let (b, c) := c.takeBreak
        if s.isBroken then space? least fuel { s with furtherBreaks := s.furtherBreaks ++ b } c
        else space? least fuel ⟨[], true, b, []⟩ c
      else some (s, c)

/-! ### Plain scalars -/

/-- The characters of a word of a plain scalar. Within brackets and braces a colon may not stand
before one of them. -/
def plainWord? (inFlow : Bool) : List Char → Option (List Char)
  | [] => some []
  | c :: cs =>
    if isGap c || isBreak c then some []
    else
      let next := cs.head?
      if inFlow && c = ':' && [',', '?', '[', ']', '\x7b', '\x7d'].any (fun d => next = some d) then
        none
      else if c = ':' && endsWord cs then some []
      else if inFlow && [',', '[', ']', '\x7b', '\x7d'].contains c then some []
      else (plainWord? inFlow cs).map (c :: ·)

/-- A plain scalar from a place on, with white space before it; its characters, whether it ends
behind a line end, and the place behind it. -/
def plainFrom? (inFlow : Bool) (least : Int) : Nat → Space → Cursor →
    Option (List Char × Bool × Cursor)
  | 0, s, c => some ([], s.isBroken, c)
  | fuel + 1, s, c =>
    if c.atDocumentMark || c.rest.head? = some '#' then some ([], s.isBroken, c)
    else do
      let word ← plainWord? inFlow c.rest
      if word = [] then some ([], s.isBroken, c)
      else
        let c := c.skip word.length
        let (next, behind) ← space? least c.rest.length ⟨[], false, [], []⟩ c
        if !endsWord c.rest || c.rest = [] then some (s.folded ++ word, false, c)
        else if !inFlow && (behind.column : Int) < least then
          some (s.folded ++ word, next.isBroken, behind)
        else
          let (more, isBroken, c) ← plainFrom? inFlow least fuel next behind
          some (s.folded ++ word ++ more, isBroken, c)

/-! ### Quoted scalars -/

/-- The character that an escape stands for, by the character behind the backslash. -/
def escapes : List (Char × Char) :=
  [('0', '\x00'), ('a', '\x07'), ('b', '\x08'), ('t', '\t'), ('\t', '\t'), ('n', '\n'),
   ('v', '\x0b'), ('f', '\x0c'), ('r', '\r'), ('e', '\x1b'), (' ', ' '), ('"', '"'), ('/', '/'),
   ('\\', '\\'), ('N', '\u0085'), ('_', '\u00a0'), ('L', '\u2028'), ('P', '\u2029')]

/-- The value of a hexadecimal digit. -/
def hexValue? (c : Char) : Option Nat :=
  if c.isDigit then some (c.toNat - '0'.toNat)
  else if 'a' ≤ c ∧ c ≤ 'f' then some (c.toNat - 'a'.toNat + 10)
  else if 'A' ≤ c ∧ c ≤ 'F' then some (c.toNat - 'A'.toNat + 10)
  else none

/-- The character that an escape stands for, and the number of characters it takes. -/
def escaped? : List Char → Option (Char × Nat)
  | [] => none
  | c :: cs =>
    let numbered (n : Nat) : Option (Char × Nat) := do
      let ds ← (cs.take n).mapM hexValue?
      if ds.length = n then
        let v := ds.foldl (fun v d => 16 * v + d) 0
        if v < 0xD800 ∨ (0xDFFF < v ∧ v < 0x110000) then some (Char.ofNat v, n + 1) else none
      else none
    match c with
    | 'x' => numbered 2
    | 'u' => numbered 4
    | 'U' => numbered 8
    | c => (escapes.lookup c).map (·, 1)

/-- The characters of a word between quotes, the number of characters it takes, and whether it ends
with a line end that stands for nothing. -/
def quotedWord? (single : Bool) : Nat → List Char → Option (List Char × Nat × Bool)
  | 0, _ => none
  | _, [] => some ([], 0, false)
  | fuel + 1, c :: cs =>
    if isGap c || isBreak c then some ([], 0, false)
    else if single then
      match c, cs with
      | '\'', '\'' :: rest =>
        (quotedWord? single fuel rest).map fun (w, n, b) => ('\'' :: w, n + 2, b)
      | '\'', _ => some ([], 0, false)
      | c, cs => (quotedWord? single fuel cs).map fun (w, n, b) => (c :: w, n + 1, b)
    else
      match c, cs with
      | '"', _ => some ([], 0, false)
      | '\\', cs =>
        if cs.head?.any isBreak then some ([], 1, true)
        else do
          let (d, n) ← escaped? cs
          let (w, m, b) ← quotedWord? single fuel (cs.drop n)
          some (d :: w, n + m + 1, b)
      | c, cs => (quotedWord? single fuel cs).map fun (w, n, b) => (c :: w, n + 1, b)

/-- The characters up to the closing quote, and the place behind it. -/
def quotedFrom? (single : Bool) : Nat → Cursor → Option (List Char × Cursor)
  | 0, _ => none
  | fuel + 1, c =>
    if c.atDocumentMark || c.rest = [] then none
    else do
      let (word, n, joined) ← quotedWord? single (c.rest.length + 1) c.rest
      let c := c.skip n
      if c.rest.head? = some (if single then '\'' else '"') then some (word, c.skip 1)
      else
        let (start, c) : Space × Cursor :=
          if joined then (⟨[], true, [], []⟩, c.takeBreak.2) else (⟨[], false, [], []⟩, c)
        let (s, c) ← space? (-1) c.rest.length start c
        let (more, c) ← quotedFrom? single fuel c
        some (word ++ s.folded ++ more, c)

/-! ### Block scalars -/

/-- What becomes of the line ends behind a block scalar. -/
inductive Chomping where
  | strip
  | clip
  | keep
deriving DecidableEq, Repr

/-- The marks behind the bar or angle of a block scalar: what becomes of the line ends at its end,
and how far it is indented, if that is given. -/
def blockMarks? (cs : List Char) : Option (Chomping × Option Nat × Nat) :=
  let chomping? (c : Char) : Option Chomping :=
    if c = '+' then some .keep else if c = '-' then some .strip else none
  match cs with
  | c :: d :: _ =>
    match chomping? c with
    | some k =>
      if d = '0' then none
      else if d.isDigit then some (k, some (d.toNat - '0'.toNat), 2)
      else some (k, none, 1)
    | none =>
      if c = '0' then none
      else if c.isDigit then
        match chomping? d with
        | some k => some (k, some (c.toNat - '0'.toNat), 2)
        | none => some (.clip, some (c.toNat - '0'.toNat), 1)
      else some (.clip, none, 0)
  | [c] =>
    match chomping? c with
    | some k => some (k, none, 1)
    | none =>
      if c = '0' then none
      else if c.isDigit then some (.clip, some (c.toNat - '0'.toNat), 1)
      else some (.clip, none, 0)
  | [] => some (.clip, none, 0)

/-- The empty lines that come next, and the greatest column in them and in the line behind. A column
of zero for the indentation means that it is not known. -/
def emptyLines? (indent : Nat) : Nat → Nat → List Char → Cursor → Option (Nat × List Char × Cursor)
  | 0, most, breaks, c => some (most, breaks, c)
  | fuel + 1, most, breaks, c =>
    let cs := c.rest.takeWhile (· = ' ')
    let n := if indent = 0 then cs.length else min cs.length (indent - c.column)
    let c := c.skip n
    let most := max most c.column
    if (indent = 0 ∨ c.column < indent) ∧ c.rest.head? = some '\t' then none
    else if c.rest.head?.any isBreak then
      let (b, c) := c.takeBreak
      emptyLines? indent fuel most (breaks ++ b) c
    else some (most, breaks, c)

/-- The lines of a block scalar from a place on. Between lines that do not begin with white space, a
line end becomes a space unless the scalar is literal. -/
def blockLines? (literal : Bool) (indent : Nat) (chomping : Chomping) :
    Nat → (pending : List Char) → (breaks : List Char) → (wasBlank : Bool) → Cursor →
      Option (List Char × Cursor)
  | 0, _, _, _, _ => none
  | fuel + 1, pending, breaks, wasBlank, c =>
    if c.column = indent ∧ c.rest ≠ [] then do
      let isBlank := c.rest.head?.any isGap
      let joint :=
        if !literal && pending.head? = some '\n' && !wasBlank && !isBlank then
          if breaks = [] then [' '] else breaks
        else pending ++ breaks
      let (line, c) := c.takeWhile fun d => !isBreak d
      let (pending, c) := c.takeBreak
      let (_, breaks, c) ← emptyLines? indent c.rest.length 0 [] c
      let (more, c) ← blockLines? literal indent chomping fuel pending breaks isBlank c
      some (joint ++ line ++ more, c)
    else
      some (match chomping with
        | .strip => []
        | .clip => pending
        | .keep => pending ++ breaks, c)

/-- A block scalar behind its bar or angle, in a collection at a column. -/
def blockScalar? (literal : Bool) (parent : Int) (c : Cursor) : Option (List Char × Cursor) := do
  let (chomping, given, n) ← blockMarks? c.rest
  let c ← (c.skip n).toLineEnd?
  let (_, c) := c.takeBreak
  let indent := match given with
    | some n => if 0 ≤ parent then parent.toNat + n else n
    | none => 0
  let (most, breaks, c) ← emptyLines? indent (c.rest.length + 1) 0 [] c
  let indent := if indent = 0 then max most (max (parent + 1) 1).toNat else indent
  blockLines? literal indent chomping (c.rest.length + 2) [] breaks false c

/-! ### Tags and directives -/

/-- A character of the suffix of a tag; within angles and directives a few more are allowed. -/
def isTagChar (wide : Bool) (c : Char) : Bool :=
  isNameChar c || [';', '/', '?', ':', '@', '&', '=', '+', '$', '.', '%', '!', '~', '*', '\'', '(',
    ')'].contains c || (wide && [',', '[', ']'].contains c)

/-- The handle of a tag: an exclamation mark, or a name between two of them. -/
def tagHandle (cs : List Char) : List Char :=
  match cs with
  | '!' :: rest =>
    let name := rest.takeWhile isNameChar
    if (rest.drop name.length).head? = some '!' then '!' :: name ++ ['!'] else '!' :: name
  | _ => []

/-- The octets that the text of a tag writes: each character for itself, or its encoding with a
percent sign and two hexadecimal digits for each octet; `expected` more octets continue an encoding
that has begun. -/
def tagOctets? (expected : Nat) : List Char → Option (List Nat)
  | [] => if expected = 0 then some [] else none
  | '%' :: a :: b :: rest =>
    match hexValue? a, hexValue? b with
    | some a, some b =>
      let octet := 16 * a + b
      if expected = 0 then
        match encodedLength? octet with
        | some n => (tagOctets? (n - 1) rest).map (octet :: ·)
        | none => none
      else if octet / 64 = 2 then (tagOctets? (expected - 1) rest).map (octet :: ·)
      else none
    | _, _ => none
  | c :: rest =>
    if expected = 0 ∧ c ≠ '%' then (tagOctets? 0 rest).map (c.toNat :: ·) else none
where
  /-- The length of the encoding that begins with an octet. -/
  encodedLength? (octet : Nat) : Option Nat :=
    if octet < 0x80 then some 1
    else if octet / 0x20 = 6 then some 2
    else if octet / 0x10 = 14 then some 3
    else if octet / 0x08 = 30 then some 4
    else none

/-- The text of a tag with its escapes undone, up to the first null character. Octets that encode no
text stand for themselves. -/
def tagText? (cs : List Char) : Option String :=
  (tagOctets? 0 cs).map fun octets =>
    let octets := octets.takeWhile (· ≠ 0)
    (String.fromUTF8? ⟨(octets.map UInt8.ofNat).toArray⟩).getD
      (String.ofList (octets.map Char.ofNat))

/-- A tag, and the place behind it. -/
def tag? (inFlow : Bool) (c : Cursor) : Option (Token × Cursor) := do
  let (handle, suffix, c) ← match c.rest with
    | '!' :: '<' :: _ =>
      let (suffix, c) := (c.skip 2).takeWhile (isTagChar true)
      if suffix ≠ [] ∧ c.rest.head? = some '>' then some ([], suffix, c.skip 1) else none
    | cs =>
      let handle := tagHandle cs
      if 1 < handle.length ∧ handle.getLast? = some '!' then
        let (suffix, c) := (c.skip handle.length).takeWhile (isTagChar false)
        if suffix = [] then none else some (handle, suffix, c)
      else
        let (suffix, c) := (c.skip 1).takeWhile (isTagChar false)
        some (['!'], suffix, c)
  let suffix ← tagText? suffix
  if endsWord c.rest || (inFlow && c.rest.head? = some ',') then
    if handle = ['!'] ∧ suffix = "" then some (.tag "" "!", c)
    else some (.tag (String.ofList handle) suffix, c)
  else none

/-- A directive behind its percent sign, and the place behind it. -/
def directive? (c : Cursor) : Option (Token × Cursor) := do
  let (name, c) := c.takeWhile isNameChar
  let (_, c) := c.takeWhile isGap
  match String.ofList name with
  | "YAML" =>
    let (major, c) := c.takeWhile Char.isDigit
    if c.rest.head? ≠ some '.' then none
    else
      let (minor, c) := (c.skip 1).takeWhile Char.isDigit
      let major ← (String.ofList major).toNat?
      let minor ← (String.ofList minor).toNat?
      let c ← c.toLineEnd?
      some (.versionDirective major minor, c)
  | "TAG" =>
    let handle := tagHandle c.rest
    if handle.getLast? ≠ some '!' then none
    else
      let c := c.skip handle.length
      if !c.rest.head?.any isGap then none
      else
        let (_, c) := c.takeWhile isGap
        let (lead, c) := c.takeWhile (isTagChar true)
        if lead = [] || !endsWord c.rest then none
        else
          let c ← c.toLineEnd?
          let lead ← tagText? lead
          some (.tagDirective (String.ofList handle) lead, c)
  | _ => none

/-! ### The tokens -/

/-- What could be a simple key: the number of tokens before it and its place. -/
structure Candidate where
  count : Nat
  index : Nat
  line : Nat
  column : Nat
  /-- Nothing but a key can stand there. -/
  isRequired : Bool

/-- The state of reading tokens. -/
structure Lexer where
  cursor : Cursor
  tokens : Array Token
  /-- The columns of the open block collections, the innermost first. -/
  indents : List Nat
  /-- For each open bracket or brace, the innermost first, and for the outside: what could be a
  simple key. -/
  candidates : List (Option Candidate)
  /-- A simple key may begin here. -/
  keyAllowed : Bool

/-- There is an open bracket or brace. -/
def Lexer.inFlow (s : Lexer) : Bool := 1 < s.candidates.length

/-- The column of the innermost block collection. -/
def Lexer.indent (s : Lexer) : Int :=
  match s.indents with
  | [] => -1
  | n :: _ => n

/-- Steps of reading tokens. -/
abbrev Lex := StateT Lexer Option

namespace Lex

/-- Adds a token. -/
def emit (t : Token) : Lex Unit := modify fun s => { s with tokens := s.tokens.push t }

/-- Adds a token of some characters. -/
def emitPast (t : Token) (n : Nat) : Lex Unit :=
  modify fun s => { s with tokens := s.tokens.push t, cursor := s.cursor.skip n }

/-- Says whether a simple key may begin. -/
def allowKey (b : Bool) : Lex Unit := modify fun s => { s with keyAllowed := b }

/-- Passes over white space, comments and line ends. -/
def passGap (inFlow : Bool) : Nat → Cursor → Bool → Cursor × Bool
  | 0, c, allowed => (c, allowed)
  | fuel + 1, c, allowed =>
    match c.rest with
    | [] => (c, allowed)
    | d :: _ =>
      if d = ' ' || (d = '\t' && (inFlow || !allowed)) || (d = '\ufeff' && c.column = 0) then
        passGap inFlow fuel (c.skip 1) allowed
      else if d = '#' then passGap inFlow fuel (c.takeWhile fun e => !isBreak e).2 allowed
      else if isBreak d then passGap inFlow fuel c.takeBreak.2 (allowed || !inFlow)
      else (c, allowed)

/-- A candidate that is too far back for its colon to come is none any more. -/
def fresh? (c : Cursor) (k : Option Candidate) : Option (Option Candidate) :=
  match k with
  | none => some none
  | some k =>
    if k.line < c.line ∨ k.index + 1024 < c.index then
      if k.isRequired then none else some none
    else some (some k)

/-- Gives up what could be a simple key. -/
def dropCandidate : Lex Unit := do
  let s ← get
  match s.candidates with
  | some k :: rest =>
    if k.isRequired then failure else set { s with candidates := none :: rest }
  | _ => pure ()

/-- Remembers that a simple key could begin. -/
def saveCandidate : Lex Unit := do
  let s ← get
  if s.keyAllowed then
    dropCandidate
    modify fun s =>
      let c := s.cursor
      let required := !s.inFlow && s.indent == (c.column : Int)
      { s with candidates := some ⟨s.tokens.size, c.index, c.line, c.column, required⟩ ::
          s.candidates.tail }

/-- Closes the block collections that are indented further than a column. -/
def closeTo (column : Int) : Lex Unit := modify fun s =>
  if s.inFlow then s
  else
    let closed := s.indents.takeWhile fun (n : Nat) => decide (column < (n : Int))
    { s with indents := s.indents.drop closed.length,
             tokens := closed.foldl (fun ts _ => ts.push .blockEnd) s.tokens }

/-- Opens a block collection at a column, if it is indented further; its token is put behind a
number of tokens. -/
def openAt (column count : Nat) (t : Token) : Lex Unit := modify fun s =>
  if s.inFlow || (column : Int) ≤ s.indent then s
  else { s with indents := column :: s.indents, tokens := s.tokens.insertIdxIfInBounds count t }

/-- A scalar that could be a simple key. -/
def scalar (isPlain : Bool) (r : Option (List Char × Cursor)) : Lex Unit := do
  match r with
  | none => failure
  | some (cs, c) =>
    modify fun s => { s with cursor := c }
    emit (.scalar isPlain (String.ofList cs))

/-- The token of a dash, which begins an entry of a block sequence. -/
def blockEntry : Lex Unit := do
  let s ← get
  if !s.inFlow then
    if s.keyAllowed then openAt s.cursor.column s.tokens.size .sequenceStart else failure
  dropCandidate
  allowKey true
  emitPast .entry 1

/-- The token of a question mark, which begins a key. -/
def explicitKey : Lex Unit := do
  let s ← get
  if !s.inFlow then
    if s.keyAllowed then openAt s.cursor.column s.tokens.size .mappingStart else failure
  dropCandidate
  allowKey !(s.inFlow)
  emitPast .key 1

/-- The token of a colon, which makes a key of what could be one. -/
def colon : Lex Unit := do
  let s ← get
  match s.candidates with
  | some k :: rest =>
    set { s with candidates := none :: rest, tokens := s.tokens.insertIdxIfInBounds k.count .key }
    openAt k.column k.count .mappingStart
    allowKey false
  | _ =>
    if !s.inFlow then
      if s.keyAllowed then openAt s.cursor.column s.tokens.size .mappingStart else failure
    allowKey !(s.inFlow)
  emitPast .value 1

/-- The token of a name behind its mark. -/
def named (make : String → Token) : Lex Unit := do
  saveCandidate
  allowKey false
  let (name, c) := ((← get).cursor.skip 1).takeWhile isNameChar
  let ends :=
    endsWord c.rest || c.rest.head?.any ['?', ':', ',', ']', '\x7d', '%', '@', '\x60'].contains
  if name = [] || !ends then failure
  modify fun s => { s with cursor := c }
  emit (make (String.ofList name))

/-- A bracket or brace that opens. -/
def openFlow (t : Token) : Lex Unit := do
  saveCandidate
  modify fun s => { s with candidates := none :: s.candidates }
  allowKey true
  emitPast t 1

/-- A bracket or brace that closes. -/
def closeFlow (t : Token) : Lex Unit := do
  dropCandidate
  modify fun s =>
    if s.inFlow then { s with candidates := s.candidates.tail } else s
  allowKey false
  emitPast t 1

/-- What stands between documents, at the beginning of a line. -/
def betweenDocuments : Lex Unit := do
  closeTo (-1)
  dropCandidate
  allowKey false

/-- A plain scalar may begin with a character. -/
def beginsPlain (inFlow : Bool) (d : Char) (rest : List Char) : Bool :=
  let marks := ['-', '?', ':', ',', '[', ']', '\x7b', '\x7d', '#', '&', '*', '!', '|', '>', '\'',
    '"', '%', '@', '\x60']
  !marks.contains d || (d = '-' && !rest.head?.any isGap) ||
    (!inFlow && (d = '?' || d = ':') && !endsWord rest)

/-- A plain scalar. -/
def plain : Lex Unit := do
  saveCandidate
  allowKey false
  let s ← get
  match plainFrom? (s.inFlow) (s.indent + 1) (s.cursor.rest.length + 1)
      ⟨[], false, [], []⟩ s.cursor with
  | none => failure
  | some (cs, isBroken, c) =>
    scalar true (some (cs, c))
    if isBroken then allowKey true

/-- The next token; none if there is none. -/
def next : Lex Bool := do
  modify fun s =>
    let (c, allowed) := passGap (s.inFlow) (s.cursor.rest.length + 1) s.cursor s.keyAllowed
    { s with cursor := c, keyAllowed := allowed }
  let s ← get
  match s.candidates.mapM (fresh? s.cursor) with
  | none => failure
  | some ks => set { s with candidates := ks }
  closeTo s.cursor.column
  let s ← get
  let inFlow := s.inFlow
  match s.cursor.rest with
  | [] =>
    closeTo (-1)
    dropCandidate
    pure false
  | d :: rest =>
    if s.cursor.column = 0 && d = '%' then
      betweenDocuments
      match directive? (s.cursor.skip 1) with
      | none => failure
      | some (t, c) =>
        modify fun s => { s with cursor := c }
        emit t
    else if s.cursor.atDocumentMark then
      betweenDocuments
      emitPast (if d = '-' then .documentStart else .documentEnd) 3
    else
      match d with
      | '[' => openFlow .flowSequenceStart
      | '\x7b' => openFlow .flowMappingStart
      | ']' => closeFlow .flowSequenceEnd
      | '\x7d' => closeFlow .flowMappingEnd
      | ',' =>
        dropCandidate
        allowKey true
        emitPast .flowEntry 1
      | d =>
        if d = '-' && endsWord rest then blockEntry
        else if d = '?' && (inFlow || endsWord rest) then explicitKey
        else if d = ':' && (inFlow || endsWord rest) then colon
        else if d = '*' then named .alias
        else if d = '&' then named .anchor
        else if d = '!' then
          saveCandidate
          allowKey false
          match tag? inFlow s.cursor with
          | none => failure
          | some (t, c) =>
            modify fun s => { s with cursor := c }
            emit t
        else if (d = '|' || d = '>') && !inFlow then
          dropCandidate
          allowKey true
          scalar false (blockScalar? (d == '|') (s.indent) (s.cursor.skip 1))
        else if d = '\'' || d = '"' then
          saveCandidate
          allowKey false
          scalar false (quotedFrom? (d == '\'') (s.cursor.rest.length + 1) (s.cursor.skip 1))
        else if beginsPlain inFlow d rest then plain
        else failure
    pure true

/-- All tokens. -/
def all : Nat → Lex Unit
  | 0 => failure
  | fuel + 1 => do
    if ← next then all fuel

end Lex

/-- The tokens of a text. -/
def tokens? (source : String) : Option (List Token) :=
  let cs := match source.toList with
    | '\ufeff' :: cs => cs
    | cs => cs
  if cs.all isAllowed then
    ((Lex.all (cs.length + 2)).run ⟨⟨cs, 0, 0, 0⟩, #[], [], [none], true⟩).map fun r =>
      r.2.tokens.toList
  else none

end Workflow.Yaml

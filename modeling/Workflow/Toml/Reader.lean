import Workflow.Decimal.Reading
import Workflow.Text.Search
import Workflow.Toml.Basic

/-!
# Reading TOML

A document is read line by line: headers, keys with values, and comments. Dates and times are read
as texts. Values nest less than eighty deep.

## Main definitions

* `Workflow.Toml.parse?` — the tree of a document.
-/

namespace Workflow.Toml

/-- A reader on the characters that are left. -/
abbrev Reader := StateT (List Char) Option

namespace Reader

/-- The characters up to the first that a test does not hold for. -/
def takeWhile (p : Char → Bool) : Reader (List Char) := fun cs =>
  some (cs.takeWhile p, cs.dropWhile p)

/-- Passes over characters if they come next, and tells whether they do. -/
def take (s : String) : Reader Bool := fun cs =>
  if s.toList.isPrefixOf cs then some (true, cs.drop s.length) else some (false, cs)

/-- Passes over characters that must come next. -/
def expect (s : String) : Reader Unit := do
  if ← take s then pure () else failure

/-- The next character. -/
def peek? : Reader (Option Char) := do
  pure (← get).head?

/-- Passes over spaces and tabs. -/
def blanks : Reader Unit := do
  let _ ← takeWhile fun c => c = ' ' || c = '\t'

end Reader

open Reader

/-- A character that texts and comments may hold as it is. -/
def isText (c : Char) : Bool := c = '\t' || (0x20 ≤ c.toNat && c.toNat ≠ 0x7F)

/-- Passes over a comment, if one comes next. -/
def comment : Reader Unit := do
  if ← take "#" then
    let _ ← takeWhile isText

/-- Passes over a line end, and tells whether one comes next. -/
def newline : Reader Bool := do
  if ← take "\n" then pure true else take "\r\n"

/-- Passes over the rest of a line, where nothing but a comment may stand. -/
def lineEnd : Reader Unit := do
  blanks
  comment
  if (← get) = [] then pure ()
  else if ← newline then pure ()
  else failure

/-- Passes over blanks, comments and line ends. -/
def gaps : (fuel : Nat) → Reader Unit
  | 0 => pure ()
  | fuel + 1 => do
    blanks
    comment
    if ← newline then gaps fuel

/-! ### Texts -/

/-- The value of a hexadecimal digit. -/
def hexDigit? (c : Char) : Option Nat :=
  if Decimal.isDigit c then some (Decimal.digitValue c)
  else if 'a' ≤ c ∧ c ≤ 'f' then some (c.toNat - 'a'.toNat + 10)
  else if 'A' ≤ c ∧ c ≤ 'F' then some (c.toNat - 'A'.toNat + 10)
  else none

/-- The character that an escape stands for, and the number of characters behind the backslash. -/
def escape? : List Char → Option (Char × Nat)
  | [] => none
  | c :: cs =>
    let numbered (n : Nat) : Option (Char × Nat) := do
      let ds ← (cs.take n).mapM hexDigit?
      if ds.length = n then
        let v := ds.foldl (fun v d => 16 * v + d) 0
        if v < 0xD800 ∨ (0xDFFF < v ∧ v < 0x110000) then some (Char.ofNat v, n + 1) else none
      else none
    match c with
    | 'b' => some ('\x08', 1)
    | 't' => some ('\t', 1)
    | 'n' => some ('\n', 1)
    | 'f' => some ('\x0c', 1)
    | 'r' => some ('\r', 1)
    | '"' => some ('"', 1)
    | '\\' => some ('\\', 1)
    | 'u' => numbered 4
    | 'U' => numbered 8
    | _ => none

/-- The characters of a text up to its closing quote. -/
def lineText (quote : Char) : (fuel : Nat) → Reader (List Char)
  | 0 => failure
  | fuel + 1 => do
    match ← get with
    | [] => failure
    | c :: cs =>
      if c = quote then
        set cs
        pure []
      else if c = '\\' ∧ quote = '"' then
        match escape? cs with
        | none => failure
        | some (d, n) =>
          set (cs.drop n)
          let rest ← lineText quote fuel
          pure (d :: rest)
      else if isText c then
        set cs
        let rest ← lineText quote fuel
        pure (c :: rest)
      else failure

/-- A backslash at the end of a line, with the space before the next word: the characters behind. -/
def joinedLine? (cs : List Char) : Option (List Char) :=
  let isBlank (c : Char) : Bool := c = ' ' || c = '\t'
  match cs.dropWhile isBlank with
  | '\n' :: rest => some (rest.dropWhile fun c => isBlank c || c = '\n' || c = '\r')
  | '\r' :: '\n' :: rest => some (rest.dropWhile fun c => isBlank c || c = '\n' || c = '\r')
  | _ => none

/-- The characters of a text of several lines up to its three closing quotes; it may end with two
quotes of its own. -/
def blockText (quote : Char) : (fuel : Nat) → Reader (List Char)
  | 0 => failure
  | fuel + 1 => do
    match ← get with
    | [] => failure
    | c :: cs =>
      if c = quote then
        let quotes := (c :: cs).takeWhile (· = quote)
        if quotes.length < 3 then
          set ((c :: cs).drop quotes.length)
          let rest ← blockText quote fuel
          pure (quotes ++ rest)
        else if 5 < quotes.length then failure
        else
          set ((c :: cs).drop quotes.length)
          pure (quotes.drop 3)
      else if c = '\\' ∧ quote = '"' then
        match joinedLine? cs, escape? cs with
        | some rest, _ =>
          set rest
          blockText quote fuel
        | none, some (d, n) =>
          set (cs.drop n)
          let rest ← blockText quote fuel
          pure (d :: rest)
        | none, none => failure
      else if isText c || c = '\n' then
        set cs
        let rest ← blockText quote fuel
        pure (c :: rest)
      else
        match c, cs with
        | '\r', '\n' :: rest =>
          set rest
          let rest ← blockText quote fuel
          pure ('\n' :: rest)
        | _, _ => failure

/-- A text behind its first quote. -/
def quoted (quote : Char) (fuel : Nat) : Reader (List Char) := do
  if ← take (String.ofList [quote, quote]) then
    let _ ← newline
    blockText quote fuel
  else lineText quote fuel

/-! ### Keys -/

/-- A character of a key without quotes. -/
def isBare (c : Char) : Bool := c.isAlphanum || c = '_' || c = '-'

/-- A key without dots. -/
def simpleKey (fuel : Nat) : Reader String := do
  if ← take "\"" then String.ofList <$> lineText '"' fuel
  else if ← take "'" then String.ofList <$> lineText '\'' fuel
  else
    let cs ← takeWhile isBare
    if cs = [] then failure else pure (String.ofList cs)

/-- A key with dots. -/
def key : (fuel : Nat) → Reader (List String)
  | 0 => failure
  | fuel + 1 => do
    blanks
    let k ← simpleKey (← get).length
    blanks
    if ← take "." then
      let rest ← key fuel
      pure (k :: rest)
    else pure [k]

/-! ### Numbers and times -/

/-- Digits with low lines between them, without these. -/
def digits? (p : Char → Bool) (cs : List Char) : Option (List Char) :=
  let ok := cs.head?.any p && cs.getLast?.any p && cs.all (fun c => p c || c = '_') &&
    !Text.occursIn ['_', '_'] cs
  if ok then some (cs.filter p) else none

/-- A whole number in a base. -/
def based? (base : Nat) (cs : List Char) : Option Json := do
  let isDigit (c : Char) : Bool := (hexDigit? c).any (· < base)
  let ds ← digits? isDigit cs
  let n := ds.foldl (fun n d => base * n + (hexDigit? d).getD 0) 0
  if n < Nat.pow 2 63 then some (.integer n) else none

/-- Digits of a whole number without a superfluous zero in front. -/
def decimal? (cs : List Char) : Option (List Char) := do
  let ds ← digits? Decimal.isDigit cs
  match ds with
  | '0' :: _ :: _ => none
  | ds => some ds

/-- A floating-point number without its sign: a fraction, an exponent, or both. -/
def unsignedFloat? (cs : List Char) : Option Float := do
  let isMark (c : Char) : Bool := c = 'e' || c = 'E'
  let mantissa := cs.takeWhile (!isMark ·)
  let exponent := (cs.drop mantissa.length).drop 1
  let whole := mantissa.takeWhile (· ≠ '.')
  let fraction := (mantissa.drop whole.length).drop 1
  let ds ← decimal? whole
  let fs ← if mantissa.contains '.' then digits? Decimal.isDigit fraction else some []
  let es ← if cs.any isMark then
      let (negative, es) := Decimal.splitSign exponent
      (digits? Decimal.isDigit es).map fun es => 'e' :: (if negative then '-' :: es else es)
    else some []
  Decimal.float? (String.ofList (ds ++ '.' :: (if fs = [] then ['0'] else fs) ++ es))

/-- A number. A positive one that is too large for a floating-point number is refused, a negative
one is infinite. -/
def number? (cs : List Char) : Option Json :=
  let (negative, ds) := Decimal.splitSign cs
  let isSigned := ds.length < cs.length
  let unsigned (x : Float) : Json := .float (if negative then -x else x)
  match ds with
  | '0' :: 'x' :: hs => if isSigned then none else based? 16 hs
  | '0' :: 'o' :: os => if isSigned then none else based? 8 os
  | '0' :: 'b' :: bs => if isSigned then none else based? 2 bs
  | ['i', 'n', 'f'] => some (unsigned (1.0 / 0.0))
  | ['n', 'a', 'n'] => some (.float (0.0 / 0.0))
  | ds =>
    if ds.any fun c => c = '.' || c = 'e' || c = 'E' then do
      let x ← unsignedFloat? ds
      if !negative && x.isInf then none else some (unsigned x)
    else do
      let ds ← decimal? ds
      let n := Decimal.digitsValue ds
      let n : Int := if negative then -n else n
      if -(Nat.pow 2 63 : Int) ≤ n ∧ n < Nat.pow 2 63 then some (.integer n) else none

/-- Two digits that write a number up to a greatest one. -/
def twoDigits? (most : Nat) : List Char → Option (List Char)
  | a :: b :: rest =>
    if Decimal.isDigit a ∧ Decimal.isDigit b ∧ Decimal.digitsValue [a, b] ≤ most then some rest
    else none
  | _ => none

/-- The characters behind a date. -/
def afterDate? (cs : List Char) : Option (List Char) :=
  let year := cs.take 4
  if year.length = 4 ∧ year.all Decimal.isDigit then
    match cs.drop 4 with
    | '-' :: rest =>
      let month := Decimal.digitsValue (rest.take 2)
      match twoDigits? 12 rest with
      | some ('-' :: rest) =>
        let n := Decimal.digitsValue year
        let isLeap := n % 4 = 0 ∧ (n % 100 ≠ 0 ∨ n % 400 = 0)
        let days := if month = 2 then (if isLeap then 29 else 28)
          else if [4, 6, 9, 11].contains month then 30 else 31
        if month = 0 ∨ Decimal.digitsValue (rest.take 2) = 0 then none else twoDigits? days rest
      | _ => none
    | _ => none
  else none

/-- The characters behind a time of day. -/
def afterTime? (cs : List Char) : Option (List Char) :=
  match twoDigits? 23 cs with
  | some (':' :: rest) =>
    match twoDigits? 59 rest with
    | some (':' :: rest) =>
      match twoDigits? 60 rest with
      | some ('.' :: rest) =>
        if rest.head?.any Decimal.isDigit then some (rest.dropWhile Decimal.isDigit) else none
      | r => r
    | _ => none
  | _ => none

/-- The characters behind the distance from universal time, if one comes next. -/
def afterOffset? (cs : List Char) : Option (List Char) :=
  let distance (rest : List Char) : Option (List Char) :=
    match twoDigits? 23 rest with
    | some (':' :: rest) => twoDigits? 59 rest
    | _ => none
  match cs with
  | 'Z' :: rest => some rest
  | 'z' :: rest => some rest
  | '+' :: rest => distance rest
  | '-' :: rest => distance rest
  | cs => some cs

/-- The characters behind a date, a time of day, or both. -/
def afterMoment? (cs : List Char) : Option (List Char) :=
  match afterDate? cs with
  | some rest =>
    match rest with
    | 'T' :: t => (afterTime? t).bind afterOffset?
    | 't' :: t => (afterTime? t).bind afterOffset?
    | ' ' :: t => ((afterTime? t).bind afterOffset?).or (some rest)
    | rest => some rest
  | none => afterTime? cs

/-! ### Values -/

/-- How deep values nest. -/
def deepest : Nat := 80

/-- A character of a number, a date or a word. -/
def isAtom (c : Char) : Bool := c.isAlphanum || c = '_' || c = '+' || c = '-' || c = '.'

/-- A number, a truth value, a date or a time. -/
def atom : Reader Json := do
  let cs ← get
  match afterMoment? cs with
  | some rest =>
    set rest
    pure (.text (String.ofList (cs.take (cs.length - rest.length))))
  | none =>
    let word ← takeWhile isAtom
    match String.ofList word with
    | "true" => pure (.bool true)
    | "false" => pure (.bool false)
    | _ =>
      match number? word with
      | some j => pure j
      | none => failure

mutual

/-- A value, with some levels left for what is in it. -/
def value (fuel levels : Nat) : Reader Json :=
  match fuel with
  | 0 => failure
  | fuel + 1 => do
    if levels = 0 then failure
    match ← peek? with
    | some '"' =>
      expect "\""
      (Json.text ∘ String.ofList) <$> quoted '"' ((← get).length + 1)
    | some '\'' =>
      expect "'"
      (Json.text ∘ String.ofList) <$> quoted '\'' ((← get).length + 1)
    | some '[' =>
      expect "["
      Json.array <$> items fuel (levels - 1)
    | some '\x7b' =>
      expect "\x7b"
      blanks
      if ← take "\x7d" then pure (.object [])
      else
        let t ← fields fuel (levels - 1) []
        pure (.object (Table.fieldTrees t))
    | _ => atom

/-- The values of an array up to its closing bracket. -/
def items (fuel levels : Nat) : Reader (List Json) :=
  match fuel with
  | 0 => failure
  | fuel + 1 => do
    gaps (← get).length
    if ← take "]" then pure []
    else
      let j ← value fuel levels
      gaps (← get).length
      if ← take "," then
        let rest ← items fuel levels
        pure (j :: rest)
      else
        expect "]"
        pure [j]

/-- The fields of a table in braces up to its closing brace, added to a table. -/
def fields (fuel levels : Nat) (t : Table) : Reader Table :=
  match fuel with
  | 0 => failure
  | fuel + 1 => do
    let k ← key (← get).length
    expect "="
    blanks
    let j ← value fuel levels
    blanks
    match Table.bind? [] k j t with
    | none => failure
    | some t =>
      if ← take "," then fields fuel levels t
      else
        expect "\x7d"
        pure t

end

/-! ### Documents -/

/-- The lines of a document: the table that they make of a table, within the table of a header. -/
def lines : (fuel : Nat) → (header : List String) → Table → Reader Table
  | 0, _, _ => failure
  | fuel + 1, header, t => do
    gaps (← get).length
    if (← get) = [] then pure t
    else if ← take "[[" then
      let path ← key (← get).length
      expect "]]"
      lineEnd
      match t.openElement? path with
      | some t => lines fuel path t
      | none => failure
    else if ← take "[" then
      let path ← key (← get).length
      expect "]"
      lineEnd
      match t.openTable? path with
      | some t => lines fuel path t
      | none => failure
    else
      let k ← key (← get).length
      expect "="
      blanks
      let j ← value (2 * (← get).length + 2) deepest
      lineEnd
      match t.bind? header k j with
      | some t => lines fuel header t
      | none => failure

/-- The tree of a document. -/
def parse? (source : String) : Option Json := do
  let cs := match source.toList with
    | '\ufeff' :: cs => cs
    | cs => cs
  let (t, _) ← (lines (cs.length + 1) [] []).run cs
  some (.object (Table.fieldTrees t))

end Workflow.Toml

import Workflow.Decimal.Layout
import Workflow.Decimal.Reading

/-!
# Tokens of scripts

A script is read into tokens, each with the line and column where it begins. Comments and white
space stand between tokens and are passed over; comments between slashes and stars may be nested. A
text between backquotes may hold code between a dollar sign with a brace and a closing brace; the
code becomes tokens of its own within the token of the text. A text between number signs and quotes
is taken as it stands. A minus sign directly before a number belongs to it where no operand stands
before the sign.

## Main definitions

* `Workflow.Script.Token`, `Workflow.Script.Lexeme` — tokens, and tokens with their place.
* `Workflow.Script.lex` — the tokens of a script.
-/

namespace Workflow.Script

/-- A line and a column, counted from one. -/
structure Spot where
  line : Nat
  column : Nat
deriving DecidableEq, Repr, Inhabited

/-- The written form of a place. -/
def Spot.text (s : Spot) : String :=
  "line " ++ Decimal.natText s.line ++ ", position " ++ Decimal.natText s.column

/-- Why a text is no script, and where. -/
structure ReadError where
  message : String
  spot : Option Spot
deriving Inhabited

/-- A token. -/
inductive Token where
  | int (n : Int64)
  | float (x : Float)
  | text (s : String)
  | char (c : Char)
  /-- A text with code in it: texts and codes in turn. -/
  | template (parts : List (String × Option (List (Token × Spot))))
  | word (s : String)
  /-- A word with a meaning of its own. -/
  | keyword (s : String)
  /-- A word or symbol that is set aside and has no meaning. -/
  | reserved (s : String)
  | symbol (s : String)
deriving Inhabited

/-- A token with its place. -/
abbrev Lexeme := Token × Spot

/-- The words with a meaning of their own. -/
def keywords : List String :=
  ["true", "false", "let", "const", "if", "else", "switch", "do", "while", "until", "loop", "for",
   "in", "continue", "break", "return", "throw", "try", "catch", "fn", "private", "import",
   "export", "as"]

/-- The words that name functions and nothing else. -/
def functionWords : List String :=
  ["print", "debug", "type_of", "eval", "Fn", "call", "curry", "is_shared", "is_def_fn",
   "is_def_var"]

/-- The words that may name methods as well. -/
def methodWords : List String := ["type_of", "call", "curry", "is_shared"]

/-- The words that are set aside. -/
def reservedWords : List String :=
  ["var", "static", "shared", "goto", "match", "case", "public", "protected", "new", "use",
   "with", "is", "module", "package", "super", "thread", "spawn", "go", "await", "async", "sync",
   "yield", "default", "void", "null", "nil", "this"] ++ functionWords

/-- The symbols that are set aside. -/
def reservedSymbols : List String :=
  ["===", "!==", "->", "<-", ":=", "...", "++", "--", "(*", "*)", "=>>", "?", "~", "@", "$",
   "#"]

/-- The symbols, longer ones before their beginnings. -/
def symbols : List String :=
  ["**=", "<<=", ">>=", "..=", "...", "===", "!==", "#\x7b", "**", "+=", "++", "-=", "--", "->",
   "*=", "*)", "(*", "/=", "%=", "==", "=>", "!=", "<=", "<-", "<<", ">=", ">>", "||", "|=", "&&",
   "&=", "^=", "??", "?.", "?[", "..", ":=", "::", "+", "-", "*", "/", "%", "=", "<", ">", "!",
   "|", "&", "^", "?", ".", ",", ";", ":", "(", ")", "[", "]", "\x7b", "\x7d", "~", "@", "$", "#"]

/-- The place behind a character. -/
def Spot.after (s : Spot) (c : Char) : Spot :=
  if c = '\n' then ⟨s.line + 1, 1⟩ else ⟨s.line, s.column + 1⟩

/-- The place behind characters. -/
def Spot.behind (s : Spot) (cs : List Char) : Spot := cs.foldl Spot.after s

/-! ### Space and comments -/

/-- The number of characters up to the end of a comment that is open `depth` times. -/
def commentLength : Nat → List Char → Nat
  | 0, _ => 0
  | _, [] => 0
  | depth + 1, '*' :: '/' :: cs => 2 + commentLength depth cs
  | depth + 1, '/' :: '*' :: cs => 2 + commentLength (depth + 2) cs
  | depth + 1, _ :: cs => 1 + commentLength (depth + 1) cs
termination_by _ cs => cs.length

/-- The characters of the space and the comment that come first. -/
def gapLength : List Char → Nat
  | '/' :: '/' :: cs => 2 + (cs.takeWhile (· ≠ '\n')).length
  | '/' :: '*' :: cs => 2 + commentLength 1 cs
  | c :: _ => if Text.isBlank c then 1 else 0
  | [] => 0

/-! ### Numbers and words -/

/-- A character of a word. -/
def isWordPart (c : Char) : Bool := c.isAlphanum || c = '_'

/-- A character that a word may begin with. -/
def isWordStart (c : Char) : Bool := c.isAlpha || c = '_'

/-- A word holds a letter before its first digit. -/
def isProperWord (cs : List Char) : Bool :=
  match cs.dropWhile (· = '_') with
  | c :: _ => c.isAlpha
  | [] => false

/-- The value of a digit in a base, if it is one. -/
def baseDigit? (base : Nat) (c : Char) : Option Nat :=
  let n :=
    if '0' ≤ c ∧ c ≤ '9' then c.toNat - '0'.toNat
    else if 'a' ≤ c ∧ c ≤ 'f' then c.toNat - 'a'.toNat + 10
    else if 'A' ≤ c ∧ c ≤ 'F' then c.toNat - 'A'.toNat + 10
    else 99
  if n < base then some n else none

/-- The base that a letter behind a zero stands for. -/
def baseOf? (c : Char) : Option Nat :=
  if c = 'x' ∨ c = 'X' then some 16
  else if c = 'o' ∨ c = 'O' then some 8
  else if c = 'b' ∨ c = 'B' then some 2
  else none

/-- Digits with low lines among them. -/
def isDigitOrLine (c : Char) : Bool := c.isDigit || c = '_'

/-- A number in a base, given behind its mark: 64 bits are read as a signed number. -/
def basedNumber? (base : Nat) (cs : List Char) : Option Token :=
  let ds := cs.filterMap (baseDigit? base)
  let n := ds.foldl (fun n d => base * n + d) 0
  if ds = [] ∨ Nat.pow 2 64 ≤ n then none
  else some (.int (Int64.ofInt (Int.bmod n (Nat.pow 2 64))))

/-- The number of characters of the fraction of a number, its point among them. A point before a
letter, a low line or another point is none. -/
def fractionLength : List Char → Nat
  | '.' :: c :: cs =>
    if c.isDigit then 1 + ((c :: cs).takeWhile isDigitOrLine).length
    else if c = '.' || isWordStart c then 0
    else 1
  | _ => 0

/-- The number of characters of the exponent of a number. -/
def exponentLength : List Char → Nat
  | 'e' :: c :: cs =>
    if c.isDigit then 1 + ((c :: cs).takeWhile isDigitOrLine).length
    else if c = '+' || c = '-' then 2 + (cs.takeWhile isDigitOrLine).length
    else 0
  | _ => 0

/-- The number at the beginning of characters, and how many it takes up. -/
def number? (cs : List Char) : Option (Token × Nat) :=
  let based : Option (Option Token × Nat) := match cs with
    | '0' :: c :: rest =>
      (baseOf? c).map fun base =>
        let ds := rest.takeWhile fun c => (baseDigit? base c).isSome || c = '_'
        (basedNumber? base ds, 2 + ds.length)
    | _ => none
  match based with
  | some (t, n) => t.map (·, n)
  | none =>
    let whole := cs.takeWhile isDigitOrLine
    let rest := cs.drop whole.length
    let f := fractionLength rest
    let e := exponentLength (rest.drop f)
    let length := whole.length + f + e
    let digits := String.ofList ((cs.take length).filter (· ≠ '_'))
    if f = 0 ∧ e = 0 then
      match Decimal.int64? digits with
      | some n => some (.int n, length)
      | none => (Decimal.float? digits).map (.float ·, length)
    else (Decimal.float? digits).map (.float ·, length)

/-- The token of a word. -/
def wordToken (s : String) : Token :=
  if keywords.contains s then .keyword s
  else if reservedWords.contains s then .reserved s
  else .word s

/-! ### Texts -/

/-- The character that hexadecimal digits number. -/
def numberedChar? (cs : List Char) : Option Char :=
  let ds := cs.filterMap (baseDigit? 16)
  if ds.length ≠ cs.length ∨ ds = [] then none
  else
    let n := ds.foldl (fun n d => 16 * n + d) 0
    if n < 0xD800 ∨ (0xDFFF < n ∧ n < 0x110000) then some (Char.ofNat n) else none

/-- The white space at the beginning of a line before a column. -/
def marginLength (column : Nat) : List Char → Nat
  | [] => 0
  | c :: cs =>
    if 1 < column ∧ c ≠ '\n' ∧ Text.isBlank c then 1 + marginLength (column - 1) cs else 0

/-- The character that an escape behind a backslash stands for, with the number of characters the
escape takes up. Of the quotes only the one that encloses the text can be escaped. A line end stands
for nothing, together with the space of the next line up to the column behind the opening quote. -/
def escape? (quote : Char) (margin : Nat) (cs : List Char) : Option (Option Char × Nat) :=
  let numbered (n : Nat) (rest : List Char) : Option (Option Char × Nat) :=
    if (rest.take n).length = n then (numberedChar? (rest.take n)).map fun c => (some c, 1 + n)
    else none
  match cs with
  | '\\' :: _ => some (some '\\', 1)
  | 't' :: _ => some (some '\t', 1)
  | 'n' :: _ => some (some '\n', 1)
  | 'r' :: _ => some (some '\r', 1)
  | 'x' :: rest => numbered 2 rest
  | 'u' :: rest => numbered 4 rest
  | 'U' :: rest => numbered 8 rest
  | '\r' :: '\n' :: rest =>
    if quote = '"' then some (none, 2 + marginLength margin rest) else none
  | '\n' :: rest => if quote = '"' then some (none, 1 + marginLength margin rest) else none
  | c :: _ => if c = quote then some (some c, 1) else none
  | [] => none

/-- The characters between quotes, and the number of characters up to the closing quote and with
it. -/
def quotedText? (quote : Char) (margin : Nat) : Nat → List Char → Option (List Char × Nat)
  | 0, _ => none
  | _, [] => none
  | fuel + 1, '\\' :: cs =>
    match escape? quote margin cs with
    | some (c, n) =>
      (quotedText? quote margin fuel (cs.drop n)).map fun (s, m) => (c.toList ++ s, m + n + 1)
    | none => none
  | fuel + 1, c :: cs =>
    if c = quote then
      if cs.head? = some quote then
        (quotedText? quote margin fuel (cs.drop 1)).map fun (s, m) => (c :: s, m + 2)
      else some ([], 1)
    else if c = '\n' then none
    else (quotedText? quote margin fuel cs).map fun (s, m) => (c :: s, m + 1)

/-- The characters up to a quote with number signs behind it, and the number of characters up to the
last of these signs and with it. -/
def verbatimText? (signs : Nat) : List Char → Option (List Char × Nat)
  | [] => none
  | c :: cs =>
    if c = '"' ∧ (cs.takeWhile (· = '#')).length ≥ signs then some ([], 1 + signs)
    else (verbatimText? signs cs).map fun (s, n) => (c :: s, n + 1)

/-- A sign directly before a number belongs to the number behind such a token. -/
def Token.allowsSign : Token → Bool
  | symbol s => !([")", "]", "\x7d", ".", "?.", "_"].contains s)
  | keyword k =>
    ["if", "while", "until", "in", "!in", "return", "throw", "switch", "break"].contains k
  | _ => false

/-- The number with the opposite sign. -/
def Token.negated : Token → Token
  | int n => int (-n)
  | float x => float (-x)
  | t => t

/-- The number with a sign at the beginning of characters. The least whole number has no opposite in
range. -/
def signedNumber? (cs : List Char) : Option (Token × Nat) :=
  match number? (cs.drop 1) with
  | some (.float x, n) =>
    let digits := String.ofList ((cs.take (n + 1)).filter (· ≠ '_'))
    some ((Decimal.int64? digits).elim (.float (-x)) .int, n + 1)
  | some (t, n) => some (t.negated, n + 1)
  | none => none

/-- The characters of a text between backquotes up to its end or to code in it. -/
def rawText : List Char → List Char
  | [] => []
  | c :: cs =>
    if c = '\x60' then []
    else
      match c, cs with
      | '$', '\x7b' :: _ => []
      | _, _ => c :: rawText cs

/-! ### The tokens -/

mutual

/-- The tokens of characters, up to their end or, within a text, up to the brace that closes the
code; the characters behind that brace and their place. -/
def lexFrom : (fuel : Nat) → (inText : Bool) → (depth : Nat) → (signed : Bool) → Spot →
    List Char → Except ReadError (List Lexeme × List Char × Spot)
  | 0, _, _, _, spot, _ => .error ⟨"Script is incomplete", some spot⟩
  | _, inText, _, _, spot, [] =>
    if inText then .error ⟨"Open string is not terminated", some spot⟩ else .ok ([], [], spot)
  | fuel + 1, inText, depth, signed, spot, c :: cs =>
    let all := c :: cs
    let fail (message : String) : Except ReadError (List Lexeme × List Char × Spot) :=
      .error ⟨message, some spot⟩
    let continueWith (t : Token) (n depth : Nat) :
        Except ReadError (List Lexeme × List Char × Spot) :=
      match lexFrom fuel inText depth t.allowsSign (spot.behind (all.take n)) (all.drop n) with
      | .ok (ts, rest, e) => .ok ((t, spot) :: ts, rest, e)
      | .error e => .error e
    let gap := gapLength all
    let signs := (all.takeWhile (· = '#')).length
    if 0 < gap then lexFrom fuel inText depth signed (spot.behind (all.take gap)) (all.drop gap)
    else if c.isDigit then
      match number? all with
      | some (t, n) => continueWith t n depth
      | none => fail ("Invalid number: '" ++ String.ofList (all.takeWhile isWordPart) ++ "'")
    else if c = '-' ∧ signed ∧ (cs.head?.any Char.isDigit) then
      match signedNumber? all with
      | some (t, n) => continueWith t n depth
      | none => fail ("Invalid number: '-" ++ String.ofList (cs.takeWhile isWordPart) ++ "'")
    else if isWordStart c then
      let w := all.takeWhile isWordPart
      if w = ['_'] then continueWith (.symbol "_") 1 depth
      else if isProperWord w then continueWith (wordToken (String.ofList w)) w.length depth
      else fail ("Variable name is not proper: '" ++ String.ofList w ++ "'")
    else if c = '"' then
      match quotedText? '"' (spot.column + 1) (cs.length + 1) cs with
      | some (s, n) => continueWith (.text (String.ofList s)) (n + 1) depth
      | none => fail "Open string is not terminated"
    else if 0 < signs ∧ all[signs]? = some '"' then
      match verbatimText? signs (all.drop (signs + 1)) with
      | some (s, n) => continueWith (.text (String.ofList s)) (signs + 1 + n) depth
      | none => fail "Open string is not terminated"
    else if c = '\'' then
      match quotedText? '\'' 0 (cs.length + 1) cs with
      | some ([d], n) => continueWith (.char d) (n + 1) depth
      | some (s, _) => fail ("Invalid character: '" ++ String.ofList s ++ "'")
      | none => fail "Open string is not terminated"
    else if c = '\x60' then
      let skipped := match cs with
        | '\n' :: _ => 1
        | '\r' :: '\n' :: _ => 2
        | _ => 0
      match lexText fuel (spot.behind (all.take (1 + skipped))) (cs.drop skipped) with
      | .ok (parts, rest, behind) =>
        let t : Token := match parts with
          | [(s, none)] => .text s
          | _ => .template parts
        match lexFrom fuel inText depth t.allowsSign behind rest with
        | .ok (ts, rest, e) => .ok ((t, spot) :: ts, rest, e)
        | .error e => .error e
      | .error e => .error e
    else if ['!', 'i', 'n'].isPrefixOf all ∧ !((cs.drop 2).head?.any isWordPart) then
      continueWith (.keyword "!in") 3 depth
    else
      match symbols.find? fun s => s.toList.isPrefixOf all with
      | none => fail ("Unexpected '" ++ String.singleton c ++ "'")
      | some s =>
        if reservedSymbols.contains s then fail ("'" ++ s ++ "' is a reserved symbol")
        else if s = "\x7d" ∧ inText ∧ depth = 0 then .ok ([], cs, spot.after c)
        else
          let depth :=
            if s = "\x7b" ∨ s = "#\x7b" then depth + 1 else if s = "\x7d" then depth - 1 else depth
          continueWith (.symbol s) s.length depth

/-- The parts of a text between backquotes, the characters behind its end, and their place. -/
def lexText : (fuel : Nat) → Spot → List Char →
    Except ReadError (List (String × Option (List Lexeme)) × List Char × Spot)
  | 0, spot, _ => .error ⟨"Script is incomplete", some spot⟩
  | fuel + 1, spot, cs =>
    let raw := rawText cs
    let here := String.ofList raw
    let rest := cs.drop raw.length
    let spot := spot.behind raw
    match rest with
    | '$' :: '\x7b' :: code =>
      match lexFrom fuel true 0 true (spot.behind ['$', '\x7b']) code with
      | .ok (ts, rest, spot) =>
        match lexText fuel spot rest with
        | .ok (parts, rest, e) => .ok ((here, some ts) :: parts, rest, e)
        | .error e => .error e
      | .error e => .error e
    | '\x60' :: '\x60' :: rest =>
      match lexText fuel (spot.behind ['\x60', '\x60']) rest with
      | .ok ((s, ts) :: parts, rest, e) => .ok ((here ++ "\x60" ++ s, ts) :: parts, rest, e)
      | .ok ([], rest, e) => .ok ([(here ++ "\x60", none)], rest, e)
      | .error e => .error e
    | _ :: rest => .ok ([(here, none)], rest, spot.after '\x60')
    | [] => .error ⟨"Open string is not terminated", some spot⟩

end

/-- The tokens of a script, and the place behind them. -/
def lex (source : String) : Except ReadError (List Lexeme × Spot) :=
  (lexFrom (2 * source.length + 2) false 0 true ⟨1, 1⟩ source.toList).map
    fun (tokens, _, spot) => (tokens, spot)

end Workflow.Script

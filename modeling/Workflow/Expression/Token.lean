import Workflow.Decimal.Reading

/-!
# Tokens of expressions

An expression is cut into the longest tokens from the left: names, number literals without sign or
exponent, texts in either quote, operators and marks. Inside a text only its own quote can be
escaped. White space separates tokens. All characters of an expression are ASCII, those within
texts too.

## Main definitions

* `Workflow.Expression.Token` — the tokens.
* `Workflow.Expression.tokens?` — the tokens of a text.
-/

namespace Workflow

/-- An operator between two operands of an expression. -/
inductive BinaryOperator where
  | and
  | or
  | equal
  | notEqual
  | greaterOrEqual
  | lessOrEqual
  | greater
  | less
  | in
  | add
  | subtract
  | multiply
  | floorDivide
  | divide
  | modulus
  | exponent
deriving DecidableEq, Repr

namespace BinaryOperator

/-- How tightly an operator binds: operators of a level have operands of the next. -/
def level : BinaryOperator → Nat
  | and | or => 0
  | equal | notEqual | greaterOrEqual | lessOrEqual | greater | less | «in» => 1
  | add | subtract => 2
  | multiply | floorDivide | divide => 3
  | modulus | exponent => 4

end BinaryOperator

namespace Expression

/-- A token of an expression. -/
inductive Token where
  | number (x : Float)
  | text (s : String)
  | bool (b : Bool)
  | null
  | name (s : String)
  | operator (o : BinaryOperator)
  | question
  | colon
  | pipe
  | comma
  | dot
  | openParen
  | closeParen
  | openBracket
  | closeBracket
  | openBrace
  | closeBrace

/-- A character that may begin a name: an ASCII letter or an underscore. -/
def isNameStart (c : Char) : Bool := c.isAlpha || c = '_'

/-- A character that may continue a name. -/
def isNameRest (c : Char) : Bool := c.isAlphanum || c = '_'

/-- The token of a word. -/
def wordToken : String → Token
  | "true" => .bool true
  | "false" => .bool false
  | "null" => .null
  | "in" => .operator .in
  | s => .name s

/-- The white space between tokens. -/
def isSpace (c : Char) : Bool := c = ' ' || (9 ≤ c.toNat && c.toNat ≤ 13)

/-- The characters of a text up to its closing quote. -/
def quotedBody? (quote : Char) : List Char → Option (List Char × List Char)
  | [] => none
  | c :: rest =>
    if 0x7F < c.toNat then none
    else if c = quote then some ([], rest)
    else if c = '\\' then
      match rest with
      | d :: more =>
        if d = quote then (quotedBody? quote more).map fun (s, rest) => (d :: s, rest) else none
      | [] => none
    else (quotedBody? quote rest).map fun (s, rest) => (c :: s, rest)

/-- A number literal: digits, with a point only if digits stand behind it. -/
def numberToken? (cs : List Char) : Option (Token × List Char) :=
  let whole := cs.takeWhile Decimal.isDigit
  let rest := cs.dropWhile Decimal.isDigit
  let plain :=
    if whole = [] then none
    else some (.number (Decimal.scaled (Decimal.digitsValue whole) 0), rest)
  match rest with
  | '.' :: more =>
    let fraction := more.takeWhile Decimal.isDigit
    if fraction = [] then plain
    else
      some (.number (Decimal.scaled (Decimal.digitsValue (whole ++ fraction)) (-fraction.length)),
        more.dropWhile Decimal.isDigit)
  | _ => plain

/-- The first token and the characters behind it. -/
def token? : List Char → Option (Token × List Char)
  | '&' :: '&' :: rest => some (.operator .and, rest)
  | '|' :: '|' :: rest => some (.operator .or, rest)
  | '|' :: rest => some (.pipe, rest)
  | '=' :: '=' :: rest => some (.operator .equal, rest)
  | '!' :: '=' :: rest => some (.operator .notEqual, rest)
  | '>' :: '=' :: rest => some (.operator .greaterOrEqual, rest)
  | '<' :: '=' :: rest => some (.operator .lessOrEqual, rest)
  | '>' :: rest => some (.operator .greater, rest)
  | '<' :: rest => some (.operator .less, rest)
  | '+' :: rest => some (.operator .add, rest)
  | '-' :: rest => some (.operator .subtract, rest)
  | '*' :: rest => some (.operator .multiply, rest)
  | '/' :: '/' :: rest => some (.operator .floorDivide, rest)
  | '/' :: rest => some (.operator .divide, rest)
  | '%' :: rest => some (.operator .modulus, rest)
  | '^' :: rest => some (.operator .exponent, rest)
  | '?' :: rest => some (.question, rest)
  | ':' :: rest => some (.colon, rest)
  | ',' :: rest => some (.comma, rest)
  | '(' :: rest => some (.openParen, rest)
  | ')' :: rest => some (.closeParen, rest)
  | '[' :: rest => some (.openBracket, rest)
  | ']' :: rest => some (.closeBracket, rest)
  | '\x7b' :: rest => some (.openBrace, rest)
  | '\x7d' :: rest => some (.closeBrace, rest)
  | '\'' :: rest => (quotedBody? '\'' rest).map fun (s, rest) => (.text (String.ofList s), rest)
  | '"' :: rest => (quotedBody? '"' rest).map fun (s, rest) => (.text (String.ofList s), rest)
  | [] => none
  | c :: rest =>
    if isNameStart c then
      some (wordToken (String.ofList (c :: rest.takeWhile isNameRest)), rest.dropWhile isNameRest)
    else
      match numberToken? (c :: rest) with
      | some t => some t
      | none => if c = '.' then some (.dot, rest) else none

/-- The tokens of a sequence of characters, `fuel` at most. -/
def tokensFrom? : Nat → List Char → Option (List Token)
  | 0, _ => none
  | fuel + 1, cs =>
    match cs.dropWhile isSpace with
    | [] => some []
    | cs =>
      match token? cs with
      | some (t, rest) => (tokensFrom? fuel rest).map (t :: ·)
      | none => none

/-- The tokens of a text. -/
def tokens? (s : String) : Option (List Token) := tokensFrom? (s.length + 1) s.toList

end Expression

end Workflow

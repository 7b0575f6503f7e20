import Workflow.Script.Reader.Basic

/-!
# Reading scripts

The grammar of scripts. Binary operators bind as their strength says, from left to right but for
powers. A statement ends with a semicolon unless a brace ends it or nothing follows. Functions are
defined at the top only, and `break` and `continue` stand in loops only. Closures become functions
with the variables that they take along as their first parameters.

The reader goes down with a fuel that exceeds the depth of any tree of the tokens.

## Main definitions

* `Workflow.Script.parse` — the script that a text writes.
* `Workflow.Script.parseRecord` — the expression that a text in the notation of documents writes.
-/

namespace Workflow.Script

open Reader

/-! ### Operators and literals -/

/-- How strongly an operator binds; zero for what is no operator. -/
def strength : Token → Nat
  | .keyword "in" => 110
  | .keyword "!in" => 110
  | .symbol s =>
    match s with
    | "||" | "|" | "^" => 30
    | "&&" | "&" => 60
    | "==" | "!=" => 90
    | "<" | "<=" | ">" | ">=" => 130
    | "??" => 135
    | ".." | "..=" => 140
    | "+" | "-" => 150
    | "*" | "/" | "%" => 180
    | "**" => 190
    | "<<" | ">>" => 210
    | _ => 0
  | _ => 0

/-- The operands of a conjunction, one for what is none. -/
def bothOperands : Expr → List Expr
  | .both operands _ => operands
  | e => [e]

/-- The operands of a disjunction, one for what is none. -/
def eitherOperands : Expr → List Expr
  | .either operands _ => operands
  | e => [e]

/-- The operands of a choice of what is there, one for what is none. -/
def coalesceOperands : Expr → List Expr
  | .coalesce operands _ => operands
  | e => [e]

/-- The expression of a binary operator. -/
def combine (symbol : String) (left right : Expr) (spot : Spot) : Expr :=
  match symbol with
  | "&&" => .both (bothOperands left ++ bothOperands right) spot
  | "||" => .either (eitherOperands left ++ eitherOperands right) spot
  | "??" => .coalesce (coalesceOperands left ++ coalesceOperands right) spot
  | "in" => .call "contains" .builtin [right, left] spot
  | "!in" => .unary .not (.call "contains" .builtin [right, left] spot) spot
  | s => .binary ((BinaryOp.ofSymbol? s).getD .add) left right spot

/-- A number with the opposite sign, if it is a literal that has one. -/
def negated? : Expr → Option Datum
  | .constant (.int n) _ =>
    if n = Int64.minValue then some (.float (-Decimal.nearest n)) else some (.int (-n))
  | .constant (.float x) _ => some (.float (-x))
  | _ => none

/-- A literal number. -/
def isNumber : Expr → Bool
  | .constant (.int _) _ => true
  | .constant (.float _) _ => true
  | _ => false

/-- The name of the type of an expression that is certainly no truth value. -/
def notTruth? : Expr → Option String
  | .constant (.bool _) _ => none
  | .constant d _ => some d.typeName
  | .template _ _ => some "string"
  | .arrayOf _ _ => some "array"
  | .mapOf _ _ => some "map"
  | _ => none

/-- An expression that certainly has no items to go through. -/
def isNoSource : Expr → Bool
  | .constant (.text _) _ => false
  | .constant (.function _ _ _) _ => false
  | .constant _ _ => true
  | .mapOf _ _ => true
  | _ => false

mutual

/-- The datum of an expression that is a literal, or is put together from literals. -/
def literal? : Expr → Option Datum
  | .constant d _ => some d
  | .arrayOf items _ => (literals? items).map .array
  | .mapOf fields _ => (literalFields? fields).map .ofBindings
  | .binary op a b _ =>
    match op, literal? a, literal? b with
    | .range, some (.int m), some (.int n) => some (.range m n false)
    | .rangeInclusive, some (.int m), some (.int n) => some (.range m n true)
    | _, _, _ => none
  | _ => none

/-- The data of expressions that are literals. -/
def literals? : List Expr → Option (List Datum)
  | [] => some []
  | e :: rest =>
    match literal? e, literals? rest with
    | some d, some ds => some (d :: ds)
    | _, _ => none

/-- The data of fields that are literals. -/
def literalFields? : List (String × Expr) → Option (List (String × Datum))
  | [] => some []
  | (k, e) :: rest =>
    match literal? e, literalFields? rest with
    | some d, some ds => some ((k, d) :: ds)
    | _, _ => none

end

/-- A literal of a kind that has no items, or a truth value. -/
def isSolid : Expr → Bool
  | .constant (.float _) _ => true
  | .constant (.char _) _ => true
  | .constant (.bool _) _ => true
  | .constant .unit _ => true
  | .both _ _ => true
  | .either _ _ => true
  | _ => false

/-- The text for what has no items. -/
def solidText : String := "Only arrays, object maps and strings can be indexed"

/-- Why an expression cannot be an index of another. -/
def badIndex? (target index : Expr) : Option String :=
  match index with
  | .constant (.int _) _ =>
    match target with
    | .mapOf _ _ => some "Object map expects string index, not a number"
    | e => if isSolid e then some solidText else none
  | .constant (.float _) _ => some "Array, string or bit-field expects integer index, not a float"
  | .constant (.char _) _ =>
    some "Array, string or bit-field expects integer index, not a character"
  | .constant (.bool _) _ => some "Array, string or bit-field expects integer index, not a boolean"
  | .constant .unit _ => some "Array, string or bit-field expects integer index, not ()"
  | .both _ _ => some "Array, string or bit-field expects integer index, not a boolean"
  | .either _ _ => some "Array, string or bit-field expects integer index, not a boolean"
  | .constant (.text _) _ => ofText
  | .template _ _ => ofText
  | _ => none
where
  /-- Texts are no places in arrays, texts and numbers. -/
  ofText : Option String :=
    match target with
    | .arrayOf _ _ => some "Array or string expects numeric index, not a string"
    | .template _ _ => some "Array or string expects numeric index, not a string"
    | .constant (.text _) _ => some "Array or string expects numeric index, not a string"
    | .constant (.int _) _ => some solidText
    | e => if isSolid e then some solidText else none

/-- The link is an item. -/
def Link.isItem : Link → Bool
  | item _ _ => true
  | _ => false

/-- The link is a method. -/
def Link.isMethod : Link → Bool
  | method _ _ _ => true
  | _ => false

/-- Why an expression cannot be assigned to, and where. -/
def notTarget? (around : Surroundings) (e : Expr) : Option (String × Spot) :=
  let invalid (s : Spot) : Option (String × Spot) := some ("Expression cannot be assigned to", s)
  match e with
  | .this _ => none
  | .variable name spot =>
    if (around.names.lookup name).getD false then
      some ("Cannot assign to constant " ++ name, spot)
    else none
  | .chain root links =>
    match links.find? Link.isMethod with
    | some link => invalid link.joint.spot
    | none =>
      match root with
      | .variable _ _ => none
      | .this _ => none
      | e => invalid e.spot
  | e =>
    if (literal? e).isSome then some ("Cannot assign to a constant value", e.start)
    else invalid e.spot

/-- The operators of assignments, with the operator that is applied first. -/
def assignments : List (String × Option BinaryOp) :=
  ("=", none) ::
    (BinaryOp.all.filter BinaryOp.isAssignable).map fun op => (op.symbol ++ "=", some op)

/-- The statement ends with a brace and needs no semicolon. -/
def endsItself : Stmt → Bool
  | .block _ _ => true
  | .branch _ _ _ _ => true
  | .choose _ _ _ _ => true
  | .whileLoop _ _ _ => true
  | .endless _ _ => true
  | .forLoop _ _ _ _ _ => true
  | .tryCatch _ _ _ _ => true
  | _ => false

/-- The statement is none. -/
def Stmt.isNothing : Stmt → Bool
  | .nothing _ => true
  | _ => false

/-- The statements that a statement consists of as a block. -/
def Stmt.asBlock : Stmt → List Stmt
  | .nothing _ => []
  | .block body _ => body
  | s => [s]

/-- The most items of a range that is taken for its items. -/
def smallRange : Nat := 16

/-- The whole numbers of a range. -/
def numbersOf (first last : Int64) (inclusive : Bool) : List Datum :=
  let n := (last.toInt - first.toInt + if inclusive then 1 else 0).toNat
  (List.range n).map fun (i : Nat) => .int (Int64.ofInt (first.toInt + (i : Int)))

/-- A pattern put into a case: a small range as its numbers, as long as no range is kept. -/
def addPattern (unrolls : Bool) (d : Datum) (data : List Datum)
    (ranges : List (Int64 × Int64 × Bool)) : List Datum × List (Int64 × Int64 × Bool) :=
  match d with
  | .range a b i =>
    let n := (b.toInt - a.toInt + if i then 1 else 0).toNat
    if n = 0 then (data, ranges)
    else if unrolls && n ≤ smallRange then (data ++ numbersOf a b i, ranges)
    else (data, ranges ++ [(a, b, i)])
  | d => (data ++ [d], ranges)

/-- The closing symbols before which the end of a range may be missing. -/
def closers : List String := ["]", ")", "\x7d", ",", ";", "=>"]

/-- The function of a name is defined before. -/
def isFunctionName (name : String) : Reader Bool := do
  pure ((← get).functions.any (·.name == name))

/-- Adds a function. -/
def addFunction (f : FunctionDef) : Reader Unit :=
  modify fun r => { r with functions := f :: r.functions }

/-- Names with commas between, up to a closing symbol. -/
def nameList (close : String) : (fuel : Nat) → Reader (List String)
  | 0 => exhausted
  | fuel + 1 => do
    if ← takeSymbol close then pure []
    else
      let n ← name
      if ← takeSymbol "," then
        let rest ← nameList close fuel
        pure (n :: rest)
      else
        expect close "to close the parameters list"
        pure [n]

/-- The parameters of a function, up to a closing symbol; none may be repeated. -/
def parameters (close : String) (fuel : Nat) : Reader (List String) := do
  let spot ← Reader.spot
  let names ← nameList close fuel
  if names.eraseDups.length ≠ names.length then failAt "Duplicated parameter" spot
  else pure names

/-- The names of modules before a name, with a double colon behind each. -/
def modulePath (first : String) : (fuel : Nat) → Reader (List String × String)
  | 0 => exhausted
  | fuel + 1 => do
    if ← takeSymbol "::" then
      let (path, last) ← modulePath (← name) fuel
      pure (first :: path, last)
    else pure ([], first)

/-! ### Expressions and statements -/

mutual

/-- An expression. -/
def expression (fuel : Nat) (around : Surroundings) : Reader Expr :=
  match fuel with
  | 0 => exhausted
  | fuel + 1 => do
    let around ← deeper around
    let left ← unary fuel around
    operators fuel around 1 left

/-- An expression between brackets. -/
def enclosedExpression (fuel : Nat) (around : Surroundings) : Reader Expr :=
  match fuel with
  | 0 => exhausted
  | fuel + 1 => do
    let around ← deeper around
    expression fuel around

/-- The operators behind an operand that bind at least as strongly as `least`. -/
def operators (fuel : Nat) (around : Surroundings) (least : Nat) (left : Expr) : Reader Expr :=
  match fuel with
  | 0 => exhausted
  | fuel + 1 => do
    let spot ← Reader.spot
    match ← peek? with
    | none => pure left
    | some t =>
      let s := strength t
      if s = 0 ∨ s < least then pure left
      else
        skip
        let symbol := match t with
          | .symbol s => s
          | .keyword k => k
          | _ => ""
        let spans := symbol == ".." || symbol == "..="
        let isOpen := match ← peek? with
          | some (.symbol c) => spans && closers.contains c
          | none => spans
          | _ => false
        let right ← if isOpen then pure (Expr.constant .unit spot)
          else
            let right ← unary fuel around
            operators fuel around (if s = 190 then s else s + 1) right
        let around ← deeper around
        if symbol = "&&" ∨ symbol = "||" then
          for e in [left, right] do
            if let some type := notTruth? e then
              failAt ("Expecting a boolean, not " ++ type) e.spot
        operators fuel around least (combine symbol left right spot)

/-- An operand with the signs before it; the beginning of a range may be missing. -/
def unary (fuel : Nat) (around : Surroundings) : Reader Expr :=
  match fuel with
  | 0 => exhausted
  | fuel + 1 => do
    let spot ← Reader.spot
    match ← peek? with
    | some (.symbol "-") =>
      skip
      let e ← unary fuel (← deeper around)
      match negated? e with
      | some d => pure (.constant d spot)
      | none => pure (.unary .minus e spot)
    | some (.symbol "+") =>
      skip
      let e ← unary fuel (← deeper around)
      if isNumber e then pure e else pure (.unary .plus e spot)
    | some (.symbol "!") =>
      skip
      let e ← unary fuel (← deeper around)
      pure (.unary .not e spot)
    | some (.symbol "..") => pure (.constant .unit spot)
    | some (.symbol "..=") => pure (.constant .unit spot)
    | _ => primary fuel around

/-- An operand with what stands behind it. -/
def primary (fuel : Nat) (around : Surroundings) : Reader Expr :=
  match fuel with
  | 0 => exhausted
  | fuel + 1 => do
    let spot ← Reader.spot
    match ← peek? with
    | none => fail "Script is incomplete"
    | some (.keyword k) =>
      if ["if", "switch", "while", "do", "loop", "for"].contains k then
        let s ← statement fuel around.inBlock
        behind fuel around (.perform s.asBlock spot) []
      else if k = "true" ∨ k = "false" then
        skip
        behind fuel around (.constant (.bool (k = "true")) spot) []
      else fail ("Unexpected '" ++ k ++ "'")
    | some t =>
      skip
      let e ← operand fuel around t spot
      behind fuel around e []

/-- The operand that begins with a token. -/
def operand (fuel : Nat) (around : Surroundings) (t : Token) (spot : Spot) : Reader Expr :=
  match fuel with
  | 0 => exhausted
  | fuel + 1 =>
    match t with
    | .int n => pure (.constant (.int n) spot)
    | .float x => pure (.constant (.float x) spot)
    | .text s => pure (.constant (.text s) spot)
    | .char c => pure (.constant (.char c) spot)
    | .template parts => do
      let parts ← templateParts fuel around spot parts
      pure (.template parts spot)
    | .word first => do
      let (path, name) ← modulePath first fuel
      let bang ← match ← peek?, ← peekBehind? with
        | some (.symbol "!"), some (.symbol "(") => pure true
        | _, _ => pure false
      if bang then skip
      if ← takeSymbol "(" then
        let args ← arguments fuel around ")"
        if path.isEmpty then
          pure (.call name (if bang then .withScope else .ordinary) args spot)
        else if bang then failAt "Expression cannot be called with a scope" spot
        else pure (.foreign path name (some args) spot)
      else if !path.isEmpty then pure (.foreign path name none spot)
      else if (around.names.lookup name).isNone ∧ (← isFunctionName name) then
        pure (.constant (.function name [] []) spot)
      else pure (.variable name spot)
    | .reserved "this" =>
      if around.inFunction then pure (.this spot)
      else failAt "'this' can only be used in functions" spot
    | .reserved name => do
      if functionWords.contains name ∧ (← takeSymbol "(") then
        let args ← arguments fuel around ")"
        pure (.call name .ordinary args spot)
      else failAt (reservedText name) spot
    | .symbol "(" => do
      if ← takeSymbol ")" then pure (.constant .unit spot)
      else
        let e ← enclosedExpression fuel around
        expect ")" "for a matching ( in this expression"
        pure e
    | .symbol "[" => do
      let items ← arguments fuel around "]"
      pure (.arrayOf items spot)
    | .symbol "#\x7b" => do
      let fields ← mapFields fuel around []
      pure (.mapOf fields spot)
    | .symbol "\x7b" => do
      let body ← blockBody fuel around
      pure (.perform body spot)
    | .symbol "|" => do
      let names ← parameters "|" fuel
      closure fuel around names spot
    | .symbol "||" => closure fuel around [] spot
    | .symbol s => failAt ("Unexpected '" ++ s ++ "'") spot
    | .keyword s => failAt ("Unexpected '" ++ s ++ "'") spot

/-- The body of a closure, which sees no constants but its own. -/
def closure (fuel : Nat) (around : Surroundings) (names : List String) (spot : Spot) :
    Reader Expr :=
  match fuel with
  | 0 => exhausted
  | fuel + 1 => do
    let s ← statement fuel { Surroundings.within names with quotedKeys := around.quotedKeys }
    let body := s.asBlock
    let captured := takenAlong names body
    let name := closureMark ++ Decimal.natText (← get).functions.length
    addFunction ⟨name, none, captured.map (·.1) ++ names, body⟩
    pure (if captured.isEmpty then .constant (.function name [] []) spot
      else .closure name captured spot)

/-- What stands behind an operand: indices, properties and methods. -/
def behind (fuel : Nat) (around : Surroundings) (root : Expr) (links : List Link) : Reader Expr :=
  match fuel with
  | 0 => exhausted
  | fuel + 1 => do
    let mark ← Reader.spot
    let bracket ← atSymbol "["
    if bracket || (← atSymbol "?[") then
      skip
      let index ← enclosedExpression fuel around
      if !(links.getLast?.any Link.isItem) then
        let target := if links.isEmpty then root else .variable "" mark
        if let some message := badIndex? target index then
          failAt ("Invalid index in indexing expression: " ++ message) index.start
      expect "]" "for a matching [ in this index expression"
      behind fuel around root (links ++ [.item index ⟨!bracket, mark, index.start⟩])
    else
      let point ← atSymbol "."
      if point || (← atSymbol "?.") then
        skip
        let link ← member fuel around (!point) mark
        behind fuel around root (links ++ [link])
      else pure (if links.isEmpty then root else .chain root links)

/-- What stands behind a point. -/
def member (fuel : Nat) (around : Surroundings) (lenient : Bool) (mark : Spot) : Reader Link :=
  match fuel with
  | 0 => exhausted
  | fuel + 1 => do
    let spot ← Reader.spot
    let joint : Joint := ⟨lenient, mark, spot⟩
    match ← peek? with
    | some (.word name) =>
      skip
      if ← takeSymbol "(" then
        let args ← arguments fuel around ")"
        pure (.method name args joint)
      else pure (.property name joint)
    | some (.reserved name) =>
      skip
      if methodWords.contains name ∧ (← takeSymbol "(") then
        let args ← arguments fuel around ")"
        pure (.method name args joint)
      else failAt (reservedText name) spot
    | _ => fail "Expecting name of a property"

/-- Expressions with commas between, up to a closing symbol. -/
def arguments (fuel : Nat) (around : Surroundings) (close : String) : Reader (List Expr) :=
  match fuel with
  | 0 => exhausted
  | fuel + 1 => do
    if ← takeSymbol close then pure []
    else
      let e ← enclosedExpression fuel around
      if ← takeSymbol "," then
        let rest ← arguments fuel around close
        pure (e :: rest)
      else
        expect close "to close this list"
        pure [e]

/-- The fields of a map up to its closing brace; a key may stand only once. -/
def mapFields (fuel : Nat) (around : Surroundings) (known : List String) :
    Reader (List (String × Expr)) :=
  match fuel with
  | 0 => exhausted
  | fuel + 1 => do
    if ← takeSymbol "\x7d" then pure []
    else
      let key ← match ← peek? with
        | some (.word s) =>
          if around.quotedKeys then fail "Expecting name of a property" else pure s
        | some (.text s) => pure s
        | some (.reserved s) => fail (reservedText s)
        | _ => fail "Expecting name of a property"
      if known.contains key then
        fail ("Duplicated property for object map literal: " ++ key)
      skip
      expect ":" ("to follow the property '" ++ key ++ "' in this object map literal")
      let e ← enclosedExpression fuel around
      if ← takeSymbol "," then
        let rest ← mapFields fuel around (key :: known)
        pure ((key, e) :: rest)
      else
        expect "\x7d" "to end this object map literal"
        pure [(key, e)]

/-- The parts of a text with code in it. -/
def templateParts (fuel : Nat) (around : Surroundings) (spot : Spot) :
    List (String × Option (List Lexeme)) → Reader (List Expr)
  | [] => pure []
  | (s, code) :: rest =>
    match fuel with
    | 0 => exhausted
    | fuel + 1 => do
      let here : List Expr := if s = "" then [] else [.constant (.text s) spot]
      let inner ← match code with
        | none => pure []
        | some tokens => do
          let left := (← get).tokens
          modify fun r => { r with tokens := tokens }
          let around ← deeper around.inBlock
          let body ← statements fuel around
          if (← peek?).isSome then fail "Unexpected end of code in a text"
          modify fun r => { r with tokens := left }
          pure [Expr.perform body spot]
      let rest ← templateParts fuel around spot rest
      pure (here ++ inner ++ rest)

/-- Statements up to a closing brace or the end. -/
def statements (fuel : Nat) (around : Surroundings) : Reader (List Stmt) :=
  match fuel with
  | 0 => exhausted
  | fuel + 1 => do
    match ← peek? with
    | none => pure []
    | some (.symbol "\x7d") => pure []
    | some (.symbol ";") =>
      skip
      statements fuel around
    | _ =>
      let s ← statement fuel around
      let here := if s.isNothing then [] else [s]
      if ← takeSymbol ";" then
        let rest ← statements fuel (around.behind s)
        pure (here ++ rest)
      else if (← atSymbol "\x7d") || (← peek?).isNone then pure here
      else if endsItself s then
        let rest ← statements fuel (around.behind s)
        pure (here ++ rest)
      else fail (missing ";" "to terminate this statement")

/-- Statements behind an opening brace, up to the closing one. -/
def blockBody (fuel : Nat) (around : Surroundings) : Reader (List Stmt) :=
  match fuel with
  | 0 => exhausted
  | fuel + 1 => do
    let around ← deeper around.inBlock
    let body ← statements fuel around
    expect "\x7d" "to terminate this block"
    pure body

/-- Statements between braces. -/
def block (fuel : Nat) (around : Surroundings) : Reader (List Stmt) :=
  match fuel with
  | 0 => exhausted
  | fuel + 1 => do
    expect "\x7b" "to start a statement block"
    blockBody fuel around

/-- A value that may be missing before the end of a statement. -/
def optionalValue (fuel : Nat) (around : Surroundings) : Reader (Option Expr) :=
  match fuel with
  | 0 => exhausted
  | fuel + 1 => do
    match ← peek? with
    | none => pure none
    | some (.symbol ";") => pure none
    | some (.symbol "\x7d") => pure none
    | _ => some <$> expression fuel around

/-- An expression that may be a truth value. -/
def condition (fuel : Nat) (around : Surroundings) : Reader Expr :=
  match fuel with
  | 0 => exhausted
  | fuel + 1 => do
    if ← atSymbol "\x7b" then fail "Expecting a boolean expression"
    let e ← expression fuel around
    match notTruth? e with
    | some type => failAt ("Expecting a boolean, not " ++ type) e.spot
    | none => pure e

/-- A branch behind `if`. -/
def branch (fuel : Nat) (around : Surroundings) (spot : Spot) : Reader Stmt :=
  match fuel with
  | 0 => exhausted
  | fuel + 1 => do
    let test ← condition fuel around
    let yes ← block fuel around
    if ← takeKeyword "else" then
      let here ← Reader.spot
      if ← takeKeyword "if" then
        let no ← branch fuel around here
        pure (.branch test yes [no] spot)
      else
        let no ← block fuel around
        pure (.branch test yes no spot)
    else pure (.branch test yes [] spot)

/-- The patterns of a case with bars between, with what they fit. -/
def patterns (fuel : Nat) (around : Surroundings) (ranged : Bool) : Reader (List Datum) :=
  match fuel with
  | 0 => exhausted
  | fuel + 1 => do
    let inner ← deeper around
    let left ← unary fuel inner
    let e ← operators fuel inner 31 left
    match literal? e with
    | none => failAt "Expecting a literal expression" e.start
    | some d =>
      let rest ← if ← takeSymbol "|" then patterns fuel around ranged else pure []
      pure (d :: rest)

/-- The cases of a choice up to its closing brace; the one that fits anything is the last. No whole
number stands behind a range that is kept. -/
def choices (fuel : Nat) (around : Surroundings) (ranged : Bool) (cases : List Case) :
    Reader (List Case × Option Expr) :=
  match fuel with
  | 0 => exhausted
  | fuel + 1 => do
    if ← takeSymbol "\x7d" then pure (cases, none)
    else if ← takeSymbol "_" then
      if ← atKeyword "if" then fail "This switch case cannot have a condition"
      let (body, _) ← caseBody fuel around
      let _ ← takeSymbol ","
      if ← takeSymbol "\x7d" then pure (cases, some body)
      else fail "Default switch case must be the last"
    else
      let spot ← Reader.spot
      let ds ← patterns fuel around ranged
      let guard ← if ← takeKeyword "if" then some <$> condition fuel around else pure none
      let (body, bare) ← caseBody fuel around
      let step (acc : List Datum × List (Int64 × Int64 × Bool) × Bool) (d : Datum) :
          List Datum × List (Int64 × Int64 × Bool) × Bool :=
        let (data, ranges, bad) := acc
        let kept := ranged || !ranges.isEmpty
        let bad := bad || kept && d.typeName == "i64"
        let (data, ranges) := addPattern (guard.isNone && !kept) d data ranges
        (data, ranges, bad)
      let (data, ranges, bad) := ds.foldl step ([], [], false)
      if bad then failAt "Integer cases cannot follow a range case" spot
      let cases := cases ++ [.mk data ranges guard body]
      let ranged := ranged || !ranges.isEmpty
      if (← takeSymbol ",") || (← atSymbol "\x7d") || !bare then choices fuel around ranged cases
      else fail (missing "," "to separate the items in this switch block")

/-- What a case comes to, and whether it needs a comma behind it. -/
def caseBody (fuel : Nat) (around : Surroundings) : Reader (Expr × Bool) :=
  match fuel with
  | 0 => exhausted
  | fuel + 1 => do
    expect "=>" "in this switch case"
    let s ← statement fuel around.inBlock
    pure (.perform s.asBlock s.spot, !endsItself s)

/-- A loop over items behind `for`. -/
def forLoop (fuel : Nat) (around : Surroundings) (spot : Spot) : Reader Stmt :=
  match fuel with
  | 0 => exhausted
  | fuel + 1 => do
    let (n, counter) ← if ← takeSymbol "(" then
        let n ← name
        expect "," "after the iteration variable name"
        let c ← name
        expect ")" "to close the iteration variable"
        if n = c then fail ("Duplicated variable name: " ++ n)
        pure (n, some c)
      else
        let n ← name
        pure (n, none)
    if !(← takeKeyword "in") then fail (missing "in" "after the iteration variable")
    if ← atSymbol "\x7b" then fail "Expecting a boolean expression"
    let source ← expression fuel around
    if isNoSource source then failAt "Expecting an iterable value" source.spot
    let inner := (counter.toList.foldl (·.knowing · false) around.looping).knowing n false
    let body ← block fuel inner
    pure (.forLoop n counter source body spot)

/-- A statement behind `try`. -/
def tryCatch (fuel : Nat) (around : Surroundings) (spot : Spot) : Reader Stmt :=
  match fuel with
  | 0 => exhausted
  | fuel + 1 => do
    let body ← block fuel around
    if !(← takeKeyword "catch") then fail (missing "catch" "for the 'try' statement")
    let n ← if ← takeSymbol "(" then
        let n ← name
        expect ")" "to enclose the catch variable"
        pure (some n)
      else pure none
    let handler ← block fuel (n.toList.foldl (·.knowing · false) around)
    pure (.tryCatch body n handler spot)

/-- The definition of a variable or a constant. -/
def definition (fuel : Nat) (around : Surroundings) (isConstant : Bool) : Reader Stmt :=
  match fuel with
  | 0 => exhausted
  | fuel + 1 => do
    let spot ← Reader.spot
    let n ← name
    let e ← if ← takeSymbol "=" then expression fuel around else pure (.constant .unit spot)
    pure (.define n isConstant e spot)

/-- A statement. -/
def statement (fuel : Nat) (around : Surroundings) : Reader Stmt :=
  match fuel with
  | 0 => exhausted
  | fuel + 1 => do
    let around ← deeper around
    let spot ← Reader.spot
    match ← peek? with
    | some (.symbol ";") => pure (.nothing spot)
    | some (.symbol "\x7b") =>
      let body ← block fuel around
      pure (.block body spot)
    | some (.keyword k) =>
      match k with
      | "if" =>
        skip
        branch fuel around spot
      | "switch" =>
        skip
        if ← atSymbol "\x7b" then fail "Expecting a boolean expression"
        let subject ← expression fuel around
        expect "\x7b" "to start a switch block"
        let (cases, otherwise) ← choices fuel around false []
        pure (.choose subject cases otherwise spot)
      | "while" =>
        skip
        let test ← condition fuel around
        let body ← block fuel around.looping
        match test with
        | .constant (.bool true) _ => pure (.endless body spot)
        | test => pure (.whileLoop test body spot)
      | "loop" =>
        skip
        let body ← block fuel around.looping
        pure (.endless body spot)
      | "do" =>
        skip
        let body ← block fuel around.looping
        let outcome ← if ← takeKeyword "while" then pure true
          else if ← takeKeyword "until" then pure false
          else fail (missing "while" "for the do statement")
        let test ← condition fuel around
        pure (.doLoop body test outcome spot)
      | "for" =>
        skip
        forLoop fuel around spot
      | "break" =>
        if !around.inLoop then fail "Break statement should only be used inside a loop"
        skip
        let e ← optionalValue fuel around
        pure (.breakOut e spot)
      | "continue" =>
        if !around.inLoop then fail "Break statement should only be used inside a loop"
        skip
        pure (.continueOn spot)
      | "return" =>
        skip
        let e ← optionalValue fuel around
        pure (.returnWith e spot)
      | "throw" =>
        skip
        let e ← optionalValue fuel around
        pure (.throwWith e spot)
      | "try" =>
        skip
        tryCatch fuel around spot
      | "let" =>
        skip
        definition fuel around false
      | "const" =>
        skip
        definition fuel around true
      | "import" =>
        skip
        let path ← expression fuel around
        if ← takeKeyword "as" then
          let _ ← name
          pure (.importModule path spot)
        else pure (.importModule path spot)
      | "fn" => fail "Function definitions must be at global level"
      | "private" => fail "Function definitions must be at global level"
      | "export" =>
        if !around.atTop then
          fail "Export statement can only appear at global level"
        skip
        if ← takeKeyword "let" then definition fuel around false
        else if ← takeKeyword "const" then definition fuel around true
        else
          let here ← Reader.spot
          let n ← name
          if ← takeKeyword "as" then
            let _ ← name
            pure (.exportName n here)
          else pure (.exportName n here)
      | _ => assignment fuel around
    | _ => assignment fuel around

/-- An expression as a statement, or an assignment. -/
def assignment (fuel : Nat) (around : Surroundings) : Reader Stmt :=
  match fuel with
  | 0 => exhausted
  | fuel + 1 => do
    let e ← expression fuel around
    let spot ← Reader.spot
    match ← peek? with
    | some (.symbol s) =>
      match assignments.lookup s with
      | some operator =>
        skip
        let value ← expression fuel around
        match notTarget? around e with
        | some (message, place) => failAt message place
        | none => pure (.assign e operator value spot)
      | none => pure (.expression e)
    | _ => pure (.expression e)

end

/-! ### Whole scripts -/

/-- The types that have a name of their own in the definition of a function. -/
def receiverType (s : String) : String :=
  match s with
  | "int" => "i64"
  | "float" => "f64"
  | s => s

/-- The type of what a function is called on, with a point behind it. -/
def receiver? : Reader (Option String) := do
  match ← peek?, ← peekBehind? with
  | some (.text s), some (.symbol ".") =>
    skip
    skip
    pure (some (receiverType s))
  | some (.word s), some (.symbol ".") =>
    skip
    skip
    pure (some (receiverType s))
  | _, _ => pure none

/-- The definition of a function behind `fn`. -/
def functionDef (fuel : Nat) : Reader Unit := do
  let type ← receiver?
  let spot ← Reader.spot
  let n ← match ← peek? with
    | some (.word s) => pure s
    | some (.reserved s) => fail (reservedText s)
    | _ => fail "Expecting function name in function declaration"
  skip
  expect "(" ("to start the parameters list of function '" ++ n ++ "'")
  let names ← parameters ")" fuel
  let body ← block fuel (.within names)
  if (← get).functions.any fun f =>
      f.name == n && f.receiver == type && f.parameters.length == names.length then
    failAt ("Function " ++ n ++ " already exists") spot
  addFunction ⟨n, type, names, body⟩

/-- The statements of a script, between which functions may be defined. -/
def script (depth : Nat) : (fuel : Nat) → Surroundings → Reader (List Stmt)
  | 0, _ => exhausted
  | fuel + 1, around => do
    match ← peek? with
    | none => pure []
    | some (.symbol ";") =>
      skip
      script depth fuel around
    | some (.keyword "private") =>
      skip
      if ← atKeyword "fn" then script depth fuel around
      else fail (missing "fn" "following 'private'")
    | some (.keyword "fn") =>
      skip
      functionDef depth
      script depth fuel around
    | _ =>
      let s ← statement depth around
      let here := if s.isNothing then [] else [s]
      if (← takeSymbol ";") || endsItself s || (← peek?).isNone then
        let rest ← script depth fuel (around.behind s)
        pure (here ++ rest)
      else fail (missing ";" "to terminate this statement")

/-- More levels than any tree of a text has. -/
def depthFor (source : String) : Nat := 60 * (source.length + 1)

/-- The script that a text writes. -/
def parse (source : String) : Except ReadError Code := do
  let (tokens, last) ← lex source
  let (body, r) ← (script (depthFor source) (source.length + 2) .top).run ⟨tokens, last, []⟩
  pure ⟨r.functions, body⟩

/-- A token in the notation of documents, where braces enclose maps. -/
def recordToken (t : Lexeme) (next : Option Token) : Except ReadError Lexeme :=
  let refused (s : String) : Except ReadError Lexeme :=
    .error ⟨"Invalid symbol encountered: '" ++ s ++ "'", some t.2⟩
  match t.1, next with
  | .symbol "\x7b", _ => .ok (.symbol "#\x7b", t.2)
  | .symbol "#\x7b", _ => refused "#\x7b"
  | .symbol "(", some (.symbol ")") => refused "()"
  | .template _, _ => refused "\x60"
  | _, _ => .ok t

/-- The tokens of a text in the notation of documents. -/
def recordTokens : List Lexeme → Except ReadError (List Lexeme)
  | [] => .ok []
  | t :: rest => do
    let u ← recordToken t (rest.head?.map (·.1))
    let us ← recordTokens rest
    match u.1 with
    | .reserved "null" => pure ((.symbol "(", u.2) :: (.symbol ")", u.2) :: us)
    | _ => pure (u :: us)

/-- The expression that a text in the notation of documents writes. -/
def parseRecord (source : String) : Except ReadError Code := do
  let (tokens, last) ← lex source
  let tokens ← recordTokens tokens
  match tokens with
  | (.symbol "#\x7b", _) :: _ => pure ()
  | _ => throw ⟨missing "\x7b" "to start a JSON object hash", some ⟨1, 1⟩⟩
  let around := { Surroundings.top with quotedKeys := true }
  let (e, r) ← (expression (depthFor source) around).run ⟨tokens, last, []⟩
  match r.tokens with
  | [] => pure ⟨r.functions, [.expression e]⟩
  | (_, spot) :: _ => throw ⟨"Unexpected symbol", some spot⟩

end Workflow.Script

import Workflow.Expression.Token
import Workflow.Json.Basic

/-!
# Expressions

The tree of a free-form condition: literals, variables, paths, filters, operators, a choice between
two values, and the pipe into a transform.

## Main definitions

* `Workflow.Expression` — the trees.
* `Workflow.Expression.ofText?` — the tree of a text.
-/

namespace Workflow

/-- An expression. -/
inductive Expression where
  | number (x : Float)
  | text (s : String)
  | bool (b : Bool)
  | null
  | name (s : String)
  | list (items : List Expression)
  | object (fields : List (String × Expression))
  | field (subject : Expression) (name : String)
  | index (subject : Expression) (position : Expression)
  | filter (subject : Expression) (name : String) (o : BinaryOperator) (right : Expression)
  | binary (o : BinaryOperator) (left right : Expression)
  | choose (condition whenTrue whenFalse : Expression)
  | transform (name : String) (subject : Expression) (arguments : List Expression)
deriving Inhabited

namespace Expression

/-- The level of the choice between two values; operators bind more loosely. -/
def choiceLevel : Nat := 5

/-- The level of the pipe into a transform. -/
def pipeLevel : Nat := 6

/-- The level of paths and filters. -/
def pathLevel : Nat := 7

mutual

/-- An expression of a level and the tokens behind it. -/
def read? : Nat → Nat → List Token → Option (Expression × List Token)
  | 0, _, _ => none
  | fuel + 1, level, ts =>
    if pathLevel < level then readAtom? fuel ts
    else
      match read? fuel (level + 1) ts with
      | some (e, rest) => readMore? fuel level e rest
      | none => none

/-- What may follow an expression of a level, as long as more follows. -/
def readMore? : Nat → Nat → Expression → List Token → Option (Expression × List Token)
  | 0, _, _, _ => none
  | fuel + 1, level, e, ts =>
    match ts with
    | .operator o :: rest =>
      if o.level = level then
        match read? fuel (level + 1) rest with
        | some (right, rest) => readMore? fuel level (.binary o e right) rest
        | none => none
      else some (e, ts)
    | .question :: rest =>
      if level = choiceLevel then
        match read? fuel pipeLevel rest with
        | some (yes, .colon :: rest) =>
          match read? fuel pipeLevel rest with
          | some (no, rest) => readMore? fuel level (.choose e yes no) rest
          | none => none
        | _ => none
      else some (e, ts)
    | .pipe :: rest =>
      if level = pipeLevel then
        match rest with
        | .name n :: .openParen :: rest =>
          match readList? fuel .closeParen [] rest with
          | some (items, rest) => readMore? fuel level (.transform n e items) rest
          | none => none
        | .name n :: rest => readMore? fuel level (.transform n e []) rest
        | _ => none
      else some (e, ts)
    | .dot :: rest =>
      if level = pathLevel then
        match rest with
        | .name n :: rest => readMore? fuel level (.field e n) rest
        | _ => none
      else some (e, ts)
    | .openBracket :: rest =>
      if level = pathLevel then
        match rest with
        | .dot :: .name n :: .operator o :: rest =>
          if o.level = 1 then
            match readAtom? fuel rest with
            | some (right, .closeBracket :: rest) => readMore? fuel level (.filter e n o right) rest
            | _ => none
          else none
        | rest =>
          match read? fuel 0 rest with
          | some (position, .closeBracket :: rest) => readMore? fuel level (.index e position) rest
          | _ => none
      else some (e, ts)
    | _ => some (e, ts)

/-- A literal, a variable, a list, an object, or an expression in parentheses. -/
def readAtom? : Nat → List Token → Option (Expression × List Token)
  | 0, _ => none
  | fuel + 1, ts =>
    match ts with
    | .number x :: rest => some (.number x, rest)
    | .text s :: rest => some (.text s, rest)
    | .bool b :: rest => some (.bool b, rest)
    | .null :: rest => some (.null, rest)
    | .name s :: rest => some (.name s, rest)
    | .openParen :: rest =>
      match read? fuel 0 rest with
      | some (e, .closeParen :: rest) => some (e, rest)
      | _ => none
    | .openBracket :: rest =>
      (readList? fuel .closeBracket [] rest).map fun (es, rest) => (.list es, rest)
    | .openBrace :: rest => readFields? fuel [] rest
    | _ => none

/-- Expressions between commas up to a closing mark, which a comma may precede. -/
def readList? : Nat → Token → List Expression → List Token → Option (List Expression × List Token)
  | 0, _, _, _ => none
  | fuel + 1, closing, acc, ts =>
    match closing, ts with
    | .closeParen, .closeParen :: rest => some (acc.reverse, rest)
    | .closeBracket, .closeBracket :: rest => some (acc.reverse, rest)
    | closing, ts =>
      match read? fuel 0 ts with
      | some (e, .comma :: rest) => readList? fuel closing (e :: acc) rest
      | some (e, rest) =>
        match closing, rest with
        | .closeParen, .closeParen :: rest => some ((e :: acc).reverse, rest)
        | .closeBracket, .closeBracket :: rest => some ((e :: acc).reverse, rest)
        | _, _ => none
      | none => none

/-- The fields of an object up to its closing brace, which a comma may precede. -/
def readFields? : Nat → List (String × Expression) → List Token → Option (Expression × List Token)
  | 0, _, _ => none
  | fuel + 1, acc, ts =>
    let entry (key : String) (rest : List Token) : Option (Expression × List Token) :=
      match read? fuel 0 rest with
      | some (e, .comma :: rest) => readFields? fuel ((key, e) :: acc) rest
      | some (e, .closeBrace :: rest) => some (.object ((key, e) :: acc).reverse, rest)
      | _ => none
    match ts with
    | .closeBrace :: rest => some (.object acc.reverse, rest)
    | .name key :: .colon :: rest => entry key rest
    | .text key :: .colon :: rest => entry key rest
    | _ => none

end

/-- The expression that tokens write, with none left over. -/
def ofTokens? (ts : List Token) : Option Expression :=
  match read? (12 * (ts.length + 2)) 0 ts with
  | some (e, []) => some e
  | _ => none

/-- The expression that a text writes. -/
def ofText? (s : String) : Option Expression := (tokens? s).bind ofTokens?

end Expression

end Workflow

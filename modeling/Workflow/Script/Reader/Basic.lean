import Workflow.Script.Scope

/-!
# Readers of scripts

A reader is a function on the tokens that are left of a script and on the functions that have been
found in it so far. It fails with the place of what it cannot read.

Expressions and statements may be nested up to a limit only. A reader knows how deep it is and what
it may find there.

## Main definitions

* `Workflow.Script.Reader` — readers.
* `Workflow.Script.Surroundings` — what a reader knows of the place where it reads.
* `Workflow.Script.deeper` — the surroundings one level further down.
-/

namespace Workflow.Script

/-- What is left of a script, and what has been found in it. -/
structure Reading where
  tokens : List Lexeme
  /-- The place behind the last token. -/
  last : Spot
  /-- The functions, the latest first. -/
  functions : List FunctionDef

/-- A reader. -/
abbrev Reader := StateT Reading (Except ReadError)

namespace Reader

/-- The next token. -/
def peek? : Reader (Option Token) := do
  match (← get).tokens with
  | (t, _) :: _ => pure (some t)
  | [] => pure none

/-- The token behind the next one. -/
def peekBehind? : Reader (Option Token) := do
  match (← get).tokens with
  | _ :: (t, _) :: _ => pure (some t)
  | _ => pure none

/-- The place of the next token. -/
def spot : Reader Spot := do
  match (← get).tokens with
  | (_, s) :: _ => pure s
  | [] => pure (← get).last

/-- Fails at a place. -/
def failAt {α : Type} (message : String) (place : Spot) : Reader α :=
  throw ⟨message, some place⟩

/-- Fails at the next token. -/
def fail {α : Type} (message : String) : Reader α := do
  failAt message (← spot)

/-- Passes over a token. -/
def skip : Reader Unit := modify fun r => { r with tokens := r.tokens.tail }

/-- The next token is a symbol. -/
def atSymbol (s : String) : Reader Bool := do
  match ← peek? with
  | some (.symbol t) => pure (s == t)
  | _ => pure false

/-- The next token is a keyword. -/
def atKeyword (s : String) : Reader Bool := do
  match ← peek? with
  | some (.keyword t) => pure (s == t)
  | _ => pure false

/-- Passes over a symbol if it comes next, and tells whether it does. -/
def takeSymbol (s : String) : Reader Bool := do
  if ← atSymbol s then
    skip
    pure true
  else pure false

/-- Passes over a keyword if it comes next, and tells whether it does. -/
def takeKeyword (s : String) : Reader Bool := do
  if ← atKeyword s then
    skip
    pure true
  else pure false

/-- The text of a missing symbol. -/
def missing (s purpose : String) : String := "Expecting '" ++ s ++ "' " ++ purpose

/-- Passes over a symbol that must come next. -/
def expect (s purpose : String) : Reader Unit := do
  if ← takeSymbol s then pure () else fail (missing s purpose)

/-- The text of a word that is set aside. -/
def reservedText (s : String) : String := "'" ++ s ++ "' is a reserved keyword"

/-- A name that must come next. -/
def name : Reader String := do
  match ← peek? with
  | some (.word s) =>
    skip
    pure s
  | some (.reserved s) => fail (reservedText s)
  | _ => fail "Expecting name of a variable"

end Reader

/-- What a reader knows of the surroundings. -/
structure Surroundings where
  inLoop : Bool
  /-- Not within a block or a function. -/
  atTop : Bool
  inFunction : Bool
  /-- The keys of maps stand between quotes. -/
  quotedKeys : Bool
  level : Nat
  limit : Nat
  /-- The variables in sight, the nearest first, and whether they are constants. -/
  names : List (String × Bool)

namespace Surroundings

/-- The levels that the expressions of a script may be nested in. -/
def scriptLimit : Nat := 32

/-- The levels that the expressions of a function may be nested in. -/
def functionLimit : Nat := 16

/-- The surroundings at the top of a script. -/
def top : Surroundings := ⟨false, true, false, false, 0, scriptLimit, []⟩

/-- The surroundings within a function with parameters. -/
def within (parameters : List String) : Surroundings :=
  ⟨false, false, true, false, 0, functionLimit, parameters.map (·, false)⟩

/-- The surroundings with a name. -/
def knowing (around : Surroundings) (name : String) (isConstant : Bool) : Surroundings :=
  { around with names := (name, isConstant) :: around.names }

/-- The surroundings behind a statement. -/
def behind (around : Surroundings) : Stmt → Surroundings
  | .define name isConstant _ _ => around.knowing name isConstant
  | _ => around

/-- The surroundings within a block. -/
def inBlock (around : Surroundings) : Surroundings := { around with atTop := false }

/-- The surroundings within a loop. -/
def looping (around : Surroundings) : Surroundings := { around with inLoop := true }

end Surroundings

/-- The text of what is nested too deeply. -/
def tooDeepText : String := "Expression exceeds maximum complexity"

/-- The surroundings one level further down. -/
def deeper (around : Surroundings) : Reader Surroundings := do
  if around.limit < around.level + 1 then Reader.fail tooDeepText
  else pure { around with level := around.level + 1 }

/-- A script that is nested more deeply than it has tokens. -/
def exhausted {α : Type} : Reader α := Reader.fail "Script is incomplete"

end Workflow.Script

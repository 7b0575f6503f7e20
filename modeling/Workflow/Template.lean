import Workflow.Environment

/-!
# Placeholders in texts

A text may name variables between `$` with an opening brace and a closing brace. The scan depends on
the text alone: it goes from left to right, a placeholder starts at the first opening mark that is
not closed at once and is closed somewhere behind, it ends at the first closing brace, and its name
is the inner text without white space at its ends.

A text that is one placeholder and nothing else stands for the value itself, with its kind; in any
other text the placeholders are replaced by the text forms of their values.

## Main definitions

* `Workflow.Template.scan` — the characters and placeholders of a text.
* `Workflow.Template.render` — the text with its placeholders filled in.
* `Workflow.Template.bind` — an expression with its placeholders replaced by generated names.
* `Workflow.Template.resolve`, `Workflow.Template.resolveDeep` — a value with its texts filled in.
-/

namespace Workflow.Template

/-- A part of a text: a character that stands for itself, or a placeholder with the text between
its marks. -/
inductive Piece where
  | literal (c : Char)
  | hole (inner : List Char)
deriving DecidableEq, Repr

/-- The characters that a part takes up in its text. -/
def Piece.span : Piece → List Char
  | literal c => [c]
  | hole inner => '$' :: '\x7b' :: inner ++ ['\x7d']

/-- The name in a placeholder: the inner text without blank ends, or its last character when all of
it is blank. -/
def holeName (inner : List Char) : String :=
  match Text.trimList inner with
  | [] => String.ofList inner.getLast?.toList
  | cs => String.ofList cs

/-- The character is no closing brace. -/
def isInner (c : Char) : Bool := c != '\x7d'

/-- The parts of a sequence of characters. -/
def scan : List Char → List Piece
  | [] => []
  | '$' :: '\x7b' :: rest =>
    match _h : rest.dropWhile isInner with
    | _ :: behind =>
      if rest.takeWhile isInner = [] then .literal '$' :: scan ('\x7b' :: rest)
      else .hole (rest.takeWhile isInner) :: scan behind
    | [] => .literal '$' :: scan ('\x7b' :: rest)
  | c :: rest => .literal c :: scan rest
termination_by cs => cs.length
decreasing_by
  · simp
  · have h := (List.dropWhile_suffix (l := rest) isInner).length_le
    rw [_h] at h
    simp only [List.length_cons] at h ⊢
    omega
  · simp
  · simp

/-- The parts of a text. -/
def pieces (s : String) : List Piece := scan s.toList

/-- The name in a text that is one placeholder and nothing else. -/
def sole? (s : String) : Option String :=
  match pieces s with
  | [.hole inner] => some (holeName inner)
  | _ => none

/-- The part is a placeholder. -/
def Piece.isHole : Piece → Bool
  | literal _ => false
  | hole _ => true

/-- A text holds a placeholder. -/
def hasHole (s : String) : Bool := (pieces s).any Piece.isHole

/-- The names of the placeholders in order. -/
def names (s : String) : List String :=
  (pieces s).filterMap fun
    | .literal _ => none
    | .hole inner => some (holeName inner)

/-- The text that a part leaves: a placeholder leaves the text form of its value, or nothing when
its name is not bound. -/
def Piece.render (env : Environment) : Piece → String
  | literal c => String.singleton c
  | hole inner => ((env.lookup? (holeName inner)).map Value.toText).getD ""

/-- A text with its placeholders filled in. -/
def render (s : String) (env : Environment) : String :=
  String.join ((pieces s).map (Piece.render env))

/-- The name that is generated for a placeholder of an expression. -/
def generatedName (i : Nat) : String := "__placeholder" ++ Decimal.natText i

/-- The parts of an expression with generated names, counted from `i`, in place of its
placeholders. -/
def renamedFrom : Nat → List Piece → List String
  | _, [] => []
  | i, .literal c :: rest => String.singleton c :: renamedFrom i rest
  | i, .hole _ :: rest => generatedName i :: renamedFrom (i + 1) rest

/-- An expression with a generated name in place of every placeholder, and the value of each name.
Values never enter the text of an expression. -/
def bind (s : String) (env : Environment) : String × Bindings Value :=
  (String.join (renamedFrom 0 (pieces s)),
    (names s).mapIdx fun i name => (generatedName i, (env.lookup? name).getD .null))

/-- What a text stands for: the value of its only placeholder, or the text filled in. -/
def resolveText (s : String) (env : Environment) : Value :=
  match sole? s with
  | some name => (env.lookup? name).getD .null
  | none => .text (render s env)

/-- A value with its text filled in; only a text is looked into. -/
def resolve (v : Value) (env : Environment) : Value :=
  match v with
  | .text s => resolveText s env
  | v => v

mutual

/-- A value with all texts within its lists and records filled in. -/
def resolveDeep (env : Environment) : Value → Value
  | .list items => .list (resolveItems env items)
  | .record fields => .record (resolveFields env fields)
  | v => resolve v env

/-- The items of a list with their texts filled in. -/
def resolveItems (env : Environment) : List Value → List Value
  | [] => []
  | v :: rest => resolveDeep env v :: resolveItems env rest

/-- The fields of a record with their texts filled in; the keys are not looked into. -/
def resolveFields (env : Environment) : List (String × Value) → List (String × Value)
  | [] => []
  | (k, v) :: rest => (k, resolveDeep env v) :: resolveFields env rest

end

end Workflow.Template

import Workflow.Text.Case

/-!
# Searching and splitting texts

Substrings, and the pieces between the occurrences of a separator. An empty separator stands before,
between and behind all characters.

## Main definitions

* `Workflow.Text.contains`, `Workflow.Text.startsWith`, `Workflow.Text.endsWith`.
* `Workflow.Text.pieces` — the texts between the occurrences of a separator.
* `Workflow.Text.substitute` — a text with every occurrence of a pattern replaced.
-/

namespace Workflow.Text

/-- One sequence of characters occurs in another without a gap. -/
def occursIn (pattern : List Char) : List Char → Bool
  | [] => pattern.isEmpty
  | c :: cs => pattern.isPrefixOf (c :: cs) || occursIn pattern cs

/-- A text occurs in another. -/
def contains (s pattern : String) : Bool := occursIn pattern.toList s.toList

/-- A text begins with another. -/
def startsWith (s pattern : String) : Bool := pattern.toList.isPrefixOf s.toList

/-- A text ends with another. -/
def endsWith (s pattern : String) : Bool := pattern.toList.isSuffixOf s.toList

/-- The pieces between the occurrences of a non-empty separator: `skip` characters of an occurrence
are still to be passed, and `piece` holds the open piece in reverse. -/
def piecesFrom (separator : List Char) : Nat → List Char → List Char → List (List Char)
  | _, piece, [] => [piece.reverse]
  | skip + 1, piece, _ :: cs => piecesFrom separator skip piece cs
  | 0, piece, c :: cs =>
    if separator.isPrefixOf (c :: cs) then
      piece.reverse :: piecesFrom separator (separator.length - 1) [] cs
    else piecesFrom separator 0 (c :: piece) cs

/-- The texts between the occurrences of a separator. -/
def pieces (s separator : String) : List String :=
  if separator = "" then "" :: s.toList.map (fun c => String.ofList [c]) ++ [""]
  else (piecesFrom separator.toList 0 [] s.toList).map String.ofList

/-- A text with every occurrence of a pattern replaced. -/
def substitute (s pattern replacement : String) : String :=
  replacement.intercalate (pieces s pattern)

end Workflow.Text

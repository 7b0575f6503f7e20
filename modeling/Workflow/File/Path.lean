import Workflow.Text.Search

/-!
# Paths of files

A path of a file is kept as it is written. It is read as a sequence of parts: empty pieces between
slashes and pieces of a single point stand for nothing, except that a point in front and a slash in
front are parts of their own. Paths are ordered part by part.

## Main definitions

* `Workflow.FilePath`, `Workflow.FilePath.parts` — paths and their parts.
* `Workflow.FilePath.before` — the order of paths.
* `Workflow.FilePath.join` — a name below a path.
* `Workflow.FilePath.extension?` — what follows the last point of the last name.
-/

namespace Workflow

/-- A part of a path of a file. -/
inductive FilePart where
  /-- The top of all files. -/
  | root
  /-- The directory that a path is read in. -/
  | here
  /-- The directory above. -/
  | above
  | name (s : String)
deriving DecidableEq, Repr

namespace FilePart

/-- The number of the kind of a part in the order of parts. -/
def rank : FilePart → Nat
  | root => 0
  | here => 1
  | above => 2
  | name _ => 3

/-- The order of parts: by kind, and names by their characters. -/
def before : FilePart → FilePart → Bool
  | name s, name t => s < t
  | p, q => p.rank < q.rank

/-- The written form of a part. -/
def text : FilePart → String
  | root => ""
  | here => "."
  | above => ".."
  | name s => s

/-- The part that a piece between slashes stands for, if any. -/
def ofPiece? (piece : String) : Option FilePart :=
  if piece = "" ∨ piece = "." then none
  else if piece = ".." then some above
  else some (name piece)

/-- The order of sequences of parts: at the first part in which they differ, a shorter one before
those that continue it. -/
def listBefore : List FilePart → List FilePart → Bool
  | _, [] => false
  | [], _ :: _ => true
  | p :: ps, q :: qs => p.before q || (p = q && listBefore ps qs)

end FilePart

/-- A path of a file. -/
structure FilePath where
  text : String
deriving DecidableEq, Repr, Inhabited

namespace FilePath

/-- The pieces between the slashes. -/
def pieces (p : FilePath) : List String := Text.pieces p.text "/"

/-- The parts. -/
def parts (p : FilePath) : List FilePart :=
  match p.pieces with
  | [] => []
  | first :: rest =>
    let lead :=
      if first = "" then (if rest = [] then [] else [.root])
      else if first = "." then [.here]
      else (FilePart.ofPiece? first).toList
    lead ++ rest.filterMap FilePart.ofPiece?

/-- The order of paths. -/
def before (p q : FilePath) : Bool := FilePart.listBefore p.parts q.parts

/-- The path stands for a directory by its written form: it ends with a slash or with points. -/
def demandsDirectory (p : FilePath) : Bool :=
  match p.pieces.getLast? with
  | some piece => ["", ".", ".."].contains piece
  | none => false

/-- The path of a name below a path. -/
def join (p : FilePath) (name : String) : FilePath :=
  if p.text = "" then ⟨name⟩
  else if Text.endsWith p.text "/" then ⟨p.text ++ name⟩
  else ⟨p.text ++ "/" ++ name⟩

/-- The last part, when it is a name. -/
def name? (p : FilePath) : Option String :=
  match p.parts.getLast? with
  | some (.name s) => some s
  | _ => none

/-- What follows the last point of a name; a point in front of a name marks nothing. -/
def extensionOf? (name : String) : Option String :=
  match (Text.pieces name ".").reverse with
  | last :: rest => if rest = [] ∨ rest = [""] then none else some last
  | [] => none

/-- What follows the last point of the last name. -/
def extension? (p : FilePath) : Option String := p.name?.bind extensionOf?

/-- How a path is written below a directory; a path that does not lie below it, as it stands. -/
def textBelow (p directory : FilePath) : String :=
  if directory.parts.isPrefixOf p.parts then
    "/".intercalate ((p.parts.drop directory.parts.length).map FilePart.text)
  else p.text

end FilePath

end Workflow

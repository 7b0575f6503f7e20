import Workflow.Bindings
import Workflow.File.Path

/-!
# Trees of files

A tree is a file with its text, or a directory with its entries in the order in which they are
enumerated. Paths are read from the directory at the top. What lies outside of it is taken for an
empty directory.

Whoever only reads sees files through a view, which tells what stands at a path.

## Main definitions

* `Workflow.FileError` — why a file cannot be read or written.
* `Workflow.FileTree` — the trees.
* `Workflow.FileTree.lookup` — what stands at a path.
* `Workflow.FileTree.write` — a tree after a file was written, with the directories above it.
* `Workflow.FileView` — what a reader sees.
-/

namespace Workflow

/-- Why a file cannot be read or written. -/
inductive FileError where
  | notFound
  | alreadyExists
  /-- Something that is no directory stands where a directory is needed. -/
  | notDirectory
  /-- A directory stands where a file is needed. -/
  | isDirectory
  /-- The bytes of the file are no text. -/
  | notText
  /-- Any other reason, in the words of the system. -/
  | other (reason : String)
deriving DecidableEq, Repr

/-- The text of why a file cannot be read or written. -/
def FileError.message : FileError → String
  | notFound => "No such file or directory (os error 2)"
  | alreadyExists => "File exists (os error 17)"
  | notDirectory => "Not a directory (os error 20)"
  | isDirectory => "Is a directory (os error 21)"
  | notText => "stream did not contain valid UTF-8"
  | other reason => reason

/-- A file or a directory. -/
inductive FileTree where
  | file (content : String)
  | directory (entries : List (String × FileTree))

/-- Tells what stands at a path. -/
abbrev FileView := FilePath → Except FileError FileTree

/-- The text of the file at a path. -/
def FileView.read (view : FileView) (path : FilePath) : Except FileError String :=
  match view path with
  | .ok (.file content) => .ok content
  | .ok (.directory _) => .error .isDirectory
  | .error e => .error e

/-- Where a path leads in a tree: the names from the top down, or nothing for what lies outside. -/
abbrev FilePlace := Option (List String)

namespace FileTree

instance : Inhabited FileTree := ⟨directory []⟩

/-- A directory without entries. -/
def empty : FileTree := directory []

/-- It is a directory. -/
def isDirectory : FileTree → Bool
  | directory _ => true
  | file _ => false

/-! ### Reading -/

/-- The entry of a directory with a name. -/
def child (t : FileTree) (name : String) : Except FileError FileTree :=
  match t with
  | file _ => .error .notDirectory
  | directory entries =>
    match Bindings.get? entries name with
    | some t => .ok t
    | none => .error .notFound

/-- What names lead to, one below the other. -/
def descend (t : FileTree) : List String → Except FileError FileTree
  | [] => .ok t
  | name :: rest =>
    match t.child name with
    | .ok t => t.descend rest
    | .error e => .error e

/-- What stands at a place. -/
def standing (t : FileTree) : FilePlace → Except FileError FileTree
  | some names => t.descend names
  | none => .ok empty

/-- The place that one more part leads to. -/
def enter (t : FileTree) (place : FilePlace) : FilePart → Except FileError FilePlace
  | .root => .ok none
  | .here => .ok place
  | .above => do
    match ← t.standing place with
    | file _ => .error .notDirectory
    | directory _ =>
      match place with
      | none => .ok none
      | some [] => .ok none
      | some names => .ok (some names.dropLast)
  | .name s => do
    let _ ← (← t.standing place).child s
    .ok (place.map (· ++ [s]))

/-- The place that parts lead to. -/
def walk (t : FileTree) (parts : List FilePart) : Except FileError FilePlace :=
  parts.foldlM t.enter (some [])

/-- What stands at a path. -/
def lookup (t : FileTree) : FileView := fun path =>
  if path.text = "" then .error .notFound
  else do
    let found ← t.standing (← t.walk path.parts)
    if path.demandsDirectory && !found.isDirectory then .error .notDirectory else .ok found

/-! ### Writing -/

/-- The tree with another tree at a place; directories that are missing on the way are made. -/
def put : FileTree → List String → FileTree → FileTree
  | _, [], t => t
  | file content, _ :: _, _ => file content
  | directory entries, name :: rest, t =>
    directory (Bindings.set entries name
      (((Bindings.get? entries name).getD empty).put rest t))

/-- Puts a tree where nothing stands or, if `replacing`, a file stands. -/
def insert (t : FileTree) (above : List FilePart) (name : String) (replacing : Bool)
    (new : FileTree) : Except FileError FileTree := do
  let place ← t.walk above
  match (← t.standing place).child name, place with
  | .ok (file _), some names =>
    if replacing then .ok (t.put (names ++ [name]) new) else .error .alreadyExists
  | .ok _, _ => .error (if replacing then .isDirectory else .alreadyExists)
  | .error .notFound, some names => .ok (t.put (names ++ [name]) new)
  | .error e, _ => .error e

/-- The tree with a new directory. -/
def makeDirectory (t : FileTree) (parts : List FilePart) : Except FileError FileTree :=
  match parts.getLast? with
  | some (.name s) => t.insert parts.dropLast s false empty
  | _ => do
    let _ ← t.walk parts
    .error .alreadyExists

/-- Parts lead to a directory. -/
def hasDirectory (t : FileTree) (parts : List FilePart) : Bool :=
  match t.walk parts >>= t.standing with
  | .ok (directory _) => true
  | _ => false

/-- Makes a directory if it is not there, where all above it is there. -/
def ensureDirectory (t : FileTree) (parts : List FilePart) : Except FileError FileTree :=
  match t.makeDirectory parts with
  | .ok t => .ok t
  | .error e => if t.hasDirectory parts then .ok t else .error e

/-- The tree in which the directory of parts, which are given the last one first, and all above it
were made as far as possible, and whether the directory is there. -/
def ensureDirectories (t : FileTree) : List FilePart → FileTree × Except FileError Unit
  | [] => (t, .ok ())
  | part :: rest =>
    let parts := (part :: rest).reverse
    match t.ensureDirectory parts with
    | .ok t => (t, .ok ())
    | .error .notFound =>
      match t.ensureDirectories rest with
      | (t, .ok ()) =>
        match t.ensureDirectory parts with
        | .ok t => (t, .ok ())
        | .error e => (t, .error e)
      | (t, .error e) => (t, .error e)
    | .error e => (t, .error e)

/-- The tree with a file written where all directories above it are there. -/
def writeFile (t : FileTree) (path : FilePath) (content : String) : Except FileError FileTree :=
  match path.parts.getLast? with
  | none => .error .notFound
  | some last =>
    match last, path.pieces.getLast? with
    | .name _, some "" => do
      let _ ← t.walk path.parts.dropLast
      .error .isDirectory
    | .name s, piece =>
      if piece = some s then t.insert path.parts.dropLast s true (file content)
      else do
        let found ← t.standing (← t.walk path.parts)
        .error (if found.isDirectory then .isDirectory else .notDirectory)
    | _, _ => do
      let _ ← t.walk path.parts
      .error .isDirectory

/-- The tree after a file was written with the directories above it, and whether it was written. -/
def write (t : FileTree) (path : FilePath) (content : String) : FileTree × Except FileError Unit :=
  let above := if path.parts = [.root] then [] else path.parts.dropLast
  match t.ensureDirectories above.reverse with
  | (t, .ok ()) =>
    match t.writeFile path content with
    | .ok t => (t, .ok ())
    | .error e => (t, .error e)
  | (t, .error e) => (t, .error e)

/-- The tree of files that are given by their paths. -/
def ofFiles (files : List (FilePath × String)) : FileTree :=
  files.foldl (fun t f => (t.write f.1 f.2).1) empty

end FileTree

end Workflow

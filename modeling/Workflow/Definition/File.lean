import Workflow.Definition.Document
import Workflow.File.Tree

/-!
# Files of definitions

The extension of a file tells the format of the definition in it. A file with any other extension is
read and written as the wider of the two formats, in which every document of the other one can be
read as well. The files below a directory that can be read as definitions are listed in the order of
their paths; the others are passed over.

## Main definitions

* `Workflow.Definition.load`, `Workflow.Definition.save` — the definition in a file.
* `Workflow.Definition.discover` — the definitions in the files below a directory.
-/

namespace Workflow

/-- The format that the extension of a path tells. -/
def DocumentFormat.ofPath? (p : FilePath) : Option DocumentFormat :=
  match p.extension? with
  | some "json" => some .json
  | some "yaml" => some .yaml
  | some "yml" => some .yaml
  | _ => none

/-- The format of the file with a path. -/
def DocumentFormat.ofPath (p : FilePath) : DocumentFormat := (ofPath? p).getD .yaml

namespace Definition

/-- The definition in a file with a path and a text. -/
def ofFile (path : FilePath) (content : String) : Except DefinitionError Definition :=
  ofText (.ofPath path) content

/-- The definition in the file at a path. -/
def load (view : FileView) (path : FilePath) : Except DefinitionError Definition :=
  match view.read path with
  | .ok content => ofFile path content
  | .error e => .error (.file e)

/-- Writes a definition into the file at a path. -/
def save (t : FileTree) (path : FilePath) (d : Definition) :
    FileTree × Except DefinitionError Unit :=
  match t.write path (d.text (.ofPath path)) with
  | (t, .ok ()) => (t, .ok ())
  | (t, .error e) => (t, .error (.file e))

/-! ### Discovery -/

/-- A definition with the path of its file. -/
structure Found where
  path : FilePath
  definition : Definition

/-- The definition in a file, if its extension tells a format and it can be read. -/
def foundAt? (path : FilePath) (content : String) : Option Found :=
  if (DocumentFormat.ofPath? path).isSome then
    match ofFile path content with
    | .ok d => some ⟨path, d⟩
    | .error _ => none
  else none

mutual

/-- The definitions at and below a path, as the tree enumerates them. -/
def foundBelow (path : FilePath) : FileTree → List Found
  | .file content => (foundAt? path content).toList
  | .directory entries => foundAmong path entries

/-- The definitions at and below the entries of a directory. -/
def foundAmong (directory : FilePath) : List (String × FileTree) → List Found
  | [] => []
  | (name, t) :: rest => foundBelow (directory.join name) t ++ foundAmong directory rest

end

/-- The definitions in the files below a directory in the order of their paths; none when nothing
stands at the path. -/
def discover (view : FileView) (base : FilePath) : Except DefinitionError (List Found) :=
  match view base with
  | .ok (.directory entries) =>
    .ok ((foundAmong base entries).mergeSort fun x y => !y.path.before x.path)
  | .ok (.file _) => .error (.file .notDirectory)
  | .error _ => .ok []

end Definition

end Workflow

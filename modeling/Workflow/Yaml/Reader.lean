import Workflow.Yaml.Node
import Workflow.Yaml.Scalar

/-!
# Reading YAML

A text becomes a document tree. The keys of a mapping are scalars, whose texts are taken as they are
written; a key that is repeated keeps the last value at the place of the first. A reference stands
for the last node of its name that came before it. Nodes nest at most 128 deep, and at most a
hundred references are followed for each part of a document.

## Main definitions

* `Workflow.Yaml.parse?` — the tree of a text.
-/

namespace Workflow.Yaml

/-- A node that an anchor names. -/
structure Named where
  name : String
  /-- The tree of the node, once it is complete. -/
  tree : Option Json
  /-- The characters of the node, if it is a scalar. -/
  characters : Option String
  /-- How deep the node nests. -/
  depth : Nat
  /-- The references that have been followed for the node. -/
  references : Nat

/-- The state of reading trees: the named nodes, the last one first, and the references that have
been followed. -/
structure Naming where
  named : List Named
  references : Nat

/-- Steps of reading trees. -/
abbrev TreeReader := StateT Naming Option

/-- How deep nodes nest at most. -/
def deepest : Nat := 128

/-- Names a node that is not complete, and tells the number of named nodes before it. -/
def announce (p : Properties) : TreeReader Nat := do
  let s ← get
  match p.anchor with
  | some name => set { s with named := ⟨name, none, none, 0, 0⟩ :: s.named }
  | none => pure ()
  pure s.named.length

/-- Completes the node that was announced behind a number of named nodes. -/
def complete (p : Properties) (before : Nat) (tree : Option Json) (characters : Option String)
    (depth references : Nat) : TreeReader Unit := do
  match p.anchor with
  | some name => modify fun s =>
      { s with named := s.named.modify (s.named.length - 1 - before) fun _ =>
          ⟨name, tree, characters, depth, references⟩ }
  | none => pure ()

/-- The last node of a name, which is followed once more. -/
def follow (name : String) : TreeReader Named := do
  let s ← get
  match s.named.find? (·.name == name) with
  | some n =>
    set { s with references := s.references + 1 + n.references }
    pure n
  | none => failure

/-- The text of a key. -/
def keyText : Node → TreeReader String
  | .alias name => do
    let n ← follow name
    match n.characters with
    | some s => pure s
    | none => failure
  | .scalar p isPlain s => do
    let before ← announce p
    complete p before (scalar? p.tag isPlain s) (some s) 0 0
    pure s
  | _ => failure

mutual

/-- The tree of a node and how deep the node nests, with some levels left. -/
def treeOf (levels : Nat) : Node → TreeReader (Json × Nat)
  | .alias name => do
    let n ← follow name
    match n.tree with
    | some tree => if n.depth ≤ levels then pure (tree, n.depth) else failure
    | none => failure
  | .scalar p isPlain s => do
    let before ← announce p
    match scalar? p.tag isPlain s with
    | some tree => do
      complete p before (some tree) (some s) 0 0
      pure (tree, 0)
    | none => failure
  | .sequence p items => do
    if isOwnTag p.tag || levels = 0 then failure
    else
      let before ← announce p
      let followed := (← get).references
      let (trees, depth) ← treesOf (levels - 1) items
      complete p before (some (.array trees)) none (depth + 1) ((← get).references - followed)
      pure (.array trees, depth + 1)
  | .mapping p fields => do
    if isOwnTag p.tag || levels = 0 then failure
    else
      let before ← announce p
      let followed := (← get).references
      let (trees, depth) ← fieldsOf (levels - 1) [] fields
      complete p before (some (.object trees)) none (depth + 1) ((← get).references - followed)
      pure (.object trees, depth + 1)

/-- The trees of nodes, and how deep the deepest one nests. -/
def treesOf (levels : Nat) : List Node → TreeReader (List Json × Nat)
  | [] => pure ([], 0)
  | n :: rest => do
    let (tree, depth) ← treeOf levels n
    let (trees, deep) ← treesOf levels rest
    pure (tree :: trees, max depth deep)

/-- The fields of a mapping added to fields, and how deep the deepest one nests. -/
def fieldsOf (levels : Nat) (known : List (String × Json)) :
    List (Node × Node) → TreeReader (List (String × Json) × Nat)
  | [] => pure (known, 0)
  | (k, n) :: rest => do
    let key ← keyText k
    let (tree, depth) ← treeOf levels n
    let (trees, deep) ← fieldsOf levels (Bindings.set known key tree) rest
    pure (trees, max depth deep)

end

/-- The tree of a text. -/
def parse? (source : String) : Option Json := do
  let ts ← tokens? source
  let n ← Node.ofTokens? ts
  let ((tree, _), s) ← (treeOf deepest n).run ⟨[], 0⟩
  if s.references ≤ 100 * n.parts then some tree else none

end Workflow.Yaml

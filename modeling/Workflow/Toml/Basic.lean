import Workflow.Json.Basic

/-!
# Tables of TOML

A document is a table. Its tables are opened by headers and by the dots of keys, and what one of
them has opened the other may not open again. A table opened by a header for the sake of a table
within it may still get a header of its own.

## Main definitions

* `Workflow.Toml.Item`, `Workflow.Toml.Table` — what a key is bound to.
* `Workflow.Toml.Table.openTable?`, `Workflow.Toml.Table.openElement?` — what headers do.
* `Workflow.Toml.Table.bind?` — binds a key.
-/

namespace Workflow.Toml

/-- How a table has come to be. -/
inductive Origin where
  /-- For the sake of a table within it. -/
  | implied
  /-- By its own header. -/
  | header
  /-- By the dots of a key. -/
  | dotted
deriving DecidableEq, Repr

/-- What a key is bound to. -/
inductive Item where
  | value (tree : Json)
  | table (origin : Origin) (fields : List (String × Item))
  /-- Tables under headers of one name, the last one first. -/
  | elements (tables : List (List (String × Item)))

instance : Inhabited Item := ⟨.value .null⟩

/-- A table. -/
abbrev Table := List (String × Item)

namespace Table

/-- Changes the item of a key, or adds one. -/
def update? (key : String) (f : Option Item → Option Item) : Table → Option Table
  | [] => (f none).map fun i => [(key, i)]
  | (k, i) :: rest =>
    if k = key then (f (some i)).map fun i => (k, i) :: rest
    else (update? key f rest).map ((k, i) :: ·)

/-- Changes the table at the end of a path of keys, opening those that are missing on the way. -/
def within? (origin : Origin) (f : Table → Option Table) : List String → Table → Option Table
  | [], t => f t
  | key :: path, t =>
    t.update? key fun i => match i with
      | none => (within? origin f path []).map (.table origin ·)
      | some (.table o fields) =>
        if origin = .dotted ∧ o = .header then none
        else (within? origin f path fields).map (.table o ·)
      | some (.elements (last :: others)) =>
        (within? origin f path last).map fun last => .elements (last :: others)
      | some (.elements []) => none
      | some (.value _) => none

/-- Opens the table of a header. -/
def openTable? (path : List String) (t : Table) : Option Table :=
  match path.getLast? with
  | none => none
  | some key =>
    within? .implied (fun t => t.update? key fun i => match i with
      | none => some (.table .header [])
      | some (.table .implied fields) => some (.table .header fields)
      | some _ => none) path.dropLast t

/-- Adds a table under a header for several. -/
def openElement? (path : List String) (t : Table) : Option Table :=
  match path.getLast? with
  | none => none
  | some key =>
    within? .implied (fun t => t.update? key fun i => match i with
      | none => some (.elements [[]])
      | some (.elements ts) => some (.elements ([] :: ts))
      | some _ => none) path.dropLast t

/-- Binds a key that is not bound yet. -/
def bindNew? (key : String) (tree : Json) (t : Table) : Option Table :=
  t.update? key fun i => match i with
    | none => some (.value tree)
    | some _ => none

/-- Binds a key with dots behind the tables that the dots open; tables that headers have opened stay
closed to them. -/
def bindDotted? (key : String) (tree : Json) : List String → Table → Option Table
  | [], t => t.bindNew? key tree
  | k :: path, t =>
    t.update? k fun i => match i with
      | none => (bindDotted? key tree path []).map (.table .dotted ·)
      | some (.table o fields) =>
        match o, path with
        | .dotted, _ => (bindDotted? key tree path fields).map (.table o ·)
        | .implied, _ :: _ => (bindDotted? key tree path fields).map (.table o ·)
        | _, _ => none
      | some (.elements (last :: others)) =>
        match path with
        | [] => none
        | path => (bindDotted? key tree path last).map fun last => .elements (last :: others)
      | some _ => none

/-- Binds a key with dots in the table that the last header has opened. -/
def bind? (header key : List String) (tree : Json) (t : Table) : Option Table :=
  match key.getLast? with
  | none => none
  | some last => within? .implied (bindDotted? last tree key.dropLast) header t

mutual

/-- The tree of an item. -/
def itemTree : Item → Json
  | .value j => j
  | .table _ fields => .object (fieldTrees fields)
  | .elements ts => .array (elementTrees ts).reverse

/-- The trees of fields. -/
def fieldTrees : List (String × Item) → List (String × Json)
  | [] => []
  | (k, i) :: rest => (k, itemTree i) :: fieldTrees rest

/-- The trees of tables. -/
def elementTrees : List (List (String × Item)) → List Json
  | [] => []
  | t :: rest => .object (fieldTrees t) :: elementTrees rest

end

end Table

end Workflow.Toml

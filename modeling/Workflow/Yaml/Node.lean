import Workflow.Yaml.Token

/-!
# Nodes of YAML

The tokens of a document make a node: a scalar, a sequence, a mapping, or a reference to a node that
an anchor has named before. A text holds one document.

## Main definitions

* `Workflow.Yaml.Node` — the nodes.
* `Workflow.Yaml.Node.ofTokens?` — the node of a document.
-/

namespace Workflow.Yaml

/-- What stands before a node: a name, and a tag. -/
structure Properties where
  anchor : Option String
  tag : Option String

/-- A node. -/
inductive Node where
  | alias (name : String)
  | scalar (properties : Properties) (isPlain : Bool) (text : String)
  | sequence (properties : Properties) (items : List Node)
  | mapping (properties : Properties) (fields : List (Node × Node))

instance : Inhabited Node := ⟨.alias ""⟩

/-- Nothing, where a node could stand. -/
def Node.nothing : Node := .scalar ⟨none, none⟩ true ""

mutual

/-- The parts that a node is written in: its scalars and references, and the beginnings and ends of
its collections. -/
def Node.parts : Node → Nat
  | .alias _ => 1
  | .scalar _ _ _ => 1
  | .sequence _ items => 2 + itemParts items
  | .mapping _ fields => 2 + fieldParts fields

/-- The parts of some nodes. -/
def itemParts : List Node → Nat
  | [] => 0
  | n :: rest => n.parts + itemParts rest

/-- The parts of the keys and values of some fields. -/
def fieldParts : List (Node × Node) → Nat
  | [] => 0
  | (k, n) :: rest => k.parts + n.parts + fieldParts rest

end

/-- What the handles of tags stand for. -/
abbrev Handles := List (String × String)

/-- The handles that need no directive. -/
def standardHandles : Handles := [("!", "!"), ("!!", "tag:yaml.org,2002:")]

/-- A reader on the tokens that are left. -/
abbrev NodeReader := StateT (List Token) Option

namespace NodeReader

/-- The next token. -/
def peek? : NodeReader (Option Token) := do
  pure (← get).head?

/-- Passes over a token. -/
def skip : NodeReader Unit := modify List.tail

/-- Passes over a token if it comes next, and tells whether it does. -/
def take (t : Token) : NodeReader Bool := do
  if (← get).head? = some t then
    skip
    pure true
  else pure false

/-- Passes over a token that must come next. -/
def expect (t : Token) : NodeReader Unit := do
  if ← take t then pure () else failure

/-- One of some tokens, or nothing, comes next. -/
def at_ (ts : List Token) : NodeReader Bool := do
  match (← get).head? with
  | some t => pure (ts.contains t)
  | none => pure true

/-- The name that an anchor gives, if one comes next. -/
def anchor? : NodeReader (Option String) := do
  match ← peek? with
  | some (.anchor name) =>
    skip
    pure (some name)
  | _ => pure none

/-- The tag, if one comes next. -/
def tag? (handles : Handles) : NodeReader (Option String) := do
  match ← peek? with
  | some (.tag handle suffix) =>
    skip
    if handle = "" then pure (some suffix)
    else
      match handles.lookup handle with
      | some lead => pure (some (lead ++ suffix))
      | none => failure
  | _ => pure none

/-- The name and the tag before a node, in either order. -/
def properties (handles : Handles) : NodeReader Properties := do
  let a ← anchor?
  let t ← tag? handles
  match a with
  | some a => pure ⟨some a, t⟩
  | none =>
    let a ← anchor?
    pure ⟨a, t⟩

end NodeReader

open NodeReader

mutual

/-- A node. Block collections stand only where they are allowed, and so does a block sequence that
is not indented further than its key. -/
def node (fuel : Nat) (handles : Handles) (inBlock unindented : Bool) : NodeReader Node :=
  match fuel with
  | 0 => failure
  | fuel + 1 => do
    match ← peek? with
    | some (.alias name) =>
      skip
      pure (.alias name)
    | _ =>
      let p ← properties handles
      match ← peek? with
      | some (.scalar isPlain s) =>
        skip
        pure (.scalar p isPlain s)
      | some .flowSequenceStart =>
        skip
        Node.sequence p <$> flowItems fuel handles true
      | some .flowMappingStart =>
        skip
        Node.mapping p <$> flowFields fuel handles true
      | some .entry =>
        if unindented then Node.sequence p <$> unindentedItems fuel handles
        else if p.anchor.isSome || p.tag.isSome then pure (.scalar p true "")
        else failure
      | some .sequenceStart =>
        if inBlock then
          skip
          Node.sequence p <$> blockItems fuel handles
        else if p.anchor.isSome || p.tag.isSome then pure (.scalar p true "")
        else failure
      | some .mappingStart =>
        if inBlock then
          skip
          Node.mapping p <$> blockFields fuel handles
        else if p.anchor.isSome || p.tag.isSome then pure (.scalar p true "")
        else failure
      | _ => if p.anchor.isSome || p.tag.isSome then pure (.scalar p true "") else failure

/-- The entries of a block sequence up to its end. -/
def blockItems (fuel : Nat) (handles : Handles) : NodeReader (List Node) :=
  match fuel with
  | 0 => failure
  | fuel + 1 => do
    if ← take .blockEnd then pure []
    else
      expect .entry
      let item ← if ← at_ [.entry, .blockEnd] then pure Node.nothing
        else node fuel handles true false
      let rest ← blockItems fuel handles
      pure (item :: rest)

/-- The entries of a block sequence that is not indented, as long as there are any. -/
def unindentedItems (fuel : Nat) (handles : Handles) : NodeReader (List Node) :=
  match fuel with
  | 0 => failure
  | fuel + 1 => do
    if ← take .entry then
      let item ← if ← at_ [.entry, .key, .value, .blockEnd] then pure Node.nothing
        else node fuel handles true false
      let rest ← unindentedItems fuel handles
      pure (item :: rest)
    else pure []

/-- The fields of a block mapping up to its end. -/
def blockFields (fuel : Nat) (handles : Handles) : NodeReader (List (Node × Node)) :=
  match fuel with
  | 0 => failure
  | fuel + 1 => do
    if ← take .blockEnd then pure []
    else
      expect .key
      let ends : List Token := [.key, .value, .blockEnd]
      let key ← if ← at_ ends then pure Node.nothing else node fuel handles true true
      let value ← if ← take .value then
          if ← at_ ends then pure Node.nothing else node fuel handles true true
        else pure Node.nothing
      let rest ← blockFields fuel handles
      pure ((key, value) :: rest)

/-- The items of a sequence in brackets. -/
def flowItems (fuel : Nat) (handles : Handles) (isFirst : Bool) : NodeReader (List Node) :=
  match fuel with
  | 0 => failure
  | fuel + 1 => do
    if ← take .flowSequenceEnd then pure []
    else
      if !isFirst then expect .flowEntry
      if ← take .flowSequenceEnd then pure []
      else
        let item ← if ← take .key then
            let key ← if ← at_ [.value, .flowEntry, .flowSequenceEnd] then pure Node.nothing
              else node fuel handles false false
            let value ← if ← take .value then
                if ← at_ [.flowEntry, .flowSequenceEnd] then pure Node.nothing
                else node fuel handles false false
              else pure Node.nothing
            pure (Node.mapping ⟨none, none⟩ [(key, value)])
          else node fuel handles false false
        let rest ← flowItems fuel handles false
        pure (item :: rest)

/-- The fields of a mapping in braces. -/
def flowFields (fuel : Nat) (handles : Handles) (isFirst : Bool) :
    NodeReader (List (Node × Node)) :=
  match fuel with
  | 0 => failure
  | fuel + 1 => do
    if ← take .flowMappingEnd then pure []
    else
      if !isFirst then expect .flowEntry
      if ← take .flowMappingEnd then pure []
      else
        let field ← if ← take .key then
            let key ← if ← at_ [.value, .flowEntry, .flowMappingEnd] then pure Node.nothing
              else node fuel handles false false
            let value ← if ← take .value then
                if ← at_ [.flowEntry, .flowMappingEnd] then pure Node.nothing
                else node fuel handles false false
              else pure Node.nothing
            pure (key, value)
          else do
            let key ← node fuel handles false false
            pure (key, Node.nothing)
        let rest ← flowFields fuel handles false
        pure (field :: rest)

end

/-- The handles that the directives before a document give, and whether there are directives. -/
def directives : (fuel : Nat) → (hasVersion : Bool) → Handles → NodeReader (Bool × Handles)
  | 0, _, _ => failure
  | fuel + 1, hasVersion, handles => do
    match ← peek? with
    | some (.versionDirective major minor) =>
      skip
      if hasVersion || major ≠ 1 || (minor ≠ 1 && minor ≠ 2) then failure
      else directives fuel true handles
    | some (.tagDirective handle lead) =>
      skip
      if (handles.lookup handle).isSome then failure
      else
        let (_, handles) ← directives fuel hasVersion ((handle, lead) :: handles)
        pure (true, handles)
    | _ => pure (hasVersion, handles)

/-- The document, and nothing behind it. -/
def document (fuel : Nat) : NodeReader Node := do
  let (given, handles) ← directives fuel false []
  let handles := handles ++ standardHandles
  let isExplicit ← take .documentStart
  if given && !isExplicit then failure
  let ends ← match ← peek? with
    | none => if isExplicit then pure true else failure
    | some .documentEnd => if isExplicit then pure true else failure
    | some .documentStart => failure
    | some _ => pure false
  let n ← if ends then pure Node.nothing else node fuel handles true false
  modify fun ts => ts.dropWhile (· = .documentEnd)
  if (← get) = [] then pure n else failure

/-- The node of a document. -/
def Node.ofTokens? (ts : List Token) : Option Node :=
  ((document (4 * ts.length + 4)).run ts).map (·.1)

end Workflow.Yaml

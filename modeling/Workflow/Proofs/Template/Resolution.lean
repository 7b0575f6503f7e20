import Workflow.Proofs.Template.Reading

/-!
# Values of an environment within a value

Filling in a value puts values of the environment at its placeholders and nowhere else. What is left
of a value once its texts have been read is an outline, which is made from the value alone; to fill
it in is to look up names and to insert what they are bound to. What was inserted is not looked
into, so a value of the environment that is written like a placeholder stays as it is, also where it
completes marks of the text around it.

## Main definitions

* `Workflow.Value.below?` — the value at a place within a value.
* `Workflow.Template.namesIn` — the names of the placeholders in the texts of a value.
* `Workflow.Template.Outline`, `Workflow.Template.outline` — a value once its texts have been read.
* `Workflow.Template.InsertsOnly` — values are inserted at the placeholders of a value only.

## Main results

* `Workflow.Template.insertsOnly` — values are inserted at the placeholders of every value only.
-/

namespace Workflow

/-! ### Places within values -/

namespace Value

/-- The values right below a value: the items of a list, or those of the fields of a record. -/
def children : Value → List Value
  | list items => items
  | record fields => fields.map Prod.snd
  | _ => []

/-- The value at a place within a value, given by positions from the outside to the inside. -/
def below? : Value → List Nat → Option Value
  | v, [] => some v
  | v, i :: path => v.children[i]?.bind fun w => below? w path

end Value

namespace Template

/-! ### Names and outlines -/

mutual

/-- The names of the placeholders in the texts of a value; the keys of records are no texts of it.
-/
def namesIn : Value → List String
  | .text s => names s
  | .list items => namesInItems items
  | .record fields => namesInFields fields
  | _ => []

/-- The names of the placeholders in the items of a list. -/
def namesInItems : List Value → List String
  | [] => []
  | v :: rest => namesIn v ++ namesInItems rest

/-- The names of the placeholders in the fields of a record. -/
def namesInFields : List (String × Value) → List String
  | [] => []
  | (_, v) :: rest => namesIn v ++ namesInFields rest

end

/-- A value once its texts have been read: the places at which values are to be inserted. -/
inductive Outline where
  /-- A leaf that is no text. -/
  | leaf (v : Value)
  /-- The value of a name takes the place. -/
  | value (name : String)
  /-- The text of a value takes the place of every placeholder. -/
  | text (parts : List Piece)
  | list (items : List Outline)
  | record (fields : List (String × Outline))

mutual

/-- The outline of a value. -/
def outline : Value → Outline
  | .text s =>
    match sole? s with
    | some name => .value name
    | none => .text (pieces s)
  | .list items => .list (outlineItems items)
  | .record fields => .record (outlineFields fields)
  | v => .leaf v

/-- The outlines of the items of a list. -/
def outlineItems : List Value → List Outline
  | [] => []
  | v :: rest => outline v :: outlineItems rest

/-- The outlines of the fields of a record, under their keys. -/
def outlineFields : List (String × Value) → List (String × Outline)
  | [] => []
  | (k, v) :: rest => (k, outline v) :: outlineFields rest

end

mutual

/-- An outline with the values inserted that its names have; nothing is read again. -/
def Outline.fill (lookup : String → Option Value) : Outline → Value
  | .leaf v => v
  | .value name => (lookup name).getD .null
  | .text parts => .text (String.join (parts.map (Piece.filled lookup)))
  | .list items => .list (Outline.fillItems lookup items)
  | .record fields => .record (Outline.fillFields lookup fields)

/-- The items of a list with the values inserted. -/
def Outline.fillItems (lookup : String → Option Value) : List Outline → List Value
  | [] => []
  | o :: rest => o.fill lookup :: Outline.fillItems lookup rest

/-- The fields of a record with the values inserted. -/
def Outline.fillFields (lookup : String → Option Value) :
    List (String × Outline) → List (String × Value)
  | [] => []
  | (k, o) :: rest => (k, o.fill lookup) :: Outline.fillFields lookup rest

end

variable {env env₁ env₂ : Environment} {s : String}

/-! ### Filling in an outline -/

theorem resolveText_eq_fill (s : String) (env : Environment) :
    resolveText s env = (outline (.text s)).fill env.lookup? := by
  rw [resolveText, outline]
  cases sole? s with
  | some name => rfl
  | none => exact congrArg Value.text (render_eq_join s env)

mutual

/-- To fill in a value is to read its texts and then to insert values. -/
theorem resolveDeep_eq_fill (env : Environment) :
    (v : Value) → resolveDeep env v = (outline v).fill env.lookup?
  | .text s => resolveText_eq_fill s env
  | .list items => congrArg Value.list (resolveItems_eq_fill env items)
  | .record fields => congrArg Value.record (resolveFields_eq_fill env fields)
  | .null => rfl
  | .bool _ => rfl
  | .int _ => rfl
  | .float _ => rfl
  | .handle _ => rfl

private theorem resolveItems_eq_fill (env : Environment) :
    (items : List Value) →
      resolveItems env items = Outline.fillItems env.lookup? (outlineItems items)
  | [] => rfl
  | v :: rest => congrArg₂ List.cons (resolveDeep_eq_fill env v) (resolveItems_eq_fill env rest)

private theorem resolveFields_eq_fill (env : Environment) :
    (fields : List (String × Value)) →
      resolveFields env fields = Outline.fillFields env.lookup? (outlineFields fields)
  | [] => rfl
  | (k, v) :: rest =>
    congrArg₂ List.cons (congrArg (Prod.mk k) (resolveDeep_eq_fill env v))
      (resolveFields_eq_fill env rest)

end

/-! ### Environments with the same values -/

/-- The environments bind the names to the same values. -/
def AgreeOn (env₁ env₂ : Environment) (names : List String) : Prop :=
  ∀ name ∈ names, env₁.lookup? name = env₂.lookup? name

theorem AgreeOn.left {l l' : List String} (h : AgreeOn env₁ env₂ (l ++ l')) : AgreeOn env₁ env₂ l :=
  fun name hname => h name (List.mem_append_left l' hname)

theorem AgreeOn.right {l l' : List String} (h : AgreeOn env₁ env₂ (l ++ l')) :
    AgreeOn env₁ env₂ l' :=
  fun name hname => h name (List.mem_append_right l hname)

theorem holeName_mem_names {inner : List Char} (h : .hole inner ∈ pieces s) :
    holeName inner ∈ names s := List.mem_filterMap.mpr ⟨_, h, rfl⟩

theorem resolveText_congr (h : AgreeOn env₁ env₂ (names s)) :
    resolveText s env₁ = resolveText s env₂ := by
  unfold resolveText
  split
  · rename_i name hsole
    obtain ⟨inner, hpieces, rfl⟩ := sole?_eq_some_iff.mp hsole
    rw [h _ (holeName_mem_names (hpieces ▸ List.mem_singleton_self _))]
  · refine congrArg (Value.text ∘ String.join) (List.map_congr_left fun p hp => ?_)
    cases p with
    | literal c => rfl
    | hole inner => rw [Piece.render, Piece.render, h _ (holeName_mem_names hp)]

mutual

/-- Only the values of the names in a value matter. -/
theorem resolveDeep_congr :
    (v : Value) → AgreeOn env₁ env₂ (namesIn v) → resolveDeep env₁ v = resolveDeep env₂ v
  | .text _, h => resolveText_congr h
  | .list items, h => congrArg Value.list (resolveItems_congr items h)
  | .record fields, h => congrArg Value.record (resolveFields_congr fields h)
  | .null, _ => rfl
  | .bool _, _ => rfl
  | .int _, _ => rfl
  | .float _, _ => rfl
  | .handle _, _ => rfl

private theorem resolveItems_congr :
    (items : List Value) → AgreeOn env₁ env₂ (namesInItems items) →
      resolveItems env₁ items = resolveItems env₂ items
  | [], _ => rfl
  | v :: rest, h =>
    congrArg₂ List.cons (resolveDeep_congr v h.left) (resolveItems_congr rest h.right)

private theorem resolveFields_congr :
    (fields : List (String × Value)) → AgreeOn env₁ env₂ (namesInFields fields) →
      resolveFields env₁ fields = resolveFields env₂ fields
  | [], _ => rfl
  | (k, v) :: rest, h =>
    congrArg₂ List.cons (congrArg (Prod.mk k) (resolveDeep_congr v h.left))
      (resolveFields_congr rest h.right)

end

/-! ### Values without placeholders -/

theorem hasHole_of_names_eq_nil (h : names s = []) : hasHole s = false := by
  rw [← Bool.not_eq_true, hasHole_iff]
  rintro ⟨inner, hmem⟩
  have hname := holeName_mem_names hmem
  rw [h] at hname
  exact nomatch hname

mutual

/-- A value without placeholders is filled in to itself. -/
theorem resolveDeep_eq_self (env : Environment) :
    (v : Value) → namesIn v = [] → resolveDeep env v = v
  | .text _, h => resolveText_of_not_hasHole (hasHole_of_names_eq_nil h) env
  | .list items, h => congrArg Value.list (resolveItems_eq_self env items h)
  | .record fields, h => congrArg Value.record (resolveFields_eq_self env fields h)
  | .null, _ => rfl
  | .bool _, _ => rfl
  | .int _, _ => rfl
  | .float _, _ => rfl
  | .handle _, _ => rfl

private theorem resolveItems_eq_self (env : Environment) :
    (items : List Value) → namesInItems items = [] → resolveItems env items = items
  | [], _ => rfl
  | v :: rest, h =>
    have hnil := List.append_eq_nil_iff.mp h
    congrArg₂ List.cons (resolveDeep_eq_self env v hnil.1) (resolveItems_eq_self env rest hnil.2)

private theorem resolveFields_eq_self (env : Environment) :
    (fields : List (String × Value)) → namesInFields fields = [] →
      resolveFields env fields = fields
  | [], _ => rfl
  | (k, v) :: rest, h =>
    have hnil := List.append_eq_nil_iff.mp h
    congrArg₂ List.cons (congrArg (Prod.mk k) (resolveDeep_eq_self env v hnil.1))
      (resolveFields_eq_self env rest hnil.2)

end

/-! ### Places -/

theorem resolveItems_eq_map (env : Environment) (items : List Value) :
    resolveItems env items = items.map (resolveDeep env) := by
  induction items with
  | nil => rfl
  | cons v rest ih => exact congrArg (resolveDeep env v :: ·) ih

theorem resolveFields_eq_map (env : Environment) (fields : List (String × Value)) :
    resolveFields env fields = fields.map fun (k, v) => (k, resolveDeep env v) := by
  induction fields with
  | nil => rfl
  | cons field rest ih => exact congrArg ((field.1, resolveDeep env field.2) :: ·) ih

/-- A list keeps its length. -/
theorem length_resolveItems (env : Environment) (items : List Value) :
    (resolveItems env items).length = items.length := by
  rw [resolveItems_eq_map, List.length_map]

/-- A record keeps its keys in their order. -/
theorem keys_resolveFields (env : Environment) (fields : List (String × Value)) :
    Bindings.keys (resolveFields env fields) = Bindings.keys fields := by
  rw [resolveFields_eq_map, Bindings.keys, Bindings.keys, List.map_map]
  rfl

theorem getElem?_children_resolveDeep {v w : Value} {i : Nat} (env : Environment)
    (h : v.children[i]? = some w) :
    (resolveDeep env v).children[i]? = some (resolveDeep env w) := by
  cases v with
  | list items =>
    change (resolveItems env items)[i]? = _
    rw [resolveItems_eq_map, List.getElem?_map]
    exact congrArg (Option.map (resolveDeep env)) h
  | record fields =>
    change ((resolveFields env fields).map Prod.snd)[i]? = _
    have h' : (fields.map Prod.snd)[i]? = some w := h
    rw [List.getElem?_map, Option.map_eq_some_iff] at h'
    obtain ⟨⟨k, v⟩, hfield, rfl⟩ := h'
    rw [resolveFields_eq_map, List.map_map, List.getElem?_map, hfield]
    rfl
  | _ => exact nomatch h

/-- What is filled in stands at the place at which it stood. -/
theorem below?_resolveDeep {v w : Value} {path : List Nat} (env : Environment)
    (h : v.below? path = some w) : (resolveDeep env v).below? path = some (resolveDeep env w) := by
  induction path generalizing v with
  | nil => rw [Option.some.inj h, Value.below?]
  | cons i path ih =>
    obtain ⟨u, hu, hpath⟩ := Option.bind_eq_some_iff.mp h
    exact Option.bind_eq_some_iff.mpr ⟨_, getElem?_children_resolveDeep env hu, ih hpath⟩

/-! ### Insertion -/

/-- Values of an environment are inserted into a value at its placeholders only. -/
structure InsertsOnly (v : Value) : Prop where
  /-- The outline of the value, in which no environment has a part, is filled in; what is inserted
  is not looked into. -/
  filled : ∀ env : Environment, resolveDeep env v = (outline v).fill env.lookup?
  /-- Environments that bind the names in the value alike fill it in alike. -/
  congr : ∀ env₁ env₂ : Environment,
    (∀ name ∈ namesIn v, env₁.lookup? name = env₂.lookup? name) →
      resolveDeep env₁ v = resolveDeep env₂ v
  /-- Every list within the value keeps its place and its length. -/
  list : ∀ (env : Environment) (path : List Nat) (items : List Value),
    v.below? path = some (.list items) →
      ∃ items', (resolveDeep env v).below? path = some (.list items') ∧
        items'.length = items.length
  /-- Every record within the value keeps its place and its keys in their order. -/
  record : ∀ (env : Environment) (path : List Nat) (fields : List (String × Value)),
    v.below? path = some (.record fields) →
      ∃ fields', (resolveDeep env v).below? path = some (.record fields') ∧
        Bindings.keys fields' = Bindings.keys fields
  /-- What has no placeholders stays as it is, wherever it stands. -/
  unchanged : ∀ (env : Environment) (path : List Nat) (w : Value),
    v.below? path = some w → namesIn w = [] → (resolveDeep env v).below? path = some w

/-- Values of an environment are inserted at the placeholders of a value only. -/
theorem insertsOnly (v : Value) : InsertsOnly v where
  filled env := resolveDeep_eq_fill env v
  congr _ _ h := resolveDeep_congr v h
  list env _ items h := ⟨_, below?_resolveDeep env h, length_resolveItems env items⟩
  record env _ fields h := ⟨_, below?_resolveDeep env h, keys_resolveFields env fields⟩
  unchanged env _ w h hnames := by rw [below?_resolveDeep env h, resolveDeep_eq_self env w hnames]

/-- A value that is written like a placeholder, and completes one of the text around it, stays as it
is. -/
example : resolveDeep ⟨[("x", .text "\x7bx\x7d"), ("y", .int 1)]⟩ (.text "$$\x7bx\x7d \x7d") =
    .text "$\x7bx\x7d \x7d" := by
  cbv

end Template

end Workflow

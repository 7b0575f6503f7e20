import Workflow.CommandLine.Variable
import Workflow.Proofs.Document.Faithful
import Workflow.Proofs.Document.Printed
import Workflow.Run.Step

/-!
# Collections that travel as text

The text of a list or of a record is its tree in compact form, and reading the text gives the very
value back, with the fields of every record in their order: quotes, escapes and placeholders within
texts are of no consequence. Lists may so be handed on as texts. A loop goes over the text of a list
as it goes over the list, and the command line reads the list from it.

## Main definitions

* `Workflow.Value.floats` — the floating-point numbers within a value.
* `Workflow.Value.IsPortable` — the values that texts can carry.
* `Workflow.loopOver` — what a loop over given items does.
* `Workflow.TextCarries` — the text of a list does the work of the list.

## Main results

* `Workflow.Value.parse_toText` — the text of a collection is read as the collection.
* `Workflow.carriedByText` — what travels as text arrives.
-/

namespace Workflow

namespace Value

/-! ### Trees of values -/

mutual

/-- The floating-point numbers within a value. -/
def floats : Value → List Float
  | float x => [x]
  | list items => itemsFloats items
  | record fields => fieldsFloats fields
  | _ => []

/-- The floating-point numbers within the values of a list. -/
def itemsFloats : List Value → List Float
  | [] => []
  | v :: rest => v.floats ++ itemsFloats rest

/-- The floating-point numbers within the fields of a record. -/
def fieldsFloats : Bindings Value → List Float
  | [] => []
  | (_, v) :: rest => v.floats ++ fieldsFloats rest

end

/-- The number is read back from its own text. -/
def NumberReadsBack (x : Float) : Prop := Json.parse (Json.floatText x) = some (.float x)

private theorem isLegible_handleTree (h : Handle) : (handleTree h).IsLegible := by
  simp [handleTree, Json.IsLegible, Json.HasLegibleFields, Bindings.keys]

mutual

/-- The tree of a value is legible if the numbers within the value are. -/
theorem isLegible_toJson : (v : Value) → v.IsWellKeyed → (∀ x ∈ v.floats, NumberReadsBack x) →
    v.toJson.IsLegible
  | null, _, _ => trivial
  | bool _, _, _ => trivial
  | int n, _, _ => ⟨Int64.le_toInt n, (Int64.toInt_lt n).trans (by decide)⟩
  | float x, _, h => by
    unfold toJson
    split
    · exact h x List.mem_cons_self
    · trivial
  | text _, _, _ => trivial
  | list items, hkeys, h => areLegible_toItems items hkeys h
  | record fields, hkeys, h =>
    ⟨keys_toFields fields ▸ hkeys.1, hasLegibleFields_toFields fields hkeys.2 h⟩
  | handle h, _, _ => isLegible_handleTree h

private theorem areLegible_toItems : (items : List Value) → AreWellKeyed items →
    (∀ x ∈ itemsFloats items, NumberReadsBack x) → Json.AreLegible (toItems items)
  | [], _, _ => trivial
  | v :: rest, hkeys, h =>
    ⟨isLegible_toJson v hkeys.1 fun x hx => h x (List.mem_append_left _ hx),
      areLegible_toItems rest hkeys.2 fun x hx => h x (List.mem_append_right _ hx)⟩

private theorem hasLegibleFields_toFields : (fields : Bindings Value) →
    HasWellKeyedFields fields → (∀ x ∈ fieldsFloats fields, NumberReadsBack x) →
    Json.HasLegibleFields (toFields fields)
  | [], _, _ => trivial
  | (_, v) :: rest, hkeys, h =>
    ⟨isLegible_toJson v hkeys.1 fun x hx => h x (List.mem_append_left _ hx),
      hasLegibleFields_toFields rest hkeys.2 fun x hx => h x (List.mem_append_right _ hx)⟩

end

/-! ### Texts of collections -/

/-- A list or a record. -/
def IsCollection : Value → Prop
  | list _ => True
  | record _ => True
  | _ => False

/-- The values that texts can carry: their numbers are finite and read back, no record repeats a key
or looks like a handle, and they do not nest deeper than the reader goes. -/
structure IsPortable (v : Value) : Prop where
  wellKeyed : v.IsWellKeyed
  faithful : v.IsFaithful
  shallow : v.toJson.depth ≤ Json.maxDepth
  numbers : ∀ x ∈ v.floats, NumberReadsBack x

theorem toText_eq_compact {v : Value} (h : v.IsCollection) : v.toText = v.toJson.compact := by
  cases v <;> first | rfl | exact h.elim

/-- The text of a collection is read as the tree of the collection, which is read as the
collection. -/
theorem parse_toText {v : Value} (hv : v.IsCollection) (h : v.IsPortable) :
    (Json.parse v.toText).map ofJson = some v := by
  have hread : ofJson v.toJson = v := (readsBack_iff v).mpr h.faithful
  rw [toText_eq_compact hv, Json.parse_compact (isLegible_toJson v h.wellKeyed h.numbers) h.shallow,
    Option.map_some, hread]

end Value

/-! ### Loops -/

variable {items : List Value} {env : Environment} {s name : String}

/-- What a loop over given items does. -/
def loopOver (config : Config) (runner : Option FrameRunner) (scope : Scope) (location : Location)
    (spec : LoopSpec) (body : List Step) (items : List Value) : Exec Value := do
  let cap := (spec.maxIterations.map UInt32.toNat).getD config.maxIterations
  let results ← forItems scope (spec.itemVariable.getD defaultItemVariable)
    (fun i => runItems config runner scope (location.child (.iteration i)) 0 [] body)
    (items.take cap) 0 []
  pure (loopResult .forEach results (cap < items.length))

/-- A loop over the items that a placeholder stands for. -/
def LoopSpec.overPlaceholder (spec : LoopSpec) (s : String) : LoopSpec :=
  { spec with kind := .forEach, items := some (.text s) }

theorem resolveDeep_sole {v : Value} (hs : Template.sole? s = some name)
    (hname : env.lookup? name = some v) : Template.resolveDeep env (.text s) = v := by
  simp only [Template.resolveDeep, Template.resolve, Template.resolveText, hs, hname,
    Option.getD_some]

theorem run_bind_get {α : Type} (f : Environment → Exec α) (env : Environment) :
    (get >>= f : Exec α).run env = (f env).run env := rfl

theorem run_bind_of_done {α β : Type} {x : Exec α} {f : α → Exec β} {a : α}
    (h : x.run env = .done (.ok a, env)) : (x >>= f).run env = (f a).run env := by
  change (x.run env).bind _ = _
  rw [h]
  rfl

/-- The items of a list that a placeholder stands for. -/
theorem loopItems_list (hs : Template.sole? s = some name)
    (hname : env.lookup? name = some (.list items)) :
    (loopItems (some (.text s))).run env = .done (.ok items, env) := by
  rw [loopItems, run_bind_get]
  simp only [Option.map_some, Option.getD_some, resolveDeep_sole hs hname]
  rfl

/-- The items of a list whose text a placeholder stands for. -/
theorem loopItems_toText (hitems : (Value.list items).IsPortable)
    (hs : Template.sole? s = some name)
    (hname : env.lookup? name = some (.text (Value.list items).toText)) :
    (loopItems (some (.text s))).run env = .done (.ok items, env) := by
  have hread := Value.parse_toText (v := .list items) trivial hitems
  rw [loopItems, run_bind_get]
  simp only [Option.map_some, Option.getD_some, resolveDeep_sole hs hname, hread]
  rfl

variable {config : Config} {runner : Option FrameRunner} {scope : Scope} {location : Location}
  {info : StepInfo} {spec : LoopSpec} {body : List Step}

/-- A loop goes over the items that it finds. -/
theorem dispatch_overPlaceholder
    (h : (loopItems (some (.text s))).run env = .done (.ok items, env)) :
    (dispatch config runner scope location (.loop info (spec.overPlaceholder s) body)).run env =
      (loopOver config runner scope location spec body items).run env := by
  rw [dispatch, loopResults, loopOver]
  simp only [LoopSpec.overPlaceholder, bind_assoc]
  rw [run_bind_of_done h]
  simp only [pure_bind]
  rfl

/-! ### What texts carry -/

/-- The text of a list does the work of the list. -/
structure TextCarries (items : List Value) : Prop where
  /-- A loop over a placeholder for the text goes over the items, with the same result. -/
  overText : ∀ config runner scope location info spec body env s name,
    Template.sole? s = some name →
    Environment.lookup? env name = some (.text (Value.list items).toText) →
    (dispatch config runner scope location (.loop info (spec.overPlaceholder s) body)).run env =
      (loopOver config runner scope location spec body items).run env
  /-- So does a loop over a placeholder for the list. -/
  overList : ∀ config runner scope location info spec body env s name,
    Template.sole? s = some name →
    Environment.lookup? env name = some (.list items) →
    (dispatch config runner scope location (.loop info (spec.overPlaceholder s) body)).run env =
      (loopOver config runner scope location spec body items).run env
  /-- Behind a key and an equals sign the text gives the key the list. -/
  bound : ∀ key, '=' ∉ key.toList → Text.trim key ≠ "" →
    Variable.ofText (key ++ "=" ++ (Value.list items).toText) = .ok (Text.trim key, .list items)

theorem ofText_toText {key : String} (hitems : (Value.list items).IsPortable)
    (hkey : '=' ∉ key.toList) (htrim : Text.trim key ≠ "") :
    Variable.ofText (key ++ "=" ++ (Value.list items).toText) =
      .ok (Text.trim key, .list items) := by
  have hread := Value.parse_toText (v := .list items) trivial hitems
  have hraw : (key ++ "=" ++ (Value.list items).toText).toList =
      key.toList ++ '=' :: (Value.list items).toText.toList := by
    simp [String.toList_append]
  have hfront : ∀ c ∈ key.toList, decide (c ≠ '=') = true := by
    intro c hc
    exact decide_eq_true fun heq => hkey (heq ▸ hc)
  have hvalue : Variable.valueOf (Value.list items).toText = .list items := by
    obtain ⟨j, hj, hlist⟩ := Option.map_eq_some_iff.mp hread
    rw [Variable.valueOf, hj]
    exact hlist
  rw [Variable.ofText, hraw, List.takeWhile_append_of_pos hfront,
    List.dropWhile_append_of_pos hfront]
  simp [htrim, hvalue]

/-- Whatever a text can carry arrives: the text of a collection is read as the collection, and that
of a list does the work of the list. -/
theorem carriedByText :
    (∀ v : Value, v.IsCollection → v.IsPortable →
      (Json.parse v.toText).map Value.ofJson = some v) ∧
    ∀ items : List Value, (Value.list items).IsPortable → TextCarries items :=
  ⟨fun _ => Value.parse_toText, fun _ hitems =>
    { overText := fun _ _ _ _ _ _ _ _ _ _ hs hname =>
        dispatch_overPlaceholder (loopItems_toText hitems hs hname)
      overList := fun _ _ _ _ _ _ _ _ _ _ hs hname =>
        dispatch_overPlaceholder (loopItems_list hs hname)
      bound := fun _ => ofText_toText hitems }⟩

/-- A list of items that a text may well hold: a number with a fraction, a text with quotes, an
escape and a placeholder, and lists and records within. -/
private def basket : List Value :=
  [.int (-7), .float 1.5, .record [("say", .text "a \"quoted\" $\x7bx\x7d\n\\"), ("none", .null)],
    .list [], .handle ⟨"tab", "17"⟩]

example : (Value.list basket).toText =
    "[-7,1.5,\x7b\"say\":\"a \\\"quoted\\\" $\x7bx\x7d\\n\\\\\",\"none\":null\x7d,[]," ++
      "\x7b\"$handle\":\x7b\"kind\":\"tab\",\"id\":\"17\"\x7d\x7d]" := by
  decide +kernel

private theorem numberReadsBack_three_halves : Value.NumberReadsBack 1.5 := by
  have htext : Json.floatText 1.5 = "1.5" := by decide +kernel
  rw [Value.NumberReadsBack, htext]
  rfl

private theorem isPortable_basket : (Value.list basket).IsPortable where
  wellKeyed := by
    simp [basket, Value.IsWellKeyed, Value.AreWellKeyed, Value.HasWellKeyedFields, Bindings.keys]
  faithful := by
    have hfinite : (1.5 : Float).isFinite = true := by decide +kernel
    simp [basket, Value.IsFaithful, Value.AreFaithful, Value.HasFaithfulFields,
      Value.MimicsHandle, hfinite]
  shallow := by
    have hfinite : (1.5 : Float).isFinite = true := by decide +kernel
    simp [basket, Value.toJson, Value.toItems, Value.toFields, Value.handleTree, hfinite,
      Json.depth, Json.itemsDepth, Json.fieldsDepth, Json.maxDepth]
  numbers := by
    simpa [basket, Value.floats, Value.itemsFloats, Value.fieldsFloats] using
      numberReadsBack_three_halves

private def basketLoop : LoopSpec where
  kind := .forEach
  items := none
  condition := none
  times := none
  itemVariable := none
  maxIterations := some 3

private def basketScope : Scope := ⟨⟨"shop", .ofNat 0, none⟩, .stop, 0, 0⟩

/-- The list stands in one variable and its text in another: loops over the two do the same, and the
text gives a variable on the command line the list. -/
theorem carriedByText_basket :
    let env : Environment := ⟨[("l", .list basket), ("t", .text (Value.list basket).toText)]⟩
    let loop (s : String) : Step := .loop Step.plain (basketLoop.overPlaceholder s)
      [.ofAction (.text "$\x7bitem\x7d")]
    let run (s : String) := (dispatch .default none basketScope (.top 0) (loop s)).run env
    (Json.parse (Value.list basket).toText).map Value.ofJson = some (.list basket) ∧
      run "$\x7bt\x7d" = run "$\x7bl\x7d" ∧
      Variable.ofText ("k=" ++ (Value.list basket).toText) = .ok ("k", .list basket) := by
  intro env loop run
  obtain ⟨hread, hlists⟩ := carriedByText
  have hcarries := hlists basket isPortable_basket
  have htext : Template.sole? "$\x7bt\x7d" = some "t" := by cbv
  have hlist : Template.sole? "$\x7bl\x7d" = some "l" := by cbv
  refine ⟨hread _ trivial isPortable_basket, ?_, ?_⟩
  · exact (hcarries.overText _ _ _ _ _ _ _ env _ _ htext rfl).trans
      (hcarries.overList _ _ _ _ _ _ _ env _ _ hlist rfl).symm
  · have htrim : Text.trim "k" = "k" := by decide
    have hbound := hcarries.bound "k" (by decide) (by rw [htrim]; decide)
    rwa [htrim] at hbound

end Workflow

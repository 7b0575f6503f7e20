import Workflow.Script.Machine

/-!
# Functions for the items of collections

The functions on arrays and maps that call another function for each item. The other function may be
made for the item as what it is called on, or as a parameter, and it may ask for the place of the
item as well; what it makes of an item that it is called on stays in the collection. Whatever goes
wrong in it goes wrong in the call of the function on the collection.

How a function is called is a parameter here.

## Main definitions

* `Workflow.Script.Calling` — how functions are called.
* `Workflow.Script.onArray?`, `Workflow.Script.onMap?` — the functions by their names.
-/

namespace Workflow.Script

/-- How functions are called. -/
structure Calling where
  /-- The value of a function for arguments, and what becomes of what it is called on. -/
  call : Datum → List Datum → Option Datum → Act (Datum × Option Datum)
  /-- The number of parameters of a closure that are not given yet. -/
  arity? : Datum → Option Nat

/-- What a function is called with for an item. -/
structure Offer where
  this : Option Datum
  arguments : List Datum
  /-- What it is given if it asks for more. -/
  extras : List Datum
  /-- The place among the arguments of the item, if the function is not called on it. -/
  moved : Option Nat

namespace Offer

/-- The arguments with the item among them. -/
def withItem? (o : Offer) : Option (List Datum) :=
  match o.this, o.moved with
  | some d, some i => some (o.arguments.take i ++ d :: o.arguments.drop i)
  | _, _ => none

/-- The ways in which a function may be called, in the order of preference. -/
def ways (o : Offer) : List (List Datum × Option Datum) :=
  let moved := o.withItem?.toList
  (o.arguments, o.this) :: moved.map (·, none) ++
    moved.map (fun args => (args ++ o.extras, none)) ++
    [(o.arguments ++ o.extras, o.this)]

end Offer

/-- A fault is that there is no function of a name. -/
def lacks (f : Datum) : Signal → Bool
  | .fault (.plain (.unknownFunction signature) _) =>
    match f with
    | .function name _ _ => name.toList.isPrefixOf signature.toList
    | _ => false
  | _ => false

/-- The value of a function in the first of several ways for which there is one. -/
def firstWay (c : Calling) (f : Datum) :
    List (List Datum × Option Datum) → Act (Datum × Option Datum)
  | [] => raise default
  | [(args, this)] => c.call f args this
  | (args, this) :: rest => do
    match ← observe (c.call f args this) with
    | .ok r => pure r
    | .error s => if lacks f s then firstWay c f rest else throw s

/-- The value of a function for an item, and what becomes of the item. -/
def offer (c : Calling) (f : Datum) (o : Offer) : Act (Datum × Option Datum) := do
  let r ← match c.arity? f with
    | some n =>
      match o.ways.find? fun w => w.1.length == n with
      | some (args, this) => c.call f args this
      | none => c.call f o.arguments o.this
    | none => firstWay c f o.ways
  pure (r.1, r.2.or o.this)

/-- What a function on a collection comes to: a value, and what becomes of the collection. -/
abbrev Outcome := Datum × Option Datum

/-- Goes through items with their places until a result says to stop. -/
def visit {β : Type} (step : Nat → Datum → Act (β × Datum)) (stops : β → Bool) :
    Nat → List Datum → Act (List β × List Datum)
  | _, [] => pure ([], [])
  | i, d :: rest => do
    let (b, d) ← step i d
    if stops b then pure ([b], d :: rest)
    else
      let (bs, ds) ← visit step stops (i + 1) rest
      pure (b :: bs, d :: ds)

/-- The truth value of a datum; what is none does not hold. -/
def holdsTrue : Datum → Bool
  | .bool b => b
  | _ => false

/-- The place of an item as a datum. -/
def placeDatum (i : Nat) : Datum := .int (Int64.ofNat i)

section Arrays

variable (c : Calling) (f : Datum)

/-- The value of the function for an item at a place. -/
def atItem (moved : Option Nat) (i : Nat) (d : Datum) : Act (Datum × Datum) := do
  let (r, this) ← offer c f ⟨some d, [], [placeDatum i], moved⟩
  pure (r, this.getD d)

/-- The function holds for an item at a place. -/
def testItem (i : Nat) (d : Datum) : Act (Bool × Datum) := do
  let (r, d) ← atItem c f (some 0) i d
  pure (holdsTrue r, d)

/-- The first item for which the function holds, or does not. -/
def seek (wanted : Bool) (start : Nat) (items : List Datum) :
    Act (Option (Nat × Datum) × List Datum) := do
  let (bs, ds) ← visit (testItem c f) (· == wanted) start (items.drop start)
  let all := items.take start ++ ds
  let i := start + bs.length - 1
  pure (if bs.getLast? = some wanted then (all[i]?).map (i, ·) else none, all)

/-- The items put together by the function, those with their places in order. -/
def foldItems (name : Datum → List Datum → Offer) :
    Datum → List (Nat × Datum) → Act Datum
  | acc, [] => pure acc
  | acc, (i, d) :: rest => do
    let (acc, _) ← offer c f (name d [acc, placeDatum i])
    foldItems name acc rest

/-- What the function is called with to put an item to what is there. -/
def foldOffer (d : Datum) : List Datum → Offer
  | acc :: extras => ⟨some d, [acc], extras, some 1⟩
  | [] => ⟨some d, [], [], none⟩

/-- The function puts an item before another. Where it fails, neither comes first. -/
def putsBefore (item other : Datum) : Act Bool := do
  match ← observe (c.call f [item, other] none) with
  | .ok (.int n, _) => pure (n < 0)
  | .ok (.bool b, _) => pure b
  | _ => pure false

/-- An item moved forward past the sorted ones that it belongs before, the last of them first. -/
def insertBy (item : Datum) : List Datum → Act (List Datum)
  | [] => pure [item]
  | d :: rest => do
    if ← putsBefore c f item d then
      let rest ← insertBy item rest
      pure (d :: rest)
    else pure (item :: d :: rest)

/-- Items sorted by the function behind sorted ones, the last of them first. -/
def sortBy (done : List Datum) : List Datum → Act (List Datum)
  | [] => pure done.reverse
  | item :: rest => do
    let done ← insertBy c f item done
    sortBy done rest

/-- The items without those that the function takes for the same as the one kept before them. -/
def dedupBy (kept : Datum) : List Datum → Act (List Datum)
  | [] => pure [kept]
  | d :: rest => do
    match ← observe (c.call f [kept, d] none) with
    | .ok (.bool true, _) => dedupBy kept rest
    | _ =>
      let rest ← dedupBy d rest
      pure (kept :: rest)

/-- The values of the function for the items of two arrays. -/
def zipBy : Nat → List Datum → List Datum → Act (List Datum)
  | i, a :: as, b :: bs => do
    let (r, _) ← offer c f ⟨none, [a, b], [placeDatum i], none⟩
    let rs ← zipBy (i + 1) as bs
    pure (r :: rs)
  | _, _, _ => pure []

/-- The items chosen by truth values, or those left by them. -/
def chosen {α : Type} (wanted : Bool) (bs : List Bool) (items : List α) : List α :=
  ((bs.zip items).filter fun e => e.1 == wanted).map (·.2)

/-- A function on an array that calls the function for its items. -/
def onArray? (name : String) (items : List Datum) (rest : List Datum) : Option (Act Outcome) :=
  let changed (ds : List Datum) : Option Datum := some (.array ds)
  let tests : Act (List Bool × List Datum) := visit (testItem c f) (fun _ => false) 0 items
  let folded (start : Datum) (backwards : Bool) : Act Outcome := do
    let numbered := (List.range items.length).zip items
    let d ← foldItems c f foldOffer start (if backwards then numbered.reverse else numbered)
    pure (d, none)
  let sought (wanted : Bool) (start : Nat) (k : Option (Nat × Datum) → Datum) : Act Outcome := do
    let (r, ds) ← seek c f wanted start items
    pure (k r, changed ds)
  let mapped (start : Nat) : Act Outcome := do
    let (rs, ds) ← visit (atItem c f (some 0)) (!· matches .unit) start (items.drop start)
    pure ((rs.find? (!· matches .unit)).getD .unit, changed (items.take start ++ ds))
  let found : Option (Nat × Datum) → Datum := fun r => (r.map (·.2)).getD .unit
  let foundPlace : Option (Nat × Datum) → Datum :=
    fun r => .int ((r.map fun e => Int64.ofNat e.1).getD (-1))
  match name, rest with
  | "map", [] => some do
    let (rs, ds) ← visit (atItem c f (some 0)) (fun _ => false) 0 items
    pure (.array rs, changed ds)
  | "for_each", [] => some do
    let (_, ds) ← visit (atItem c f none) (fun _ => false) 0 items
    pure (.unit, changed ds)
  | "filter", [] => some do
    let (bs, ds) ← tests
    pure (.array (chosen true bs ds), changed ds)
  | "retain", [] => some do
    let (bs, ds) ← tests
    pure (.array (chosen false bs ds), changed (chosen true bs ds))
  | "drain", [] => some do
    let (bs, ds) ← tests
    pure (.array (chosen true bs ds), changed (chosen false bs ds))
  | "some", [] => some (sought true 0 fun r => .bool r.isSome)
  | "all", [] => some (sought false 0 fun r => .bool r.isNone)
  | "find", [] => some (sought true 0 found)
  | "find", [.int n] => some (sought true (cutPlace items.length n) found)
  | "find_map", [] => some (mapped 0)
  | "find_map", [.int n] => some (mapped (cutPlace items.length n))
  | "index_of", [] => some (sought true 0 foundPlace)
  | "index_of", [.int n] => some (sought true (cutPlace items.length n) foundPlace)
  | "reduce", [] => some (folded .unit false)
  | "reduce", [start] => some (folded start false)
  | "reduce_rev", [] => some (folded .unit true)
  | "reduce_rev", [start] => some (folded start true)
  | "sort", [] => some do
    let ds ← sortBy c f [] items
    pure (.unit, changed ds)
  | "sort_by", [] => some do
    let ds ← sortBy c f [] items
    pure (.unit, changed ds)
  | "order", [] => some do
    let ds ← sortBy c f [] items
    pure (.array ds, none)
  | "order_by", [] => some do
    let ds ← sortBy c f [] items
    pure (.array ds, none)
  | "dedup", [] => some do
    match items with
    | [] => pure (.unit, none)
    | d :: ds =>
      let ds ← dedupBy c f d ds
      pure (.unit, changed ds)
  | _, _ => none

/-- The value of the function for a key and what is bound to it. -/
def atField (e : String × Datum) : Act (Datum × String × Datum) := do
  let (r, this) ← offer c f ⟨some e.2, [.text e.1], [], some 1⟩
  pure (r, e.1, this.getD e.2)

/-- A function on a map that calls the function for its fields. -/
def onMap? (name : String) (fields : List (String × Datum)) : Option (Act Outcome) :=
  let picked (wanted : Bool) (es : List (Datum × String × Datum)) : Datum :=
    .map ((es.filter fun e => holdsTrue e.1 == wanted).map (·.2))
  match name with
  | "map" => some do
    let es ← fields.mapM (atField c f)
    pure (.map (es.map fun e => (e.2.1, e.1)), some (.map (es.map (·.2))))
  | "filter" => some do
    let es ← fields.mapM (atField c f)
    pure (picked true es, some (.map (es.map (·.2))))
  | "drain" => some do
    let es ← fields.mapM (atField c f)
    pure (picked true es, some (picked false es))
  | "retain" => some do
    let es ← fields.mapM (atField c f)
    pure (picked false es, some (picked true es))
  | _ => none

end Arrays

/-- The functions on arrays that silence what goes wrong in the function that they call. -/
def silencing : List String := ["sort", "sort_by", "order", "order_by", "dedup"]

/-- The functions on arrays that take another function by its name. -/
def byName : List String :=
  ["map", "filter", "index_of", "some", "all", "dedup", "reduce", "reduce_rev", "sort", "drain",
   "retain"]

end Workflow.Script

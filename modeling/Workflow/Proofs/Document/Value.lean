import Workflow.Proofs.Document.Number
import Workflow.Value.Basic

/-!
# Values read back from their trees

A value that was read from the tree of a document is written as a tree that reads as this very
value. Numbers keep their kind, also where an unsigned integer has become a floating-point number; a
handle is written in its one form, whichever it was read from; and a record whose only field is the
mark of a handle without one behind it is no handle when it is read again.

## Main definitions

* `Workflow.Json.IsProper` — the trees that a document can hold.
* `Workflow.Value.ReadsBack` — the tree of a value reads as the value.

## Main results

* `Workflow.Value.readsBack_ofJson` — what a proper tree describes reads back.
-/

namespace Workflow

/-! ### Trees of documents -/

mutual

/-- Every integer of the tree fits into 64 bits, with or without a sign, and every other number of
it is finite. -/
def Json.IsProper : Json → Prop
  | .integer n => -2 ^ 63 ≤ n ∧ n < 2 ^ 64
  | .float x => x.isFinite = true
  | .array items => Json.AreProper items
  | .object fields => Json.HasProperFields fields
  | _ => True

/-- Every tree of a list is proper. -/
def Json.AreProper : List Json → Prop
  | [] => True
  | j :: rest => j.IsProper ∧ Json.AreProper rest

/-- Every field of an object is proper. -/
def Json.HasProperFields : List (String × Json) → Prop
  | [] => True
  | (_, j) :: rest => j.IsProper ∧ Json.HasProperFields rest

end

theorem Json.isProper_of_get? {key : String} {j : Json} : {fields : List (String × Json)} →
    Json.HasProperFields fields → Bindings.get? fields key = some j → j.IsProper
  | (k, _) :: rest, ⟨hj, hrest⟩, h => by
    unfold Bindings.get? at h
    split at h
    · exact Option.some.inj h ▸ hj
    · exact isProper_of_get? hrest h

/-- Naming the items of an array by position keeps them proper. -/
theorem Json.hasProperFields_zip : (names : List String) → (items : List Json) →
    Json.AreProper items → Json.HasProperFields (names.zip items)
  | [], _, _ => trivial
  | _ :: _, [], _ => trivial
  | _ :: names, _ :: items, ⟨hj, hrest⟩ => ⟨hj, hasProperFields_zip names items hrest⟩

/-! ### Values -/

namespace Value

/-- The tree of the value reads as the value. -/
def ReadsBack (v : Value) : Prop := ofJson v.toJson = v

/-- The tree of the fields reads as the fields. -/
def FieldsReadBack (fields : Bindings Value) : Prop := ofFields (toFields fields) = fields

/-- Only null is written as null, among the values that read back. -/
theorem ReadsBack.toJson_ne_null {v : Value} (h : v.ReadsBack) (hv : v ≠ .null) :
    v.toJson ≠ .null := by
  intro hnull
  rw [ReadsBack, hnull] at h
  exact hv h.symm

/-! ### Numbers -/

private theorem toJson_float {x : Float} (h : x.isFinite = true) :
    (float x).toJson = .float x := if_pos h

private theorem readsBack_float {x : Float} (h : x.isFinite = true) : (float x).ReadsBack := by
  rw [ReadsBack, toJson_float h]
  rfl

private theorem readsBack_ofInteger {n : Int} (h : -2 ^ 63 ≤ n) (h' : n < 2 ^ 64) :
    (ofInteger n).ReadsBack := by
  have hpow : Nat.pow 2 63 = 2 ^ 63 := rfl
  by_cases hn : n < 2 ^ 63
  · have hrange : -(Nat.pow 2 63 : Int) ≤ n ∧ n < Nat.pow 2 63 := by
      rw [hpow]
      omega
    have hread : ofInteger n = int (Int64.ofInt n) := if_pos hrange
    have hwrite : (int (Int64.ofInt n)).toJson = .integer n :=
      congrArg Json.integer (Int64.toInt_ofInt_of_le (by omega) (by omega))
    rw [ReadsBack, hread, hwrite]
    exact hread
  · have hread : ofInteger n = float (Float.ofNat n.natAbs) := by
      unfold ofInteger
      rw [hpow, if_neg (by omega), if_neg (by omega)]
    rw [hread]
    exact readsBack_float (isFinite_ofNat (by omega) (by omega))

theorem isNumber_ofInteger (n : Int) : (ofInteger n).isNumber = true := by
  unfold ofInteger
  split <;> rfl

/-- The tree of a number is a number, or null. -/
private theorem toJson_of_isNumber : {v : Value} → v.isNumber = true →
    (∃ n, v.toJson = .integer n) ∨ (∃ x, v.toJson = .float x) ∨ v.toJson = .null
  | .int n, _ => .inl ⟨n.toInt, rfl⟩
  | .float x, _ => by
    unfold toJson
    split
    · exact .inr (.inl ⟨x, rfl⟩)
    · exact .inr (.inr rfl)

/-! ### Handles -/

theorem readsBack_handle (h : Handle) : (handle h).ReadsBack := by
  change ofJson (handleTree h) = handle h
  simp [handleTree, ofJson, handleOfFields?, handleOf?, Bindings.get?, Json.text?]

/-- An array describes a handle if it holds just two texts. -/
private theorem handleOf?_pair (a b : Json) :
    handleOf? (.array [a, b]) =
      a.text?.bind fun kind => b.text?.bind fun id => some ⟨kind, id⟩ := by
  cases a <;> cases b <;> rfl

/-- An object describes a handle if it has a kind and an identifier. -/
private theorem handleOf?_object (fields : List (String × Json)) :
    handleOf? (.object fields) =
      ((Bindings.get? fields "kind").bind Json.text?).bind fun kind =>
        ((Bindings.get? fields "id").bind Json.text?).bind fun id => some ⟨kind, id⟩ := by
  simp only [handleOf?]
  cases Bindings.get? fields "kind" <;> cases Bindings.get? fields "id" <;> rfl

/-- An array of another length describes no handle. -/
private theorem handleOf?_array {items : List Json} (h : items.length ≠ 2) :
    handleOf? (.array items) = none := by
  unfold handleOf?
  split
  · rename_i hitems
    exact nomatch hitems
  · rename_i hitems
    rw [Json.array.inj hitems] at h
    exact absurd rfl h
  · rfl

private theorem handleOf?_handleTree (h : Handle) : handleOf? (handleTree h) = none := by
  rw [handleTree, handleOf?_object]
  rfl

/-- A tree that is read and written is a text if it was one. -/
private theorem text?_toJson_ofJson (j : Json) : (ofJson j).toJson.text? = j.text? := by
  cases j with
  | null => rfl
  | bool => rfl
  | integer n =>
    change (ofInteger n).toJson.text? = none
    rcases toJson_of_isNumber (isNumber_ofInteger n) with ⟨_, h⟩ | ⟨_, h⟩ | h <;> rw [h] <;> rfl
  | float x =>
    change (float x).toJson.text? = none
    rcases toJson_of_isNumber (v := float x) rfl with ⟨_, h⟩ | ⟨_, h⟩ | h <;> rw [h] <;> rfl
  | text => rfl
  | array => rfl
  | object fields =>
    unfold ofJson
    split <;> rfl

private theorem get?_toFields_ofFields (key : String) : (fields : List (String × Json)) →
    Bindings.get? (toFields (ofFields fields)) key =
      (Bindings.get? fields key).map fun j => (ofJson j).toJson
  | [] => rfl
  | (k, j) :: rest => by
    unfold ofFields toFields Bindings.get?
    split
    · rfl
    · exact get?_toFields_ofFields key rest

/-- A tree that describes no handle describes none after it was read and written. -/
private theorem handleOf?_toJson_ofJson {j : Json} (h : handleOf? j = none) :
    handleOf? (ofJson j).toJson = none := by
  cases j with
  | null => rfl
  | bool => rfl
  | integer n =>
    change handleOf? (ofInteger n).toJson = none
    rcases toJson_of_isNumber (isNumber_ofInteger n) with ⟨_, h⟩ | ⟨_, h⟩ | h <;> rw [h] <;> rfl
  | float x =>
    change handleOf? (float x).toJson = none
    rcases toJson_of_isNumber (v := float x) rfl with ⟨_, h⟩ | ⟨_, h⟩ | h <;> rw [h] <;> rfl
  | text => rfl
  | array items =>
    match items with
    | [] => rfl
    | [_] => exact handleOf?_array (by simp [toItems, ofItems])
    | [a, b] =>
      change handleOf? (.array [(ofJson a).toJson, (ofJson b).toJson]) = none
      rw [handleOf?_pair, text?_toJson_ofJson, text?_toJson_ofJson, ← handleOf?_pair]
      exact h
    | _ :: _ :: _ :: rest => exact handleOf?_array (by simp [toItems, ofItems])
  | object fields =>
    unfold ofJson
    split
    · exact handleOf?_handleTree _
    · have htext (key : String) :
          (Bindings.get? (toFields (ofFields fields)) key).bind Json.text? =
            (Bindings.get? fields key).bind Json.text? := by
        rw [get?_toFields_ofFields, Option.bind_map]
        exact congrArg _ (funext text?_toJson_ofJson)
      change handleOf? (.object (toFields (ofFields fields))) = none
      rw [handleOf?_object, htext, htext, ← handleOf?_object]
      exact h

/-- Fields that mark no handle mark none after they were read and written. -/
private theorem handleOfFields?_toFields {fields : List (String × Json)}
    (h : handleOfFields? fields = none) : handleOfFields? (toFields (ofFields fields)) = none := by
  match fields with
  | [] => rfl
  | [(key, inner)] =>
    change (if key = handleKey then handleOf? (ofJson inner).toJson else none) = none
    change (if key = handleKey then handleOf? inner else none) = none at h
    split
    · rename_i hkey
      rw [if_pos hkey] at h
      exact handleOf?_toJson_ofJson h
    · rfl
  | _ :: _ :: _ => rfl

/-! ### Trees of values -/

mutual

/-- What a proper tree describes reads back. -/
theorem readsBack_ofJson : (j : Json) → j.IsProper → (ofJson j).ReadsBack
  | .null, _ => rfl
  | .bool _, _ => rfl
  | .integer _, h => readsBack_ofInteger h.1 h.2
  | .float _, h => readsBack_float h
  | .text _, _ => rfl
  | .array items, h => congrArg Value.list (ofItems_toItems_ofItems items h)
  | .object fields, h => by
    unfold ofJson
    split
    · exact readsBack_handle _
    · rename_i hfields
      change ofJson (.object (toFields (ofFields fields))) = record (ofFields fields)
      unfold ofJson
      rw [handleOfFields?_toFields hfields]
      exact congrArg Value.record (fieldsReadBack_ofFields fields h)

private theorem ofItems_toItems_ofItems : (items : List Json) → Json.AreProper items →
    ofItems (toItems (ofItems items)) = ofItems items
  | [], _ => rfl
  | j :: rest, h =>
    congrArg₂ List.cons (readsBack_ofJson j h.1) (ofItems_toItems_ofItems rest h.2)

/-- What the fields of a proper object describe reads back. -/
theorem fieldsReadBack_ofFields : (fields : List (String × Json)) → Json.HasProperFields fields →
    FieldsReadBack (ofFields fields)
  | [], _ => rfl
  | (k, j) :: rest, h =>
    congrArg₂ List.cons (congrArg (Prod.mk k) (readsBack_ofJson j h.1))
      (fieldsReadBack_ofFields rest h.2)

end

/-- Only null is read as null. -/
theorem ofJson_ne_null {j : Json} (h : j ≠ .null) : ofJson j ≠ .null := by
  cases j with
  | null => exact absurd rfl h
  | integer n =>
    intro hnull
    have hnumber := isNumber_ofInteger n
    rw [show ofInteger n = null from hnull] at hnumber
    exact nomatch hnumber
  | object fields =>
    unfold ofJson
    split <;> exact fun h => nomatch h
  | _ => exact fun h => nomatch h

end Value

end Workflow

import Workflow.Proofs.Document.Value

/-!
# What is kept between values and trees

Reading a tree and writing the value need not give the tree back: an unsigned integer beyond the
signed ones comes back as a floating-point number, and a handle in its one form, whatever else stood
beside its kind and its identifier. Writing a value and reading the tree need not give the value
back either: a number that is not finite comes back as null, and a record that looks like a handle
as that handle. Nothing else is lost in either direction, at any depth; the fields of a record stay
in their order.

## Main definitions

* `Workflow.Json.IsCanonical` — the trees that are written again as they were read.
* `Workflow.Value.MimicsHandle` — the fields of a record look like those of a handle.
* `Workflow.Value.IsFaithful` — the values that are read again as they were written.

## Main results

* `Workflow.Value.toJson_ofJson_iff`, `Workflow.Value.readsBack_iff` — just these are kept.
* `Workflow.Value.reading_settles` — a tree that was read is read alike ever after.
-/

namespace Workflow

/-! ### Trees -/

mutual

/-- Every integer of the tree is a signed one of 64 bits, every other number of it is finite, and
every object of it that describes a handle has the one form of the handle. -/
def Json.IsCanonical : Json → Prop
  | .integer n => -2 ^ 63 ≤ n ∧ n < 2 ^ 63
  | .float x => x.isFinite = true
  | .array items => Json.AreCanonical items
  | .object fields =>
    match Value.handleOfFields? fields with
    | some h => Json.object fields = Value.handleTree h
    | none => Json.HasCanonicalFields fields
  | _ => True

/-- Every tree of a list is canonical. -/
def Json.AreCanonical : List Json → Prop
  | [] => True
  | j :: rest => j.IsCanonical ∧ Json.AreCanonical rest

/-- Every field of an object is canonical. -/
def Json.HasCanonicalFields : List (String × Json) → Prop
  | [] => True
  | (_, j) :: rest => j.IsCanonical ∧ Json.HasCanonicalFields rest

end

namespace Value

private theorem toJson_ofInteger_iff (n : Int) :
    (ofInteger n).toJson = .integer n ↔ -2 ^ 63 ≤ n ∧ n < 2 ^ 63 := by
  have hpow : Nat.pow 2 63 = 2 ^ 63 := rfl
  by_cases hn : -2 ^ 63 ≤ n ∧ n < 2 ^ 63
  · have hread : ofInteger n = int (Int64.ofInt n) := by
      unfold ofInteger
      rw [hpow, if_pos (by omega)]
    have hwrite : (Int64.ofInt n).toInt = n := Int64.toInt_ofInt_of_le (by omega) (by omega)
    simpa [hread, toJson, hwrite] using hn
  · have hread : ∃ x, ofInteger n = float x := by
      unfold ofInteger
      rw [hpow, if_neg (by omega)]
      exact ⟨_, rfl⟩
    obtain ⟨x, hx⟩ := hread
    simp only [hx, toJson, hn, iff_false]
    split <;> exact fun h => nomatch h

private theorem toJson_float_iff (x : Float) :
    (float x).toJson = .float x ↔ x.isFinite = true := by
  unfold toJson
  split <;> simp_all

mutual

/-- A tree is written again as it was read just if it is canonical. -/
theorem toJson_ofJson_iff : (j : Json) → ((ofJson j).toJson = j ↔ j.IsCanonical)
  | .null => iff_true_intro rfl
  | .bool _ => iff_true_intro rfl
  | .integer n => toJson_ofInteger_iff n
  | .float x => toJson_float_iff x
  | .text _ => iff_true_intro rfl
  | .array items => by
    simpa [ofJson, toJson, Json.IsCanonical] using toItems_ofItems_iff items
  | .object fields => by
    unfold ofJson Json.IsCanonical
    cases handleOfFields? fields with
    | some h => exact eq_comm
    | none => simpa [toJson] using toFields_ofFields_iff fields

private theorem toItems_ofItems_iff : (items : List Json) →
    (toItems (ofItems items) = items ↔ Json.AreCanonical items)
  | [] => iff_true_intro rfl
  | j :: rest => by
    simp [ofItems, toItems, Json.AreCanonical, toJson_ofJson_iff j, toItems_ofItems_iff rest]

private theorem toFields_ofFields_iff : (fields : List (String × Json)) →
    (toFields (ofFields fields) = fields ↔ Json.HasCanonicalFields fields)
  | (k, j) :: rest => by
    simp [ofFields, toFields, Json.HasCanonicalFields, toJson_ofJson_iff j,
      toFields_ofFields_iff rest]
  | [] => iff_true_intro rfl

end

/-! ### Values -/

/-- The fields look like those of a handle: the only one is the mark of a handle, and what it holds
is written as a tree that describes a handle. -/
def MimicsHandle (fields : Bindings Value) : Prop :=
  ∃ v h, fields = [(handleKey, v)] ∧ handleOf? v.toJson = some h

private theorem handleOfFields?_toFields_iff (fields : Bindings Value) :
    handleOfFields? (toFields fields) = none ↔ ¬ MimicsHandle fields := by
  match fields with
  | [] => simp [toFields, handleOfFields?, MimicsHandle]
  | [(key, v)] =>
    by_cases hkey : key = handleKey <;> cases hv : handleOf? v.toJson <;>
      simp [toFields, handleOfFields?, MimicsHandle, hkey, hv]
  | _ :: _ :: _ => simp [toFields, handleOfFields?, MimicsHandle]

mutual

/-- Every floating-point number within the value is finite, and the fields of no record within it
look like those of a handle. -/
def IsFaithful : Value → Prop
  | float x => x.isFinite = true
  | list items => AreFaithful items
  | record fields => ¬ MimicsHandle fields ∧ HasFaithfulFields fields
  | _ => True

/-- Every value of a list is faithful. -/
def AreFaithful : List Value → Prop
  | [] => True
  | v :: rest => v.IsFaithful ∧ AreFaithful rest

/-- Every field of a record is faithful. -/
def HasFaithfulFields : Bindings Value → Prop
  | [] => True
  | (_, v) :: rest => v.IsFaithful ∧ HasFaithfulFields rest

end

private theorem readsBack_int (n : Int64) : (int n).ReadsBack := by
  have hpow : Nat.pow 2 63 = 2 ^ 63 := rfl
  have hle := Int64.le_toInt n
  have hlt := Int64.toInt_lt n
  change ofInteger n.toInt = int n
  unfold ofInteger
  rw [hpow, if_pos (by omega), Int64.ofInt_toInt]

private theorem readsBack_float_iff (x : Float) :
    (float x).ReadsBack ↔ x.isFinite = true := by
  unfold ReadsBack toJson
  split <;> simp_all [ofJson]

/-- A record reads back just if its fields do not look like those of a handle and read back. -/
private theorem readsBack_record_iff (fields : Bindings Value) :
    (record fields).ReadsBack ↔ ¬ MimicsHandle fields ∧ FieldsReadBack fields := by
  rw [← handleOfFields?_toFields_iff]
  change ofJson (.object (toFields fields)) = record fields ↔ _
  unfold ofJson
  cases handleOfFields? (toFields fields) <;> simp [FieldsReadBack]

mutual

/-- The tree of a value reads as the value just if the value is faithful. -/
theorem readsBack_iff : (v : Value) → (v.ReadsBack ↔ v.IsFaithful)
  | null => iff_true_intro rfl
  | bool _ => iff_true_intro rfl
  | int n => iff_true_intro (readsBack_int n)
  | float x => readsBack_float_iff x
  | text _ => iff_true_intro rfl
  | list items => by
    simpa [ReadsBack, toJson, ofJson, IsFaithful] using ofItems_toItems_iff items
  | record fields => by
    rw [readsBack_record_iff, fieldsReadBack_iff fields, IsFaithful]
  | handle h => iff_true_intro (readsBack_handle h)

private theorem ofItems_toItems_iff : (items : List Value) →
    (ofItems (toItems items) = items ↔ AreFaithful items)
  | [] => iff_true_intro rfl
  | v :: rest => by
    have hv : ofJson v.toJson = v ↔ v.IsFaithful := readsBack_iff v
    simp [toItems, ofItems, AreFaithful, hv, ofItems_toItems_iff rest]

/-- The tree of the fields reads as the fields, in their order, just if each is faithful. -/
theorem fieldsReadBack_iff : (fields : Bindings Value) →
    (FieldsReadBack fields ↔ HasFaithfulFields fields)
  | [] => iff_true_intro rfl
  | (k, v) :: rest => by
    have hv : ofJson v.toJson = v ↔ v.IsFaithful := readsBack_iff v
    have hrest : ofFields (toFields rest) = rest ↔ HasFaithfulFields rest :=
      fieldsReadBack_iff rest
    simp [FieldsReadBack, toFields, ofFields, HasFaithfulFields, hv, hrest]

end

/-- A tree that was read is read alike from what is written of it, though what is written is the
tree only if that is canonical; and what is written of a value is read as the value, with the fields
of every record in their order, just if the value is faithful. -/
theorem reading_settles :
    (∀ j : Json, j.IsProper →
      ofJson (ofJson j).toJson = ofJson j ∧ ((ofJson j).toJson = j ↔ j.IsCanonical)) ∧
    ∀ v : Value, ofJson v.toJson = v ↔ v.IsFaithful :=
  ⟨fun j hj => ⟨readsBack_ofJson j hj, toJson_ofJson_iff j⟩, readsBack_iff⟩

/-- The largest unsigned integer beside a handle in the form of an array with marks around it: the
inner mark is a handle, the outer one is not. -/
private def marked : Json :=
  .array [.integer (2 ^ 64 - 1), .object [("$handle", .object [("$handle",
    .array [.text "tab", .text "17"])])]]

/-- The tree is written otherwise than it was read, and reads alike all the same. -/
theorem reading_settles_marked :
    marked.IsProper ∧ ofJson (ofJson marked).toJson = ofJson marked ∧
      (ofJson marked).toJson ≠ marked := by
  have hproper : marked.IsProper := by
    simp [marked, Json.IsProper, Json.AreProper, Json.HasProperFields]
  obtain ⟨hstable, hkept⟩ := reading_settles.1 marked hproper
  refine ⟨hproper, hstable, fun h => ?_⟩
  have hcanonical := hkept.mp h
  simp [marked, Json.IsCanonical, Json.AreCanonical] at hcanonical

end Value

end Workflow

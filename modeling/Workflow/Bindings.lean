/-!
# Ordered bindings

A list of keys with their values in the order in which the keys first arrived. Writing to a key that
is present replaces its value and moves nothing; a new key goes to the end.

## Main definitions

* `Workflow.Bindings.get?`, `Workflow.Bindings.set`, `Workflow.Bindings.erase`.
* `Workflow.Bindings.ofList` — the bindings that a sequence of writes leaves.
-/

namespace Workflow

/-- Keys with their values, in order of arrival. -/
abbrev Bindings (α : Type) := List (String × α)

namespace Bindings

variable {α β : Type}

/-- The value of a key. -/
def get? : Bindings α → String → Option α
  | [], _ => none
  | (k, v) :: rest, key => if k = key then some v else get? rest key

/-- The key is bound. -/
def contains (b : Bindings α) (key : String) : Bool := (b.get? key).isSome

/-- Binds a key: in its place when it is present, at the end when it is new. -/
def set : Bindings α → String → α → Bindings α
  | [], key, value => [(key, value)]
  | (k, v) :: rest, key, value =>
    if k = key then (k, value) :: rest else (k, v) :: set rest key value

/-- Removes a key. -/
def erase : Bindings α → String → Bindings α
  | [], _ => []
  | (k, v) :: rest, key => if k = key then rest else (k, v) :: erase rest key

/-- The keys in order. -/
def keys (b : Bindings α) : List String := b.map Prod.fst

/-- Writes the entries one after another. -/
def setAll (b : Bindings α) (entries : List (String × α)) : Bindings α :=
  entries.foldl (fun b e => b.set e.1 e.2) b

/-- The bindings that writing the entries leaves: of a repeated key the last value, at the first
place. -/
def ofList (entries : List (String × α)) : Bindings α := setAll [] entries

/-- The bindings in ascending order of their keys. -/
def sorted (b : Bindings α) : Bindings α := b.mergeSort fun x y => x.1 ≤ y.1

@[simp] theorem get?_nil (key : String) : get? ([] : Bindings α) key = none := rfl

/-- A key that was written reads as the value written. -/
@[simp] theorem get?_set_self (b : Bindings α) (key : String) (value : α) :
    (b.set key value).get? key = some value := by
  induction b with
  | nil => simp [set, get?]
  | cons e rest ih =>
    obtain ⟨k, v⟩ := e
    by_cases h : k = key <;> simp [set, get?, h, ih]

/-- A write changes no other key. -/
theorem get?_set_of_ne (b : Bindings α) {key other : String} (value : α) (h : other ≠ key) :
    (b.set key value).get? other = b.get? other := by
  induction b with
  | nil => simp [set, get?, Ne.symm h]
  | cons e rest ih =>
    obtain ⟨k, v⟩ := e
    by_cases hk : k = key
    · subst hk; simp [set, get?, Ne.symm h]
    · simp [set, get?, hk, ih]

/-- Of two writes to one key the later one stays. -/
theorem set_set (b : Bindings α) (key : String) (v w : α) :
    (b.set key v).set key w = b.set key w := by
  induction b with
  | nil => simp [set]
  | cons e rest ih =>
    obtain ⟨k, u⟩ := e
    by_cases h : k = key <;> simp [set, h, ih]

/-- A key is bound exactly when it is among the keys. -/
theorem contains_iff_mem_keys (b : Bindings α) (key : String) :
    b.contains key = true ↔ key ∈ b.keys := by
  induction b with
  | nil => simp [contains, keys]
  | cons e rest ih =>
    obtain ⟨k, v⟩ := e
    by_cases hk : k = key
    · subst hk; simp [contains, get?, keys]
    · have h : contains ((k, v) :: rest) key = contains rest key := by simp [contains, get?, hk]
      rw [h, ih]
      simp [keys, Ne.symm hk]

/-- Writing to a present key moves nothing. -/
theorem keys_set_of_mem (b : Bindings α) {key : String} (value : α) (h : key ∈ b.keys) :
    (b.set key value).keys = b.keys := by
  induction b with
  | nil => simp [keys] at h
  | cons e rest ih =>
    obtain ⟨k, v⟩ := e
    by_cases hk : k = key
    · subst hk; simp [set, keys]
    · have h' : key ∈ keys rest := by
        simp only [keys, List.map_cons, List.mem_cons] at h
        exact h.resolve_left (Ne.symm hk)
      have ih' := ih h'
      simp only [keys] at ih' ⊢
      simp [set, hk, ih']

/-- A new key goes to the end. -/
theorem keys_set_of_not_mem (b : Bindings α) {key : String} (value : α) (h : key ∉ b.keys) :
    (b.set key value).keys = b.keys ++ [key] := by
  induction b with
  | nil => simp [set, keys]
  | cons e rest ih =>
    obtain ⟨k, v⟩ := e
    simp only [keys, List.map_cons, List.mem_cons, not_or] at h
    have ih' := ih h.2
    simp only [keys] at ih' ⊢
    simp [set, Ne.symm h.1, ih']

end Bindings

end Workflow
